import BravoFinder.HttpServer.ConnectionTeardown
import BravoFinder.Library.ListUpdates

namespace BravoFinder

/-!
# The server

The server hands each client it accepts to a connection of its own and keeps
the ones that are still open in `live_`, by which it knows when it is full.
The callbacks of all connections interleave on one loop; each connection still
runs as it would alone, and a shutdown closes them all in finitely many
callbacks of libuv.
-/

/-- `Server`.  A `Connection*` is the number of connections made before it. -/
structure Server (Parser : Type) where
  limits : Limits
  /-- `Limits::max_connections`, 0 for no limit. -/
  maxConnections : Nat
  listening : Bool
  conns : List (Connection Parser)
  /-- `live_`. -/
  live : List Nat

/-- What the loop calls back.  The clock of each connection advances by events of its own. -/
inductive ServerEvent where
  /-- libuv's status, whether `uv_accept` succeeds, and whether reading starts after that. -/
  | newConnection (status : Int) (accepts readStarts : Bool) (peer : Text) (now : Nat)
  | connection (raw : Nat) (event : Outside × LoopEvent)
  | shutdown
  | close

namespace ServerEvent

/-- libuv finishes something that a closing connection waits for. -/
def finishes : ServerEvent -> Bool
  | .connection _ event => Connection.finishes event.2
  | _ => false

end ServerEvent

namespace Server

variable {Parser : Type}

/-- A `Server` whose `Listen` succeeded. -/
def listen (limits : Limits) (maxConnections : Nat) : Server Parser :=
  ⟨limits, maxConnections, true, [], []⟩

/-- A callback left this of a connection; `on_closed_` erases it from `live_`. -/
def settle (raw : Nat) (conn after : Connection Parser) (server : Server Parser) : Server Parser :=
  { server with
    conns := server.conns.set raw after
    live := if conn.onClosed && !after.onClosed then server.live.erase raw else server.live }

/-- A connection that is closed right away. -/
def turnAway (conn : Connection Parser) (server : Server Parser) : Server Parser :=
  { server with conns := server.conns ++ [conn.startClose] }

/-- `OnNewConnection`. -/
def onNewConnection (llhttp : Llhttp Parser) (status : Int) (accepts readStarts : Bool) (peer : Text) (now : Nat)
    (server : Server Parser) : Server Parser :=
  if status ≠ 0 then server
  else if 0 < server.maxConnections ∧ server.maxConnections ≤ server.live.length then
    -- Full.  The client still leaves the backlog, and the accept does not matter.
    server.turnAway (Connection.untracked llhttp server.limits peer now)
  else if accepts then
    let raw := server.conns.length
    let conn := Connection.create llhttp server.limits peer now
    settle raw conn (conn.start readStarts)
      { server with conns := server.conns ++ [conn], live := raw :: server.live }
  else server.turnAway (Connection.untracked llhttp server.limits peer now)

/-- `Close`. -/
def close (server : Server Parser) : Server Parser :=
  { server with listening := false }

/-- `Connection::Close` of one connection. -/
def closeConnection (server : Server Parser) (raw : Nat) : Server Parser :=
  match server.conns[raw]? with
  | some conn => server.settle raw conn conn.startClose
  | none => server

/-- `Shutdown`, over a snapshot of `live_`. -/
def shutdown (server : Server Parser) : Server Parser :=
  server.live.foldl closeConnection server.close

/-- One callback of the loop, `none` when libuv does not make it in this state. -/
def step (llhttp : Llhttp Parser) (server : Server Parser) : ServerEvent -> Option (Server Parser)
  | .newConnection status accepts readStarts peer now =>
      if server.listening then some (server.onNewConnection llhttp status accepts readStarts peer now) else none
  | .connection raw event =>
      server.conns[raw]?.bind fun conn => (conn.step llhttp event).map fun after => server.settle raw conn after
  | .shutdown => some server.shutdown
  | .close => some server.close

/-! ## What is live -/

variable {llhttp : Llhttp Parser} {limits : Limits} {maxConnections : Nat} {server after : Server Parser}
variable {raw : Nat} {conn next : Connection Parser}

/-- The invariant between callbacks: `live_` has the connections whose `on_closed_` is set. -/
structure Invariant (llhttp : Llhttp Parser) (limits : Limits) (maxConnections : Nat) (server : Server Parser) :
    Prop where
  limits_eq : server.limits = limits
  max_eq : server.maxConnections = maxConnections
  nodup : server.live.Nodup
  le_max : 0 < maxConnections -> server.live.length ≤ maxConnections
  live : forall raw, raw ∈ server.live ↔ exists conn, server.conns[raw]? = some conn ∧ conn.onClosed = true
  clients : forall (raw : Nat) conn, server.conns[raw]? = some conn -> Connection.Client llhttp limits conn

namespace Invariant

theorem initial : Invariant llhttp limits maxConnections (listen limits maxConnections) where
  limits_eq := rfl
  max_eq := rfl
  nodup := List.nodup_nil
  le_max := fun _ => Nat.zero_le _
  live := by simp [listen]
  clients := by simp [listen]

theorem settle (invariant : Invariant llhttp limits maxConnections server)
    (found : server.conns[raw]? = some conn) (client : Connection.Client llhttp limits next)
    (teardown : conn.Teardown next) :
    Invariant llhttp limits maxConnections (server.settle raw conn next) where
  limits_eq := invariant.limits_eq
  max_eq := invariant.max_eq
  nodup := by
    unfold Server.settle
    dsimp only
    split
    · exact invariant.nodup.erase raw
    · exact invariant.nodup
  le_max := by
    intro limited
    refine le_trans ?_ (invariant.le_max limited)
    unfold Server.settle
    dsimp only
    split
    · exact List.length_erase_le
    · exact le_rfl
  live := by
    intro other
    have before := invariant.live other
    unfold Server.settle
    dsimp only
    rw [getElem?_set_of_found found other]
    by_cases same : raw = other
    · subst same
      rw [found] at before
      rw [if_pos rfl]
      split
      case isTrue notified =>
        rw [Bool.and_eq_true_iff, Bool.not_eq_true'] at notified
        simp [invariant.nodup.mem_erase_iff, notified.2]
      case isFalse unnotified =>
        have kept : conn.onClosed = next.onClosed := by
          have silent := teardown.silent
          revert silent unnotified
          cases conn.onClosed <;> cases next.onClosed <;> simp
        simpa [kept] using before
    · rw [if_neg same, ← before]
      split
      · rw [invariant.nodup.mem_erase_iff]
        exact and_iff_right (Ne.symm same)
      · exact Iff.rfl
  clients := by
    intro other conn' found'
    change (server.conns.set raw next)[other]? = some conn' at found'
    rw [getElem?_set_of_found found other] at found'
    split at found'
    · cases found'
      exact client
    · exact invariant.clients other conn' found'

theorem turnAway (invariant : Invariant llhttp limits maxConnections server) (peer : Text) (now : Nat) :
    Invariant llhttp limits maxConnections (server.turnAway (Connection.untracked llhttp limits peer now)) where
  limits_eq := invariant.limits_eq
  max_eq := invariant.max_eq
  nodup := invariant.nodup
  le_max := invariant.le_max
  live := by
    intro other
    refine (invariant.live other).trans (exists_congr fun conn => ?_)
    constructor
    · rintro ⟨found, set⟩
      exact ⟨getElem?_concat.mpr (.inl found), set⟩
    · rintro ⟨found, set⟩
      rcases getElem?_concat.mp found with found | ⟨_, rfl⟩
      · exact ⟨found, set⟩
      · cases (Connection.turnedAway_untracked peer now).silent.symm.trans set
  clients := by
    intro other conn found
    rcases getElem?_concat.mp found with found | ⟨_, rfl⟩
    · exact invariant.clients other conn found
    · exact .inr (Connection.turnedAway_untracked peer now)

/-- The new connection is open, whether or not reading starts. -/
theorem onClosed_accepted (peer : Text) (now : Nat) (readStarts : Bool) :
    (Connection.accepted llhttp limits peer now readStarts).onClosed = true := by
  cases readStarts <;> rfl

theorem serve (invariant : Invariant llhttp limits maxConnections server)
    (room : 0 < maxConnections -> server.live.length < maxConnections) (peer : Text) (now : Nat)
    (readStarts : Bool) :
    Invariant llhttp limits maxConnections { server with
      conns := server.conns ++ [Connection.accepted llhttp limits peer now readStarts]
      live := server.conns.length :: server.live } where
  limits_eq := invariant.limits_eq
  max_eq := invariant.max_eq
  nodup := by
    refine List.nodup_cons.mpr ⟨?_, invariant.nodup⟩
    intro among
    rcases (invariant.live _).mp among with ⟨conn, found, _⟩
    exact lt_irrefl _ (List.getElem?_eq_some_iff.mp found).1
  le_max := room
  live := by
    intro other
    rw [List.mem_cons, invariant.live other]
    constructor
    · rintro (rfl | ⟨conn, found, set⟩)
      · exact ⟨_, getElem?_concat.mpr (.inr ⟨rfl, rfl⟩), onClosed_accepted peer now readStarts⟩
      · exact ⟨conn, getElem?_concat.mpr (.inl found), set⟩
    · rintro ⟨conn, found, set⟩
      rcases getElem?_concat.mp found with found | ⟨last, _⟩
      · exact .inr ⟨conn, found, set⟩
      · exact .inl last
  clients := by
    intro other conn found
    rcases getElem?_concat.mp found with found | ⟨_, rfl⟩
    · exact invariant.clients other conn found
    · exact .inl ⟨peer, now, readStarts, [], rfl⟩

end Invariant

/-- Everything `OnNewConnection` can do: nothing, turn the client away, or serve it. -/
theorem onNewConnection_cases (llhttp : Llhttp Parser) (server : Server Parser) (status : Int)
    (accepts readStarts : Bool) (peer : Text) (now : Nat) :
    status ≠ 0 ∧ server.onNewConnection llhttp status accepts readStarts peer now = server ∨
      (accepts = true -> 0 < server.maxConnections ∧ server.maxConnections ≤ server.live.length) ∧
        server.onNewConnection llhttp status accepts readStarts peer now =
          server.turnAway (Connection.untracked llhttp server.limits peer now) ∨
      accepts = true ∧ (0 < server.maxConnections -> server.live.length < server.maxConnections) ∧
        server.onNewConnection llhttp status accepts readStarts peer now = { server with
          conns := server.conns ++ [Connection.accepted llhttp server.limits peer now readStarts]
          live := server.conns.length :: server.live } := by
  unfold onNewConnection
  split
  case isTrue failed => exact .inl ⟨failed, rfl⟩
  split
  case isTrue full => exact .inr (.inl ⟨fun _ => full, rfl⟩)
  case isFalse room =>
    split
    case isTrue accepted =>
      refine .inr (.inr ⟨accepted, fun limited => Nat.lt_of_not_le fun full => room ⟨limited, full⟩, ?_⟩)
      have set : ((Connection.create llhttp server.limits peer now).start readStarts).onClosed = true :=
        Invariant.onClosed_accepted peer now readStarts
      simp [settle, set, Connection.accepted]
    case isFalse refused => exact .inr (.inl ⟨fun accepted => absurd accepted refused, rfl⟩)

namespace Invariant

theorem onNewConnection (invariant : Invariant llhttp limits maxConnections server) (status : Int)
    (accepts readStarts : Bool) (peer : Text) (now : Nat) :
    Invariant llhttp limits maxConnections (server.onNewConnection llhttp status accepts readStarts peer now) := by
  rcases server.onNewConnection_cases llhttp status accepts readStarts peer now with
    ⟨_, same⟩ | ⟨_, turned⟩ | ⟨_, room, admitted⟩
  · rw [same]
    exact invariant
  · rw [turned, invariant.limits_eq]
    exact invariant.turnAway peer now
  · cases invariant.limits_eq
    rw [invariant.max_eq] at room
    rw [admitted]
    exact invariant.serve room peer now readStarts

theorem closeConnection (invariant : Invariant llhttp limits maxConnections server) (raw : Nat) :
    Invariant llhttp limits maxConnections (server.closeConnection raw) := by
  unfold Server.closeConnection
  split
  case h_1 conn found =>
    exact invariant.settle found (invariant.clients raw conn found).startClose .startClose
  case h_2 => exact invariant

theorem shutdown (invariant : Invariant llhttp limits maxConnections server) :
    Invariant llhttp limits maxConnections server.shutdown := by
  have closed : Invariant llhttp limits maxConnections server.close := { invariant with }
  unfold Server.shutdown
  generalize server.live = snapshot
  generalize server.close = start at closed
  induction snapshot generalizing start with
  | nil => exact closed
  | cons raw rest inductionHypothesis => exact inductionHypothesis _ (closed.closeConnection raw)

theorem step (invariant : Invariant llhttp limits maxConnections server) {event : ServerEvent}
    (taken : server.step llhttp event = some after) : Invariant llhttp limits maxConnections after := by
  cases event with
  | newConnection status accepts readStarts peer now =>
      simp only [Server.step, Option.ite_none_right_eq_some, Option.some.injEq] at taken
      rcases taken with ⟨_, rfl⟩
      exact invariant.onNewConnection status accepts readStarts peer now
  | connection raw event =>
      simp only [Server.step, Option.bind_eq_some_iff, Option.map_eq_some_iff] at taken
      rcases taken with ⟨conn, found, next, taken, rfl⟩
      exact invariant.settle found ((invariant.clients raw conn found).step taken) (.step taken)
  | shutdown =>
      cases taken
      exact invariant.shutdown
  | close =>
      cases taken
      exact { invariant with }

theorem runs {events : List ServerEvent}
    (ran : BravoFinder.runs (Server.step llhttp) (listen limits maxConnections) events = some server) :
    Invariant llhttp limits maxConnections server :=
  runs_invariant (Invariant llhttp limits maxConnections) (fun held taken => held.step taken) initial ran

end Invariant

/-- What the server knows of its connections. -/
structure Tracks (llhttp : Llhttp Parser) (limits : Limits) (maxConnections : Nat) (server : Server Parser) :
    Prop where
  nodup : server.live.Nodup
  le_max : 0 < maxConnections -> server.live.length ≤ maxConnections
  made : forall raw, raw ∈ server.live -> raw < server.conns.length
  /-- A connection runs as if it were alone, and is live until both its handles are closed; or it was turned away. -/
  clients : forall (raw : Nat) conn, server.conns[raw]? = some conn ->
    conn.Served llhttp limits ∧ (raw ∈ server.live ↔ ¬ (conn.tcp = .closed ∧ conn.timer = .closed)) ∨
      conn.TurnedAway ∧ raw ∉ server.live
  /-- The next client that is accepted is served as long as there is room. -/
  admits : forall accepts readStarts peer now,
    server.conns.length ∈ (server.onNewConnection llhttp 0 accepts readStarts peer now).live ↔
      accepts = true ∧ (0 < maxConnections -> server.live.length < maxConnections)

/-- In every interleaving of the callbacks of all connections with new clients,
closes and shutdowns, `live_` has no connection twice and no more than the limit
allows.  A connection that was accepted is in a state it could reach on its own,
and is in `live_` exactly until both its handles are closed; one that was not is
never in it, and has only been closed.  Whether the next accepted client is
served depends on the room in `live_` alone. -/
theorem runs_tracks {events : List ServerEvent}
    (ran : runs (step llhttp) (listen limits maxConnections) events = some server) :
    Tracks llhttp limits maxConnections server := by
  have invariant := Invariant.runs ran
  have live : forall {raw : Nat} {conn}, server.conns[raw]? = some conn ->
      (raw ∈ server.live ↔ conn.onClosed = true) := by
    intro raw conn found
    rw [invariant.live raw, found]
    simp
  constructor
  case nodup => exact invariant.nodup
  case le_max => exact invariant.le_max
  case made =>
    intro raw among
    rcases (invariant.live raw).mp among with ⟨conn, found, _⟩
    exact (List.getElem?_eq_some_iff.mp found).1
  case clients =>
    intro raw conn found
    rcases invariant.clients raw conn found with served | away
    · exact .inl ⟨served, (live found).trans served.onClosed_iff⟩
    · refine .inr ⟨away, ?_⟩
      rw [live found, away.silent]
      exact Bool.false_ne_true
  case admits =>
    intro accepts readStarts peer now
    have unmade : server.conns.length ∉ server.live := by
      intro among
      rcases (invariant.live _).mp among with ⟨conn, found, _⟩
      exact lt_irrefl _ (List.getElem?_eq_some_iff.mp found).1
    rcases server.onNewConnection_cases llhttp 0 accepts readStarts peer now with
      ⟨failed, _⟩ | ⟨full, turned⟩ | ⟨accepted, room, admitted⟩
    · exact absurd rfl failed
    · rw [turned]
      refine iff_of_false unmade ?_
      rintro ⟨accepted, room⟩
      rw [invariant.max_eq] at full
      exact absurd (full accepted).2 (Nat.not_le.mpr (room (full accepted).1))
    · rw [admitted]
      rw [invariant.max_eq] at room
      exact iff_of_true List.mem_cons_self ⟨accepted, room⟩

def sampleCallback (raw : Nat) (event : LoopEvent) : ServerEvent :=
  .connection raw (Connection.sampleOutside, event)

/-- Two clients of a server for one, which turns the second away. -/
def sampleClients : List ServerEvent :=
  [.newConnection 0 true true [] 1, .newConnection 0 true true [] 1,
    sampleCallback 0 (.read Connection.sampleRequest), sampleCallback 0 Connection.sampleAnswer,
    sampleCallback 1 (.handleClosed .tcp)]

theorem runs_tracks_sample :
    exists server, runs (step Connection.sampleParser) (listen Connection.sampleLimits 1) sampleClients =
      some server ∧ Tracks Connection.sampleParser Connection.sampleLimits 1 server := by
  have ran : (runs (step Connection.sampleParser) (listen Connection.sampleLimits 1) sampleClients).isSome := by
    decide +kernel
  rcases Option.isSome_iff_exists.mp ran with ⟨server, ran⟩
  exact ⟨server, ran, runs_tracks ran⟩

/-! ## Shutdown -/

/-- What libuv has to finish for all connections. -/
def outstanding (server : Server Parser) : Nat :=
  (server.conns.map Connection.outstanding).sum

/-- `Shutdown` has run. -/
structure Stopped (server : Server Parser) : Prop where
  listening : server.listening = false
  closing : forall (raw : Nat) conn, server.conns[raw]? = some conn -> conn.closing = true

theorem listening_foldl (snapshot : List Nat) :
    (snapshot.foldl closeConnection server).listening = server.listening := by
  induction snapshot generalizing server with
  | nil => rfl
  | cons raw rest inductionHypothesis =>
      refine inductionHypothesis.trans ?_
      unfold closeConnection
      split <;> rfl

/-- The connections of the snapshot are closing afterwards, and the others as they were. -/
theorem closing_foldl (snapshot : List Nat) {raw : Nat} {conn : Connection Parser}
    (found : (snapshot.foldl closeConnection server).conns[raw]? = some conn) :
    conn.closing = true ∨ raw ∉ snapshot ∧ server.conns[raw]? = some conn := by
  induction snapshot generalizing server with
  | nil => exact .inr ⟨List.not_mem_nil, found⟩
  | cons first rest inductionHypothesis =>
      rcases inductionHypothesis found with closing | ⟨unlisted, remains⟩
      · exact .inl closing
      unfold closeConnection at remains
      split at remains
      case h_1 closed known =>
        change (server.conns.set first closed.startClose)[raw]? = some conn at remains
        rw [getElem?_set_of_found known raw] at remains
        split at remains
        · cases remains
          exact .inl Connection.startClose_closing
        case isFalse other => exact .inr ⟨List.not_mem_cons_of_ne_of_not_mem (Ne.symm other) unlisted, remains⟩
      case h_2 unknown =>
        refine .inr ⟨List.not_mem_cons_of_ne_of_not_mem ?_ unlisted, remains⟩
        rintro rfl
        cases unknown.symm.trans remains

theorem Invariant.stopped_shutdown (invariant : Invariant llhttp limits maxConnections server) :
    server.shutdown.Stopped where
  listening := listening_foldl server.live
  closing := by
    intro raw conn found
    rcases closing_foldl server.live found with closing | ⟨absent, found⟩
    · exact closing
    · apply (invariant.clients raw conn found).closing
      apply Bool.eq_false_iff.mpr
      intro set
      exact absent ((invariant.live raw).mpr ⟨conn, found, set⟩)

theorem closeConnection_of_closing (closing : forall conn, server.conns[raw]? = some conn -> conn.closing = true) :
    server.closeConnection raw = server := by
  unfold closeConnection
  split
  case h_1 conn found =>
    rw [Connection.startClose_of_closing (closing conn found), settle]
    have same : server.conns.set raw conn = server.conns := by
      apply List.ext_getElem?
      intro other
      rw [getElem?_set_of_found found other]
      split
      case isTrue same => rw [← same, found]
      case isFalse => rfl
    have open_ : (conn.onClosed && !conn.onClosed) = false := Bool.and_not_self conn.onClosed
    rw [same, open_]
    rfl
  case h_2 => rfl

theorem Stopped.shutdown_eq (stopped : server.Stopped) : server.shutdown = server := by
  have closed : server.close = server := by
    unfold Server.close
    rw [← stopped.listening]
  unfold Server.shutdown
  rw [closed]
  generalize server.live = snapshot
  induction snapshot with
  | nil => rfl
  | cons raw rest inductionHypothesis =>
      rw [List.foldl_cons, closeConnection_of_closing (stopped.closing raw)]
      exact inductionHypothesis

/-- What is outstanding changes by that of the connection that is replaced. -/
theorem sum_set {conns : List (Connection Parser)} (next : Connection Parser) (found : conns[raw]? = some conn) :
    ((conns.set raw next).map Connection.outstanding).sum + conn.outstanding =
      (conns.map Connection.outstanding).sum + next.outstanding := by
  induction conns generalizing raw with
  | nil => cases found
  | cons first rest inductionHypothesis =>
      cases raw with
      | zero =>
          cases found
          simp only [List.set_cons_zero, List.map_cons, List.sum_cons]
          omega
      | succ raw =>
          have rest := inductionHypothesis found
          simp only [List.set_cons_succ, List.map_cons, List.sum_cons]
          omega

theorem Stopped.step (stopped : server.Stopped) (invariant : Invariant llhttp limits maxConnections server)
    {event : ServerEvent} (taken : server.step llhttp event = some after) :
    after.Stopped ∧ after.conns.length = server.conns.length ∧
      after.outstanding + event.finishes.toNat = server.outstanding := by
  cases event with
  | newConnection =>
      simp only [Server.step, Option.ite_none_right_eq_some] at taken
      cases stopped.listening.symm.trans taken.1
  | connection raw event =>
      simp only [Server.step, Option.bind_eq_some_iff, Option.map_eq_some_iff] at taken
      rcases taken with ⟨conn, found, next, taken, rfl⟩
      have leaving := (invariant.clients raw conn found).leaving (stopped.closing raw conn found)
      rcases leaving.step taken with ⟨closing, outstanding⟩
      refine ⟨⟨stopped.listening, ?_⟩, List.length_set, ?_⟩
      · intro other conn' found'
        change (server.conns.set raw next)[other]? = some conn' at found'
        rw [getElem?_set_of_found found other] at found'
        split at found'
        · cases found'
          exact closing
        · exact stopped.closing other conn' found'
      · have sum := sum_set next found
        show ((server.conns.set raw next).map Connection.outstanding).sum +
          (Connection.finishes event.2).toNat = server.outstanding
        rw [Server.outstanding]
        omega
  | shutdown =>
      cases taken
      rw [stopped.shutdown_eq]
      exact ⟨stopped, rfl, rfl⟩
  | close =>
      cases taken
      exact ⟨⟨rfl, stopped.closing⟩, rfl, rfl⟩

/-- As long as something is open, libuv has something to finish. -/
theorem Stopped.drained_or (stopped : server.Stopped) (invariant : Invariant llhttp limits maxConnections server) :
    (server.live = [] ∧ forall conn, conn ∈ server.conns -> conn.tcp = .closed ∧ conn.timer = .closed) ∨
      exists event, event.finishes = true ∧ (server.step llhttp event).isSome = true := by
  by_cases closed : forall conn, conn ∈ server.conns -> conn.tcp = .closed ∧ conn.timer = .closed
  · refine .inl ⟨?_, closed⟩
    apply List.eq_nil_iff_forall_not_mem.mpr
    intro raw among
    rcases (invariant.live raw).mp among with ⟨conn, found, set⟩
    rcases invariant.clients raw conn found with served | away
    · exact served.onClosed_iff.mp set (closed conn (List.mem_of_getElem? found))
    · cases away.silent.symm.trans set
  · push Not at closed
    rcases closed with ⟨conn, among, open_⟩
    rcases List.getElem?_of_mem among with ⟨raw, found⟩
    have leaving := (invariant.clients raw conn found).leaving (stopped.closing raw conn found)
    have unclosed : ¬ (conn.tcp = .closed ∧ conn.timer = .closed) := fun both => open_ both.1 both.2
    rcases leaving.exists_finishing llhttp unclosed with ⟨event, finishes, enabled⟩
    refine .inr ⟨.connection raw event, finishes, ?_⟩
    simpa [Server.step, found] using enabled

/-- After a shutdown no client comes any more, and each thing libuv finishes is
one of those it had to finish then, so that it can finish no more than these.
It has something to finish until `live_` is empty and every handle is closed. -/
theorem runs_drains {past rest : List ServerEvent}
    (ran : runs (step llhttp) (listen limits maxConnections) (past ++ .shutdown :: rest) = some server) :
    exists down, runs (step llhttp) (listen limits maxConnections) (past ++ [.shutdown]) = some down ∧
      server.conns.length = down.conns.length ∧
      server.outstanding + rest.countP ServerEvent.finishes = down.outstanding ∧
      ((server.live = [] ∧ forall conn, conn ∈ server.conns -> conn.tcp = .closed ∧ conn.timer = .closed) ∨
        exists event, event.finishes = true ∧ (server.step llhttp event).isSome = true) := by
  rcases exists_between ran with ⟨before, reached, onward⟩
  rw [runs_cons, step, Option.bind_some] at onward
  have invariant := Invariant.runs reached
  have down : Invariant llhttp limits maxConnections before.shutdown := invariant.shutdown
  have kept : Invariant llhttp limits maxConnections server ∧ server.Stopped ∧
      server.conns.length = before.shutdown.conns.length ∧
      server.outstanding + rest.countP ServerEvent.finishes = before.shutdown.outstanding := by
    refine runs_induction (fun past server => Invariant llhttp limits maxConnections server ∧ server.Stopped ∧
      server.conns.length = before.shutdown.conns.length ∧
      server.outstanding + past.countP ServerEvent.finishes = before.shutdown.outstanding)
      ⟨down, invariant.stopped_shutdown, rfl, rfl⟩ ?_ onward
    rintro past server event after _ ⟨invariant, stopped, length, outstanding⟩ taken
    rcases stopped.step invariant taken with ⟨stopped, same, less⟩
    refine ⟨invariant.step taken, stopped, same.trans length, ?_⟩
    rw [List.countP_append, List.countP_singleton, ← outstanding, ← less]
    cases event.finishes with
    | true => simp only [Bool.toNat_true, if_true]; omega
    | false => simp only [Bool.toNat_false, Bool.false_eq_true, if_false]; omega
  refine ⟨before.shutdown, ?_, kept.2.2.1, kept.2.2.2, kept.2.1.drained_or kept.1⟩
  rw [runs_append, reached, Option.bind_some]
  rfl

/-- The first client is still being answered at the shutdown; libuv finishes the write before the socket. -/
def sampleRest : List ServerEvent :=
  [sampleCallback 0 (.handleClosed .timer), sampleCallback 0 (.writeDone false),
    sampleCallback 0 (.handleClosed .tcp), sampleCallback 1 (.handleClosed .timer)]

theorem runs_drains_sample :
    exists server down, runs (step Connection.sampleParser) (listen Connection.sampleLimits 1)
        (sampleClients ++ .shutdown :: sampleRest) = some server ∧
      runs (step Connection.sampleParser) (listen Connection.sampleLimits 1) (sampleClients ++ [.shutdown]) =
        some down ∧
      server.conns.length = down.conns.length ∧
      server.outstanding + sampleRest.countP ServerEvent.finishes = down.outstanding ∧
      ((server.live = [] ∧ forall conn, conn ∈ server.conns -> conn.tcp = .closed ∧ conn.timer = .closed) ∨
        exists event, event.finishes = true ∧ (server.step Connection.sampleParser event).isSome = true) := by
  have ran : (runs (step Connection.sampleParser) (listen Connection.sampleLimits 1)
      (sampleClients ++ .shutdown :: sampleRest)).isSome := by
    decide +kernel
  rcases Option.isSome_iff_exists.mp ran with ⟨server, ran⟩
  rcases runs_drains ran with ⟨down, drained⟩
  exact ⟨server, down, ran, drained⟩

end Server
end BravoFinder
