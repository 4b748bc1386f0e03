import BravoFinder.HttpServer.ConnectionRules

namespace BravoFinder

/-!
# One answer a request

Every event keeps the rules of the connection.  Between events there is room
for a request exactly while no response is awaited.
-/

namespace Connection

variable {Parser : Type} {llhttp : Llhttp Parser} {limits : Limits} {peer : Text} {conn after : Connection Parser}
variable {outside : Outside}

/-- The flags that outlive a callback and belong to one request. -/
def flags (conn : Connection Parser) : Bool × Bool × Bool × Bool × Bool :=
  (conn.awaitingResponse, conn.forceCloseAfterResponse, conn.streaming, conn.headRequest, conn.closeAfterShutdown)

theorem flags_notifyClosed : conn.notifyClosed.flags = conn.flags := by
  unfold notifyClosed
  split <;> rfl

theorem flags_startClose : conn.startClose.flags = conn.flags := by
  unfold startClose closeTcp closeTimer notifyClosed emit
  split_ifs <;> rfl

theorem flags_writeRaw {payload : Text} {mode : WriteMode} :
    (conn.writeRaw outside payload mode).flags = conn.flags := by
  rcases writeRaw_cases conn outside payload mode with ⟨_, same⟩ | ⟨_, started, closes | queues⟩
  · rw [same]
  · rw [closes]
    exact flags_startClose
  · rw [queues]
    rfl

theorem flags_onHandleClosed {handle : Handle} : (conn.onHandleClosed handle).flags = conn.flags := by
  cases handle <;> exact flags_notifyClosed

/-- The room for another request. -/
def room (conn : Connection Parser) : Nat :=
  if conn.awaitingResponse then 0 else 1

/-- No request is in flight, and nothing is left of the last one. -/
def Idle (conn : Connection Parser) : Prop :=
  conn.flags = (false, false, false, false, false)

/-- The invariant between events. -/
structure Stable (llhttp : Llhttp Parser) (limits : Limits) (peer : Text) (conn : Connection Parser) : Prop where
  sound : Sound llhttp limits peer conn conn.room conn.room
  idle : conn.awaitingResponse = false -> conn.Idle

namespace Stable

/-- A callback that leaves the flags alone. -/
theorem of_flags (stable : Stable llhttp limits peer conn) (same : after.flags = conn.flags)
    (sound : Sound llhttp limits peer after conn.room conn.room) : Stable llhttp limits peer after := by
  have awaiting : after.awaitingResponse = conn.awaitingResponse := congrArg Prod.fst same
  constructor
  · unfold room
    rw [awaiting]
    exact sound
  · intro none
    exact same.trans (stable.idle (awaiting ▸ none))

/-- A callback after which a response is awaited. -/
theorem of_awaiting (awaiting : after.awaitingResponse = true) (sound : Sound llhttp limits peer after 0 0) :
    Stable llhttp limits peer after := by
  constructor
  · unfold room
    rw [awaiting]
    exact sound
  · intro none
    cases awaiting.symm.trans none

theorem startClose (stable : Stable llhttp limits peer conn) : Stable llhttp limits peer conn.startClose :=
  stable.of_flags flags_startClose stable.sound.startClose

theorem refuse (sound : Sound llhttp limits peer conn 1 0) {status : Int} {message : Text} :
    Stable llhttp limits peer (conn.refuse outside status message) := by
  have flags : (conn.refuse outside status message).flags = { conn with awaitingResponse := true }.flags :=
    flags_writeRaw
  exact of_awaiting (congrArg Prod.fst flags) sound.refuse

/-- 408 is for a connection that has not dispatched anything since its reset. -/
theorem timedOut (sound : Sound llhttp limits peer conn 1 0) (undispatched : dispatches conn.log = 0)
    {status : Int} {message : Text} :
    Stable llhttp limits peer ((conn.emit .timedOut).refuse outside status message) :=
  refuse (sound.emit_quiet rfl rfl (show Allowed llhttp limits peer .timedOut conn.log from undispatched))

theorem dispatch (sound : Sound llhttp limits peer conn 1 1) (running : conn.closing = false)
    (awaiting : conn.awaitingResponse = true) : Stable llhttp limits peer (conn.dispatch llhttp) :=
  of_awaiting awaiting (sound.dispatch running)

theorem room_of_awaiting (awaiting : conn.awaitingResponse = true) : conn.room = 0 := by
  rw [room, awaiting]
  rfl

theorem room_of_idle (idle : conn.awaitingResponse = false) : conn.room = 1 := by
  rw [room, idle]
  rfl

/-- Bytes that arrive while a response is awaited are dropped. -/
theorem drop (stable : Stable llhttp limits peer conn) (awaiting : conn.awaitingResponse = true) (bytes : Text) :
    Stable llhttp limits peer ({ conn.emit (.received conn.now bytes) with
      forceCloseAfterResponse := true
      assembly := { conn.assembly with keepAlive := false } }.emit .discarded) := by
  have sound := stable.sound
  rw [room_of_awaiting awaiting] at sound
  have received := sound.receive conn.now bytes { conn.assembly with keepAlive := false }
    (fun positive => absurd positive (lt_irrefl 0))
  have forced : Sound llhttp limits peer { conn.emit (.received conn.now bytes) with
      forceCloseAfterResponse := true
      assembly := { conn.assembly with keepAlive := false } } 0 0 :=
    { received with handles := { received.handles with } }
  exact of_awaiting awaiting (forced.emit_quiet rfl rfl trivial)

/-- That bytes were thrown away is only noted. -/
theorem discard (stable : Stable llhttp limits peer conn) : Stable llhttp limits peer (conn.emit .discarded) :=
  ⟨stable.sound.emit_quiet rfl rfl trivial, stable.idle⟩

theorem onExecuted {bytes : Text} {err : LlhttpErrno} {errorPos : Option Nat} (idle : conn.Idle)
    (running : conn.closing = false)
    (sound : Sound llhttp limits peer { conn with assembly := conn.assembly.settle bytes errorPos } 1 1) :
    Stable llhttp limits peer (conn.onExecuted llhttp outside bytes err errorPos) := by
  have unassembled : Sound llhttp limits peer conn 1 0 := sound.reassemble conn.assembly
  unfold Connection.onExecuted
  split
  · exact refuse unassembled
  split
  case isTrue ready =>
    split
    case isTrue leftOver =>
      have settled : conn.assembly.settle bytes errorPos = { conn.assembly with keepAlive := false } :=
        if_pos (Bool.and_eq_true_iff.mpr ⟨ready, leftOver⟩)
      rw [settled] at sound
      have forced : Sound llhttp limits peer { conn with
          assembly := { conn.assembly with keepAlive := false }
          forceCloseAfterResponse := true
          awaitingResponse := true } 1 1 := { sound with handles := { sound.handles with } }
      exact dispatch forced running rfl
    case isFalse all =>
      have settled : conn.assembly.settle bytes errorPos = conn.assembly :=
        if_neg fun both => all (Bool.and_eq_true_iff.mp both).2
      rw [settled] at sound
      exact dispatch sound.awaiting running rfl
  case isFalse unready =>
    have settled : conn.assembly.settle bytes errorPos = conn.assembly :=
      if_neg fun both => unready (Bool.and_eq_true_iff.mp both).1
    rw [settled] at sound
    split
    · exact refuse unassembled
    · have awaiting : conn.awaitingResponse = false := congrArg Prod.fst idle
      constructor
      · rw [room_of_idle awaiting]
        exact sound
      · exact fun _ => idle

theorem onRead (stable : Stable llhttp limits peer conn) (running : conn.closing = false) (bytes : Text) :
    Stable llhttp limits peer (conn.onRead llhttp outside bytes) := by
  unfold Connection.onRead
  split
  · exact stable
  dsimp only
  split
  case isTrue awaiting => exact stable.drop awaiting bytes
  case isFalse notAwaiting =>
    have idle : conn.awaitingResponse = false := Bool.eq_false_iff.mpr notAwaiting
    have sound := stable.sound
    rw [room_of_idle idle] at sound
    split
    case isTrue =>
      have undispatched : dispatches (.received conn.now bytes :: conn.log) = 0 := by
        rw [dispatches_cons]
        exact Nat.le_zero.mp (Nat.le_of_succ_le_succ sound.requests_le)
      have received := (sound.mono le_rfl (Nat.zero_le 1)).receive conn.now bytes conn.assembly
        (fun positive => absurd positive (lt_irrefl 0))
      exact timedOut received undispatched
    case isFalse =>
      have received := sound.receive conn.now bytes (conn.assembly.absorb llhttp limits conn.now bytes)
        (fun _ => rfl)
      rw [sound.limits_eq]
      split
      · apply Stable.discard
        exact onExecuted (stable.idle idle) running received.restartTimer
      · exact onExecuted (stable.idle idle) running received.restartTimer

theorem onTimeout (stable : Stable llhttp limits peer conn) : Stable llhttp limits peer (conn.onTimeout outside) := by
  unfold Connection.onTimeout
  split
  · exact stable.startClose
  split
  · exact stable.startClose
  split
  · split
    · exact stable.startClose
    · exact stable.of_flags rfl stable.sound.restartTimer
  case isFalse notAwaiting =>
    have idle : conn.awaitingResponse = false := Bool.eq_false_iff.mpr notAwaiting
    have sound := stable.sound
    rw [room_of_idle idle] at sound
    split
    · exact timedOut (sound.mono le_rfl (Nat.zero_le 1)) (Nat.le_zero.mp (Nat.le_of_succ_le_succ sound.requests_le))
    · exact stable.startClose

/-- libuv has finished the oldest write. -/
theorem popped (stable : Stable llhttp limits peer conn) {done : WriteReq} {rest : List WriteReq}
    (first : conn.writes = done :: rest) : Stable llhttp limits peer { conn with writes := rest } := by
  have queued := stable.sound.queued_le
  rw [first, List.countP_cons] at queued
  exact stable.of_flags rfl { stable.sound with
    queued_le := le_trans (Nat.le_add_right _ _) queued
    handles := { stable.sound.handles with } }

theorem onWriteDone (stable : Stable llhttp limits peer conn) {done : WriteReq} {rest : List WriteReq}
    (first : conn.writes = done :: rest) (succeeded : Bool) :
    Stable llhttp limits peer ({ conn with writes := rest }.onWriteDone llhttp outside done.mode succeeded) := by
  have popped := stable.popped first
  have queued := stable.sound.queued_le
  rw [first, List.countP_cons] at queued
  unfold Connection.onWriteDone
  split
  · exact popped
  split
  · exact popped.startClose
  -- A response that is done leaves room for neither a further answer nor a further request.
  have answered : done.mode ≠ .kStream -> conn.owed = 0 ∧ conn.room = 0 ∧
      rest.countP (fun write => write.mode ≠ .kStream) = 0 := by
    intro response
    rw [if_pos (decide_eq_true response)] at queued
    have room := stable.sound.answers_le
    omega
  split
  case h_1 => exact popped.of_flags rfl (popped.sound.stamp 0)
  case h_2 keepAlive =>
    rcases answered (by simp [keepAlive]) with ⟨owed, _, written⟩
    have sound := (popped.sound.stamp 0).reset owed written
    exact ⟨sound, fun _ => rfl⟩
  case h_3 close =>
    rcases answered (by simp [close]) with ⟨_, room, _⟩
    have awaiting : conn.awaitingResponse = true := by
      by_contra idle
      rw [room_of_idle (Bool.eq_false_iff.mpr idle)] at room
      cases room
    refine of_awaiting ?_ ((popped.sound.stamp 0).shutdownThenClose.mono (Nat.zero_le _) (Nat.zero_le _))
    rw [← awaiting]
    unfold Connection.shutdownThenClose
    split
    · rfl
    · split
      · rfl
      · exact congrArg Prod.fst flags_startClose

theorem awaiting_of_owed (stable : Stable llhttp limits peer conn) (owes : 0 < conn.owed) :
    conn.awaitingResponse = true := by
  have room := stable.sound.answers_le
  by_contra idle
  rw [room_of_idle (Bool.eq_false_iff.mpr idle)] at room
  omega

/-- The handler gives an answer it owes, which there is room for. -/
theorem owing (stable : Stable llhttp limits peer conn) (owes : 0 < conn.owed) :
    Sound llhttp limits peer { conn with owed := conn.owed - 1 } 1 0 := by
  have sound := stable.sound
  rw [room_of_awaiting (stable.awaiting_of_owed owes)] at sound
  exact { sound with
    answers_le := by
      have room := sound.answers_le
      show responses conn.log + (conn.owed - 1) + 1 ≤ 1
      omega
    handles := { sound.handles with } }

/-- The handler answers a request, which it does once. -/
theorem onAnswer (stable : Stable llhttp limits peer conn) (owes : 0 < conn.owed) (answer : Answer) :
    Stable llhttp limits peer ({ conn with owed := conn.owed - 1 }.onAnswer outside answer) := by
  have awaiting := stable.awaiting_of_owed owes
  have owing := stable.owing owes
  have responded : forall {status body keepAlive contentType extraHeaders elapsedMs},
      Stable llhttp limits peer ({ conn with owed := conn.owed - 1 }.writeResponse outside status body keepAlive
        contentType extraHeaders elapsedMs) := by
    intro status body keepAlive contentType extraHeaders elapsedMs
    refine of_awaiting ?_ owing.writeResponse
    rw [← awaiting]
    exact congrArg Prod.fst flags_writeRaw
  have dropped := owing.mono (Nat.zero_le 1) le_rfl
  cases answer with
  | respond => exact responded
  | afterWork status keepAlive result =>
      simp only [Connection.onAnswer, onAfterWork]
      split
      · exact of_awaiting awaiting dropped
      · split
        · exact responded
        · exact of_awaiting ((congrArg Prod.fst flags_startClose).trans awaiting) dropped.startClose
  | beginStream status contentType extraHeaders =>
      apply of_awaiting _ dropped.beginStream
      rw [← awaiting]
      unfold Connection.beginStream
      split
      · rfl
      · exact congrArg Prod.fst flags_writeRaw

theorem writeEvent (stable : Stable llhttp limits peer conn) (chunk : Text) :
    Stable llhttp limits peer (conn.writeEvent outside chunk) := by
  apply stable.of_flags _ stable.sound.writeEvent
  unfold Connection.writeEvent
  split
  · rfl
  · exact flags_writeRaw

/-- The one-shot timer has fired. -/
theorem fired (stable : Stable llhttp limits peer conn) :
    Stable llhttp limits peer { conn with timerArmed := false } :=
  stable.of_flags rfl { stable.sound with handles := { stable.sound.handles with } }

/-- libuv has finished the shutdown. -/
theorem shutDown (stable : Stable llhttp limits peer conn) :
    Stable llhttp limits peer { conn with shutdownPending := false } :=
  stable.of_flags rfl { stable.sound with handles := { stable.sound.handles with } }

theorem step (stable : Stable llhttp limits peer conn) {event : Outside × LoopEvent}
    (taken : conn.step llhttp event = some after) : Stable llhttp limits peer after := by
  rcases event with ⟨outside, event⟩
  cases event with
  | read bytes =>
      simp only [Connection.step, Option.ite_none_right_eq_some, Option.some.injEq] at taken
      rcases taken with ⟨reading, rfl⟩
      exact stable.onRead (stable.sound.reads reading) bytes
  | readEnd =>
      simp only [Connection.step, Option.ite_none_right_eq_some, Option.some.injEq] at taken
      rcases taken with ⟨_, rfl⟩
      exact stable.startClose
  | timeout =>
      simp only [Connection.step, Option.ite_none_right_eq_some, Option.some.injEq] at taken
      rcases taken with ⟨_, rfl⟩
      exact stable.fired.onTimeout
  | writeDone succeeded =>
      simp only [Connection.step] at taken
      split at taken
      case h_1 done rest first =>
        cases taken
        exact stable.onWriteDone first succeeded
      case h_2 => cases taken
  | shutdownDone =>
      simp only [Connection.step, Option.ite_none_right_eq_some, Option.some.injEq] at taken
      rcases taken with ⟨_, rfl⟩
      exact stable.shutDown.startClose
  | handleClosed handle =>
      cases handle with
      | tcp =>
          simp only [Connection.step, Option.ite_none_right_eq_some, Option.some.injEq] at taken
          rcases taken with ⟨⟨closes, _⟩, rfl⟩
          exact stable.of_flags flags_onHandleClosed (stable.sound.onHandleClosed_tcp closes)
      | timer =>
          simp only [Connection.step, Option.ite_none_right_eq_some, Option.some.injEq] at taken
          rcases taken with ⟨closes, rfl⟩
          exact stable.of_flags flags_onHandleClosed (stable.sound.onHandleClosed_timer closes)
  | answer answer =>
      simp only [Connection.step, Option.ite_none_right_eq_some, Option.some.injEq] at taken
      rcases taken with ⟨owes, rfl⟩
      exact stable.onAnswer owes answer
  | writeEvent chunk =>
      cases taken
      exact stable.writeEvent chunk
  | close =>
      cases taken
      exact stable.startClose
  | elapse ms =>
      cases taken
      exact stable.of_flags rfl { stable.sound with handles := { stable.sound.handles with } }

end Stable

/-! ## Runs -/

/-- The connection of an accepted client. -/
def accepted (llhttp : Llhttp Parser) (limits : Limits) (peer : Text) (now : Nat) (readStarts : Bool) :
    Connection Parser :=
  (create llhttp limits peer now).start readStarts

theorem stable_create (now : Nat) : Stable llhttp limits peer (create llhttp limits peer now) where
  sound := {
    limits_eq := rfl
    peer_eq := rfl
    lawful := trivial
    answers_le := le_rfl
    requests_le := le_rfl
    queued_le := le_rfl
    assembled := fun _ => rfl
    closing := by simp [create]
    reads := fun _ => rfl
    handles := {
      opened := fun _ => ⟨rfl, rfl⟩
      count := rfl
      tcp := by simp [create]
      timer := by simp [create]
      pending := by simp [create]
      notified := by simp [create] } }
  idle := fun _ => rfl

theorem stable_accepted (now : Nat) (readStarts : Bool) :
    Stable llhttp limits peer (accepted llhttp limits peer now readStarts) := by
  have created : Stable llhttp limits peer (create llhttp limits peer now).restartTimer :=
    (stable_create now).of_flags rfl (stable_create now).sound.restartTimer
  unfold accepted start
  split
  · exact created.of_flags rfl { created.sound with
      reads := fun _ => rfl
      handles := { created.sound.handles with } }
  · exact created.startClose

theorem stable_runs {now : Nat} {readStarts : Bool} {events : List (Outside × LoopEvent)}
    (ran : runs (step llhttp) (accepted llhttp limits peer now readStarts) events = some conn) :
    Stable llhttp limits peer conn :=
  runs_invariant (Stable llhttp limits peer) (fun held taken => held.step taken) (stable_accepted now readStarts) ran

/-- In every run, each effect is one the connection may have after those before
it: between two resets at most one response and one request, assembled from the
bytes received since the reset; nothing once closing has started; no 408 once a
request is dispatched; and `on_closed_` exactly when both handles have closed.
While no response is awaited, nothing is left of the last request. -/
theorem connection_answersOnce {now : Nat} {readStarts : Bool} {events : List (Outside × LoopEvent)}
    (ran : runs (step llhttp) (accepted llhttp limits peer now readStarts) events = some conn) :
    Lawful llhttp limits peer conn.log ∧
      (.onClosed ∈ conn.log ↔ conn.tcp = .closed ∧ conn.timer = .closed) ∧
      (conn.awaitingResponse = false -> conn.Idle) := by
  have stable := stable_runs ran
  refine ⟨stable.sound.lawful, ?_, stable.idle⟩
  rw [stable.sound.handles.notified, stable.sound.handles.count]
  by_cases tcp : conn.tcp = .closed <;> by_cases timer : conn.timer = .closed <;> simp [tcp, timer]
/-- One whole request. -/
def sampleRequest : Text := ofString "GET / HTTP/1.1\r\n\r\n"

/-- A parser for buffers that hold one such request, or two. -/
def sampleParser : Llhttp Unit where
  init := ()
  callbacks := fun _ buf =>
    let request := [.onMessageBegin, .onUrl ⟨4, 1⟩, .onHeadersComplete none,
      .onMessageComplete true sampleRequest.length]
    if buf = sampleRequest then request
    else if buf = sampleRequest ++ sampleRequest then request ++ [.onMessageBegin]
    else []
  outcome := fun _ _ stopped =>
    match stopped with
    | none => ⟨(), .hpeOk, none⟩
    | some _ => ⟨(), .other, some sampleRequest.length⟩
  methodName := fun _ => ofString "GET"

def sampleLimits : Limits := ⟨1048576, 30000, 120000⟩

def sampleOutside : Outside := ⟨true, true, sampleTime⟩

/-- The answer to a request that is kept alive. -/
def sampleAnswer : LoopEvent :=
  .answer (.respond 200 (ofString "ok") true applicationJson [] 0)

/-- Two requests on one connection, and then the client leaves. -/
def sampleRun : List (Outside × LoopEvent) :=
  [.read sampleRequest, sampleAnswer, .writeDone true, .read sampleRequest, sampleAnswer, .writeDone true, .readEnd,
    .handleClosed .tcp, .handleClosed .timer].map fun event => (sampleOutside, event)

theorem connection_answersOnce_sample :
    exists conn, runs (step sampleParser) (accepted sampleParser sampleLimits [] 1 true) sampleRun = some conn ∧
      Lawful sampleParser sampleLimits [] conn.log ∧
      (.onClosed ∈ conn.log ↔ conn.tcp = .closed ∧ conn.timer = .closed) ∧
      (conn.awaitingResponse = false -> conn.Idle) := by
  have ran : (runs (step sampleParser) (accepted sampleParser sampleLimits [] 1 true) sampleRun).isSome := by
    decide +kernel
  rcases Option.isSome_iff_exists.mp ran with ⟨conn, ran⟩
  exact ⟨conn, ran, connection_answersOnce ran⟩

end Connection
end BravoFinder
