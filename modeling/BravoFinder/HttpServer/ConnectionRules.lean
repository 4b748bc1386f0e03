import BravoFinder.HttpServer.Connection

namespace BravoFinder

/-!
# What a connection may do

The contract of a connection is a rule for each effect: whether it may follow
what the connection did before.  Every run keeps the rules, whatever the order
of its events, as long as the handler answers each request once.
-/

/-! ## The rules -/

namespace Effect

def isReset : Effect -> Bool
  | .reset => true
  | _ => false

/-- A response that is not a stream was queued. -/
def isResponse : Effect -> Bool
  | .wrote .kStream _ => false
  | .wrote _ _ => true
  | _ => false

def isDispatch : Effect -> Bool
  | .dispatched _ => true
  | _ => false

/-- The effect neither answers, dispatches, brings bytes, resets nor starts to close. -/
def isQuiet : Effect -> Bool
  | .discarded => true
  | .timedOut => true
  | .wrote .kStream _ => true
  | .handleClosed _ => true
  | .onClosed => true
  | _ => false

/-- The effect is about a handle. -/
def isClosed : Effect -> Bool
  | .handleClosed _ => true
  | .onClosed => true
  | _ => false

end Effect

/-- What was done since the last reset. -/
def sinceReset (log : List Effect) : List Effect :=
  log.takeWhile fun effect => !effect.isReset

/-- The responses queued since the last reset. -/
def responses (log : List Effect) : Nat :=
  (sinceReset log).countP Effect.isResponse

/-- The requests handed over since the last reset. -/
def dispatches (log : List Effect) : Nat :=
  (sinceReset log).countP Effect.isDispatch

section Rules

variable {Parser : Type} (llhttp : Llhttp Parser) (limits : Limits) (peer : Text)

/-- What the callbacks make of the bytes received since the last reset. -/
def assembled : List Effect -> Assembly Parser
  | [] => Assembly.fresh llhttp
  | .reset :: _ => Assembly.fresh llhttp
  | .received now bytes :: earlier => (assembled earlier).absorb llhttp limits now bytes
  | _ :: earlier => assembled earlier

/-- Whether an effect may follow what was done before. -/
def Allowed (effect : Effect) (earlier : List Effect) : Prop :=
  match effect with
  | .wrote mode _ => .closeStarted ∉ earlier ∧ (mode ≠ .kStream -> responses earlier = 0)
  | .dispatched req =>
      .closeStarted ∉ earlier ∧ dispatches earlier = 0 ∧
        req = (assembled llhttp limits earlier).request llhttp peer
  | .timedOut => dispatches earlier = 0
  | .onClosed =>
      .onClosed ∉ earlier ∧ .handleClosed .tcp ∈ earlier ∧ .handleClosed .timer ∈ earlier
  | _ => True

/-- Each effect was allowed when it happened. -/
def Lawful : List Effect -> Prop
  | [] => True
  | effect :: earlier => Allowed llhttp limits peer effect earlier ∧ Lawful earlier

end Rules

theorem sinceReset_cons (effect : Effect) (log : List Effect) :
    sinceReset (effect :: log) = if effect.isReset then [] else effect :: sinceReset log := by
  rw [sinceReset, List.takeWhile_cons]
  cases effect.isReset <;> rfl

theorem responses_cons (effect : Effect) (log : List Effect) :
    responses (effect :: log) =
      if effect.isReset then 0 else responses log + if effect.isResponse then 1 else 0 := by
  rw [responses, sinceReset_cons]
  split
  · rfl
  · rw [List.countP_cons]
    rfl

theorem dispatches_cons (effect : Effect) (log : List Effect) :
    dispatches (effect :: log) =
      if effect.isReset then 0 else dispatches log + if effect.isDispatch then 1 else 0 := by
  rw [dispatches, sinceReset_cons]
  split
  · rfl
  · rw [List.countP_cons]
    rfl

/-! Quiet effects change none of the counts. -/

section Quiet

variable {recent : List Effect} (quiet : forall effect, effect ∈ recent -> effect.isQuiet = true)
include quiet

theorem counts_quiet (log : List Effect) :
    responses (recent ++ log) = responses log ∧ dispatches (recent ++ log) = dispatches log := by
  induction recent with
  | nil => exact ⟨rfl, rfl⟩
  | cons effect rest inductionHypothesis =>
      rcases List.forall_mem_cons.mp quiet with ⟨first, others⟩
      rw [List.cons_append, responses_cons, dispatches_cons, (inductionHypothesis others).1,
        (inductionHypothesis others).2]
      cases effect with
      | discarded | timedOut | handleClosed | onClosed => exact ⟨rfl, rfl⟩
      | wrote mode payload =>
          cases mode with
          | kStream => exact ⟨rfl, rfl⟩
          | kClose | kKeepAlive => cases first
      | received | dispatched | reset | closeStarted => cases first

theorem assembled_quiet {Parser : Type} {llhttp : Llhttp Parser} {limits : Limits} {log : List Effect} :
    assembled llhttp limits (recent ++ log) = assembled llhttp limits log := by
  induction recent with
  | nil => rfl
  | cons effect rest inductionHypothesis =>
      rcases List.forall_mem_cons.mp quiet with ⟨first, others⟩
      rw [← inductionHypothesis others]
      cases effect with
      | discarded | timedOut | handleClosed | onClosed | wrote => rfl
      | received | dispatched | reset | closeStarted => cases first

theorem closeStarted_quiet {log : List Effect} : .closeStarted ∈ recent ++ log ↔ .closeStarted ∈ log := by
  refine List.mem_append.trans (or_iff_right ?_)
  intro among
  cases quiet _ among

end Quiet

/-! ## The invariant -/

namespace Connection

variable {Parser : Type}

/-- The handles, their count and `on_closed_` agree with the log. -/
structure HandlesAgree (conn : Connection Parser) : Prop where
  opened : conn.closing = false -> conn.tcp = .opened ∧ conn.timer = .opened
  count : conn.openHandles = (if conn.tcp = .closed then 0 else 1) + (if conn.timer = .closed then 0 else 1)
  tcp : conn.tcp = .closed ↔ .handleClosed .tcp ∈ conn.log
  timer : conn.timer = .closed ↔ .handleClosed .timer ∈ conn.log
  pending : conn.onClosed = true ↔ conn.openHandles ≠ 0
  notified : .onClosed ∈ conn.log ↔ conn.openHandles = 0

/-- The invariant, with room for so many more answers and requests before the next reset. -/
structure Sound (llhttp : Llhttp Parser) (limits : Limits) (peer : Text) (conn : Connection Parser)
    (answers requests : Nat) : Prop where
  limits_eq : conn.limits = limits
  peer_eq : conn.peer = peer
  lawful : Lawful llhttp limits peer conn.log
  answers_le : responses conn.log + conn.owed + answers ≤ 1
  requests_le : dispatches conn.log + requests ≤ 1
  /-- A response libuv has not finished is one of those queued since the reset. -/
  queued_le : conn.writes.countP (fun write => write.mode ≠ .kStream) ≤ responses conn.log
  assembled : 0 < requests -> conn.assembly = assembled llhttp limits conn.log
  closing : conn.closing = true ↔ .closeStarted ∈ conn.log
  reads : conn.reading = true -> conn.closing = false
  handles : HandlesAgree conn

/-- Everything `WriteRaw` can do: nothing, close, or queue the write. -/
theorem writeRaw_cases (conn : Connection Parser) (outside : Outside) (payload : Text) (mode : WriteMode) :
    conn.closing = true ∧ conn.writeRaw outside payload mode = conn ∨
      conn.closing = false ∧ exists started,
        conn.writeRaw outside payload mode = { conn with writeStartedAt := started }.startClose ∨
          conn.writeRaw outside payload mode = { conn with
            writeStartedAt := started
            writes := conn.writes ++ [WriteReq.mk payload mode] }.emit (.wrote mode payload) := by
  unfold writeRaw
  split
  case isTrue closing => exact .inl ⟨closing, rfl⟩
  case isFalse running =>
    have stamped : exists started, (if conn.writeStartedAt = 0 then { conn with writeStartedAt := conn.now }
        else conn) = { conn with writeStartedAt := started } := by
      split
      · exact ⟨conn.now, rfl⟩
      · exact ⟨conn.writeStartedAt, rfl⟩
    rcases stamped with ⟨started, stamped⟩
    rw [stamped]
    refine .inr ⟨Bool.eq_false_iff.mpr running, started, ?_⟩
    split
    · exact .inl rfl
    · split
      · exact .inr rfl
      · exact .inl rfl

section Operations

variable {llhttp : Llhttp Parser} {limits : Limits} {peer : Text} {conn : Connection Parser}
variable {answers requests : Nat} {outside : Outside}

namespace Sound

theorem mono (sound : Sound llhttp limits peer conn answers requests) {fewerAnswers fewerRequests : Nat}
    (answersLe : fewerAnswers ≤ answers) (requestsLe : fewerRequests ≤ requests) :
    Sound llhttp limits peer conn fewerAnswers fewerRequests :=
  { sound with
    answers_le := le_trans (Nat.add_le_add_left answersLe _) sound.answers_le
    requests_le := le_trans (Nat.add_le_add_left requestsLe _) sound.requests_le
    assembled := fun positive => sound.assembled (Nat.lt_of_lt_of_le positive requestsLe) }

theorem restartTimer (sound : Sound llhttp limits peer conn answers requests) :
    Sound llhttp limits peer conn.restartTimer answers requests :=
  { sound with handles := { sound.handles with } }

theorem notClosing (sound : Sound llhttp limits peer conn answers requests) (open_ : conn.closing = false) :
    .closeStarted ∉ conn.log := by
  rw [← sound.closing, open_]
  exact Bool.false_ne_true

/-- Quiet effects, and what they do to the handles. -/
theorem follow (sound : Sound llhttp limits peer conn answers requests) (recent : List Effect)
    (quiet : forall effect, effect ∈ recent -> effect.isQuiet = true)
    (lawful : Lawful llhttp limits peer (recent ++ conn.log))
    {tcp timer : HandleState} {openHandles : Nat} {onClosed : Bool}
    (handles : HandlesAgree { conn with
      tcp := tcp, timer := timer, openHandles := openHandles, onClosed := onClosed, log := recent ++ conn.log }) :
    Sound llhttp limits peer { conn with
      tcp := tcp, timer := timer, openHandles := openHandles, onClosed := onClosed, log := recent ++ conn.log }
      answers requests where
  limits_eq := sound.limits_eq
  peer_eq := sound.peer_eq
  lawful := lawful
  answers_le := by
    rw [(counts_quiet quiet conn.log).1]
    exact sound.answers_le
  requests_le := by
    rw [(counts_quiet quiet conn.log).2]
    exact sound.requests_le
  queued_le := by
    rw [(counts_quiet quiet conn.log).1]
    exact sound.queued_le
  assembled := fun positive => (sound.assembled positive).trans (assembled_quiet quiet).symm
  closing := sound.closing.trans (closeStarted_quiet quiet).symm
  reads := sound.reads
  handles := handles

/-- The handles do not notice an effect that is not about them. -/
theorem handles_cons (sound : Sound llhttp limits peer conn answers requests) (effect : Effect)
    (other : effect.isClosed = false) : HandlesAgree { conn with log := effect :: conn.log } := by
  have kept : forall closed : Effect, closed.isClosed = true -> (closed ∈ effect :: conn.log ↔ closed ∈ conn.log) := by
    intro closed isClosed
    refine List.mem_cons.trans (or_iff_right ?_)
    rintro rfl
    cases isClosed.symm.trans other
  exact {
    opened := sound.handles.opened
    count := sound.handles.count
    tcp := sound.handles.tcp.trans (kept _ rfl).symm
    timer := sound.handles.timer.trans (kept _ rfl).symm
    pending := sound.handles.pending
    notified := (kept _ rfl).trans sound.handles.notified }

/-- An effect that changes none of the counts. -/
theorem emit_quiet (sound : Sound llhttp limits peer conn answers requests) {effect : Effect}
    (quiet : effect.isQuiet = true) (other : effect.isClosed = false)
    (allowed : Allowed llhttp limits peer effect conn.log) :
    Sound llhttp limits peer (conn.emit effect) answers requests :=
  sound.follow [effect] (List.forall_mem_singleton.mpr quiet) ⟨allowed, sound.lawful⟩
    (sound.handles_cons effect other)

/-- Closing starts once, and closes both handles. -/
theorem startClose_eq (sound : Sound llhttp limits peer conn answers requests) :
    conn.startClose =
      if conn.closing then conn
      else
        { conn with
          closing := true
          timerArmed := false
          reading := false
          tcp := .closing
          timer := .closing
          log := .closeStarted :: conn.log } := by
  unfold startClose
  split
  · rfl
  case isFalse running =>
    have opened := sound.handles.opened (Bool.eq_false_iff.mpr running)
    have count := sound.handles.count
    rw [opened.1, opened.2] at count
    simp [emit, closeTimer, closeTcp, notifyClosed, opened, count]

theorem startClose (sound : Sound llhttp limits peer conn answers requests) :
    Sound llhttp limits peer conn.startClose answers requests := by
  rw [sound.startClose_eq]
  split
  · exact sound
  case isFalse running =>
    have opened := sound.handles.opened (Bool.eq_false_iff.mpr running)
    have count := sound.handles.count
    rw [opened.1, opened.2] at count
    exact {
      limits_eq := sound.limits_eq
      peer_eq := sound.peer_eq
      lawful := ⟨trivial, sound.lawful⟩
      answers_le := by
        rw [responses_cons]
        exact sound.answers_le
      requests_le := by
        rw [dispatches_cons]
        exact sound.requests_le
      queued_le := by
        rw [responses_cons]
        exact sound.queued_le
      assembled := sound.assembled
      closing := by simp
      reads := by simp
      handles := {
        opened := by simp
        count := count
        tcp := by simpa [opened.1] using sound.handles.tcp
        timer := by simpa [opened.2] using sound.handles.timer
        pending := sound.handles.pending
        notified := by simpa using sound.handles.notified } }

theorem stamp (sound : Sound llhttp limits peer conn answers requests) (started : Nat) :
    Sound llhttp limits peer { conn with writeStartedAt := started } answers requests :=
  { sound with handles := { sound.handles with } }

/-- Once no request can be dispatched, the assembly does not matter. -/
theorem reassemble (sound : Sound llhttp limits peer conn answers requests) (assembly : Assembly Parser) :
    Sound llhttp limits peer { conn with assembly := assembly } answers 0 :=
  { sound.mono le_rfl (Nat.zero_le requests) with
    assembled := fun positive => absurd positive (lt_irrefl 0)
    handles := { sound.handles with } }

/-- A write is queued, or the connection closes. -/
theorem writeRaw_of (sound : Sound llhttp limits peer conn answers requests) {fewer : Nat} {payload : Text}
    {mode : WriteMode} (fewerLe : fewer ≤ answers)
    (queued : conn.closing = false -> forall started,
      Sound llhttp limits peer ({ conn with
        writeStartedAt := started
        writes := conn.writes ++ [WriteReq.mk payload mode] }.emit (.wrote mode payload)) fewer requests) :
    Sound llhttp limits peer (conn.writeRaw outside payload mode) fewer requests := by
  have kept := sound.mono fewerLe le_rfl
  rcases writeRaw_cases conn outside payload mode with ⟨_, same⟩ | ⟨running, started, closes | queues⟩
  · rw [same]
    exact kept
  · rw [closes]
    exact (kept.stamp started).startClose
  · rw [queues]
    exact queued running started

theorem writeRaw_stream (sound : Sound llhttp limits peer conn answers requests) {payload : Text} :
    Sound llhttp limits peer (conn.writeRaw outside payload .kStream) answers requests := by
  apply sound.writeRaw_of le_rfl
  intro running started
  have appended : Sound llhttp limits peer { conn with
      writeStartedAt := started
      writes := conn.writes ++ [WriteReq.mk payload .kStream] } answers requests :=
    { sound with
      queued_le := by simpa using sound.queued_le
      handles := { sound.handles with } }
  exact appended.emit_quiet rfl rfl ⟨sound.notClosing running, fun response => absurd rfl response⟩

/-- A response takes up the room there is for it. -/
theorem writeRaw_response (sound : Sound llhttp limits peer conn 1 requests) {payload : Text} {mode : WriteMode}
    (response : mode ≠ .kStream) :
    Sound llhttp limits peer (conn.writeRaw outside payload mode) 0 requests := by
  apply sound.writeRaw_of (Nat.zero_le 1)
  intro running started
  have none : responses conn.log = 0 := by
    have room := sound.answers_le
    omega
  have one : responses (.wrote mode payload :: conn.log) = responses conn.log + 1 := by
    rw [responses_cons]
    cases mode with
    | kStream => exact absurd rfl response
    | kClose | kKeepAlive => rfl
  exact {
    limits_eq := sound.limits_eq
    peer_eq := sound.peer_eq
    lawful := ⟨⟨sound.notClosing running, fun _ => none⟩, sound.lawful⟩
    answers_le := by
      show responses (.wrote mode payload :: conn.log) + conn.owed + 0 ≤ 1
      have room := sound.answers_le
      omega
    requests_le := by
      show dispatches (.wrote mode payload :: conn.log) + requests ≤ 1
      rw [dispatches_cons]
      exact sound.requests_le
    queued_le := by
      show (conn.writes ++ [WriteReq.mk payload mode]).countP _ ≤ responses (.wrote mode payload :: conn.log)
      rw [one, List.countP_append]
      apply Nat.add_le_add sound.queued_le
      exact List.countP_le_length
    assembled := sound.assembled
    closing := by simpa [emit] using sound.closing
    reads := sound.reads
    handles := { sound.handles_cons (.wrote mode payload) rfl with } }

theorem writeResponse (sound : Sound llhttp limits peer conn 1 requests) {status : Int} {body : Text}
    {keepAlive : Bool} {contentType : Text} {extraHeaders : Headers} {elapsedMs : UInt32} :
    Sound llhttp limits peer
      (conn.writeResponse outside status body keepAlive contentType extraHeaders elapsedMs) 0 requests := by
  apply sound.writeRaw_response
  split <;> simp

theorem awaiting (sound : Sound llhttp limits peer conn answers requests) :
    Sound llhttp limits peer { conn with awaitingResponse := true } answers requests :=
  { sound with handles := { sound.handles with } }

theorem refuse (sound : Sound llhttp limits peer conn 1 requests) {status : Int} {message : Text} :
    Sound llhttp limits peer (conn.refuse outside status message) 0 requests :=
  sound.awaiting.writeResponse

theorem beginStream (sound : Sound llhttp limits peer conn answers requests) {status : Int} {contentType : Text}
    {extraHeaders : Headers} :
    Sound llhttp limits peer (conn.beginStream outside status contentType extraHeaders) answers requests := by
  unfold Connection.beginStream
  split
  · exact sound
  · have streaming : Sound llhttp limits peer { conn with streaming := true } answers requests :=
      { sound with handles := { sound.handles with } }
    exact streaming.restartTimer.writeRaw_stream

theorem writeEvent (sound : Sound llhttp limits peer conn answers requests) {chunk : Text} :
    Sound llhttp limits peer (conn.writeEvent outside chunk) answers requests := by
  unfold Connection.writeEvent
  split
  · exact sound
  · exact sound.restartTimer.writeRaw_stream

theorem shutdownThenClose (sound : Sound llhttp limits peer conn answers requests) :
    Sound llhttp limits peer (conn.shutdownThenClose outside) answers requests := by
  unfold Connection.shutdownThenClose
  split
  · exact sound
  · have stopped : Sound llhttp limits peer { conn with reading := false } answers requests :=
      { sound with
        reads := fun reading => absurd reading Bool.false_ne_true
        handles := { sound.handles with } }
    split
    · exact { stopped with handles := { stopped.handles with } }
    · exact stopped.startClose

/-- After a reset there is room for one request and its answer. -/
theorem reset (sound : Sound llhttp limits peer conn answers requests) (answered : conn.owed = 0)
    (written : conn.writes.countP (fun write => write.mode ≠ .kStream) = 0) :
    Sound llhttp limits peer (conn.resetForNextRequest llhttp) 1 1 where
  limits_eq := sound.limits_eq
  peer_eq := sound.peer_eq
  lawful := ⟨trivial, sound.lawful⟩
  answers_le := by
    show responses (.reset :: conn.log) + conn.owed + 1 ≤ 1
    rw [responses_cons, answered]
    exact le_rfl
  requests_le := le_rfl
  queued_le := le_of_eq_of_le written (Nat.zero_le _)
  assembled := fun _ => rfl
  closing := by simpa [resetForNextRequest, Connection.restartTimer, emit] using sound.closing
  reads := sound.reads
  handles := { sound.handles_cons .reset rfl with }

/-- A request takes up the room there is for it, and its answer is owed. -/
theorem dispatch (sound : Sound llhttp limits peer conn 1 1) (running : conn.closing = false) :
    Sound llhttp limits peer (conn.dispatch llhttp) 0 0 where
  limits_eq := sound.limits_eq
  peer_eq := sound.peer_eq
  lawful := by
    refine ⟨⟨sound.notClosing running, ?_, ?_⟩, sound.lawful⟩
    · exact Nat.le_zero.mp (Nat.le_of_succ_le_succ sound.requests_le)
    · show conn.assembly.request llhttp conn.peer = _
      rw [sound.assembled Nat.one_pos, sound.peer_eq]
  answers_le := by
    show responses (.dispatched _ :: conn.log) + (conn.owed + 1) + 0 ≤ 1
    rw [responses_cons]
    exact sound.answers_le
  requests_le := by
    show dispatches (.dispatched _ :: conn.log) + 0 ≤ 1
    rw [dispatches_cons]
    exact sound.requests_le
  queued_le := by
    show _ ≤ responses (.dispatched _ :: conn.log)
    rw [responses_cons]
    exact sound.queued_le
  assembled := fun positive => absurd positive (lt_irrefl 0)
  closing := by simpa [Connection.dispatch, emit] using sound.closing
  reads := sound.reads
  handles := { sound.handles_cons (.dispatched (conn.assembly.request llhttp conn.peer)) rfl with }

/-- Bytes arrive; while a request may still be dispatched, the assembly takes them up. -/
theorem receive (sound : Sound llhttp limits peer conn answers requests) (now : Nat) (bytes : Text)
    (assembly : Assembly Parser)
    (absorbs : 0 < requests -> assembly = conn.assembly.absorb llhttp limits now bytes) :
    Sound llhttp limits peer
      { conn with assembly := assembly, log := .received now bytes :: conn.log } answers requests where
  limits_eq := sound.limits_eq
  peer_eq := sound.peer_eq
  lawful := ⟨trivial, sound.lawful⟩
  answers_le := by
    rw [responses_cons]
    exact sound.answers_le
  requests_le := by
    rw [dispatches_cons]
    exact sound.requests_le
  queued_le := by
    rw [responses_cons]
    exact sound.queued_le
  assembled := by
    intro positive
    show assembly = (BravoFinder.assembled llhttp limits conn.log).absorb llhttp limits now bytes
    rw [absorbs positive, sound.assembled positive]
  closing := by simpa using sound.closing
  reads := sound.reads
  handles := { sound.handles_cons (.received now bytes) rfl with }

end Sound

/-- The last handle to close brings `on_closed_` about. -/
theorem Sound.closed (sound : Sound llhttp limits peer conn answers requests) {handle : Handle}
    {tcp timer : HandleState} {openHandles : Nat} (closing : conn.closing = true)
    (fewer : conn.openHandles = openHandles + 1)
    (count : openHandles = (if tcp = .closed then 0 else 1) + (if timer = .closed then 0 else 1))
    (tcpClosed : tcp = .closed ↔ .handleClosed .tcp ∈ Effect.handleClosed handle :: conn.log)
    (timerClosed : timer = .closed ↔ .handleClosed .timer ∈ Effect.handleClosed handle :: conn.log) :
    Sound llhttp limits peer ({ conn with
      tcp := tcp
      timer := timer
      openHandles := openHandles
      log := .handleClosed handle :: conn.log }.notifyClosed) answers requests := by
  have pending : conn.onClosed = true := by
    rw [sound.handles.pending, fewer]
    exact Nat.succ_ne_zero openHandles
  have unseen : .onClosed ∉ Effect.handleClosed handle :: conn.log := by
    rw [List.mem_cons, not_or, sound.handles.notified, fewer]
    exact ⟨by simp, Nat.succ_ne_zero openHandles⟩
  have running : forall {state : Connection Parser}, state.closing = true -> state.closing = false ->
      state.tcp = .opened ∧ state.timer = .opened := by
    intro state closed opened
    cases closed.symm.trans opened
  unfold notifyClosed
  split
  case isFalse more =>
    have some : openHandles ≠ 0 := fun zero => more ⟨zero, pending⟩
    exact sound.follow [.handleClosed handle] (by simp [Effect.isQuiet]) ⟨trivial, sound.lawful⟩ {
      opened := running closing
      count := count
      tcp := tcpClosed
      timer := timerClosed
      pending := iff_of_true pending some
      notified := iff_of_false unseen some }
  case isTrue last =>
    have zero : openHandles = 0 := last.1
    have both : tcp = .closed ∧ timer = .closed := by
      rw [zero] at count
      constructor
      · by_contra still
        rw [if_neg still] at count
        omega
      · by_contra still
        rw [if_neg still] at count
        omega
    refine sound.follow [.onClosed, .handleClosed handle] (by simp [Effect.isQuiet])
      ⟨⟨unseen, tcpClosed.mp both.1, timerClosed.mp both.2⟩, trivial, sound.lawful⟩ {
      opened := running closing
      count := count
      tcp := tcpClosed.trans (by simp)
      timer := timerClosed.trans (by simp)
      pending := iff_of_false Bool.false_ne_true (not_not.mpr zero)
      notified := iff_of_true List.mem_cons_self zero }

/-- Handles are closed only once the connection is closing. -/
theorem Sound.closing_of_handle (sound : Sound llhttp limits peer conn answers requests)
    (closes : conn.tcp = .closing ∨ conn.timer = .closing) : conn.closing = true := by
  by_contra running
  have opened := sound.handles.opened (Bool.eq_false_iff.mpr running)
  rcases closes with tcp | timer
  · cases tcp.symm.trans opened.1
  · cases timer.symm.trans opened.2

theorem Sound.onHandleClosed_tcp (sound : Sound llhttp limits peer conn answers requests)
    (closes : conn.tcp = .closing) : Sound llhttp limits peer (conn.onHandleClosed .tcp) answers requests := by
  have closing := sound.closing_of_handle (Or.inl closes)
  have count := sound.handles.count
  have apart : HandleState.closing ≠ .closed := by decide
  rw [closes, if_neg apart] at count
  show Sound llhttp limits peer ({ conn with
    tcp := .closed
    openHandles := conn.openHandles - 1
    log := .handleClosed .tcp :: conn.log }.notifyClosed) answers requests
  apply sound.closed closing
  · omega
  · rw [count, if_pos rfl]
    omega
  · simp
  · simpa using sound.handles.timer

theorem Sound.onHandleClosed_timer (sound : Sound llhttp limits peer conn answers requests)
    (closes : conn.timer = .closing) : Sound llhttp limits peer (conn.onHandleClosed .timer) answers requests := by
  have closing := sound.closing_of_handle (Or.inr closes)
  have count := sound.handles.count
  have apart : HandleState.closing ≠ .closed := by decide
  rw [closes, if_neg apart] at count
  show Sound llhttp limits peer ({ conn with
    timer := .closed
    openHandles := conn.openHandles - 1
    log := .handleClosed .timer :: conn.log }.notifyClosed) answers requests
  apply sound.closed closing
  · omega
  · rw [count, if_pos rfl]
    omega
  · simpa using sound.handles.tcp
  · simp

end Operations
end Connection
end BravoFinder
