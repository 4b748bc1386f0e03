import BravoFinder.HttpServer.ConnectionRuns
import BravoFinder.HttpServer.RequestLimits

namespace BravoFinder

/-!
# Keep-alive after discarded bytes

A connection that threw away bytes of its client is to answer the request in
flight and close, since what the client sends next would be read from the wrong
place.  `OnRead` sets a flag for that, which `WriteResponse` turns into a
closing response.  The flag comes too late when the response is already queued
with keep-alive: the end of that write resets the connection, flag and all.  Bytes
behind a completed request are noticed when the parser tells of them.
-/

namespace Effect

/-- The effect belongs to a connection that serves no further request. -/
def isLast : Effect -> Bool
  | .dispatched _ => false
  | .reset => false
  | .wrote .kKeepAlive _ => false
  | _ => true

end Effect

/-- Once bytes were thrown away, the connection neither dispatches a request nor
queues a keep-alive response nor resets. -/
def ClosesAfterDiscard : List Effect -> Prop
  | [] => True
  | effect :: earlier => (.discarded ∈ earlier -> effect.isLast = true) ∧ ClosesAfterDiscard earlier

theorem closesAfterDiscard_append {recent log : List Effect} (closes : ClosesAfterDiscard log)
    (kept : forall effect, effect ∈ recent -> effect ≠ .discarded)
    (last : .discarded ∈ log -> forall effect, effect ∈ recent -> effect.isLast = true) :
    ClosesAfterDiscard (recent ++ log) := by
  induction recent with
  | nil => exact closes
  | cons effect rest inductionHypothesis =>
      refine ⟨?_, inductionHypothesis (fun other among => kept other (List.mem_cons_of_mem _ among))
        (fun discarded other among => last discarded other (List.mem_cons_of_mem _ among))⟩
      intro discarded
      rcases List.mem_append.mp discarded with among | before
      · exact absurd rfl (kept .discarded (List.mem_cons_of_mem _ among))
      · exact last before effect List.mem_cons_self

namespace Assembly

variable {Parser : Type} {llhttp : Llhttp Parser} {limits : Limits} {now : Nat} {buf : Text} {assembly : Assembly Parser}

end Assembly

namespace Connection

variable {Parser : Type} {llhttp : Llhttp Parser} {limits : Limits} {peer : Text}
variable {conn between after : Connection Parser} {outside : Outside} {answers requests : Nat}

/-- A keep-alive response is queued, and its write is not done. -/
def keepAliveQueued (conn : Connection Parser) : Bool :=
  conn.writes.any fun write => write.mode = .kKeepAlive

/-- The connection serves no further request. -/
def Doomed (conn : Connection Parser) : Prop :=
  conn.closing = true ∨
    conn.awaitingResponse = true ∧ conn.forceCloseAfterResponse = true ∧ conn.keepAliveQueued = false

/-- The callback throws nothing away, and leaves a doomed connection doomed. -/
structure Passes (conn after : Connection Parser) : Prop where
  adds : exists recent, after.log = recent ++ conn.log ∧ (forall effect, effect ∈ recent -> effect ≠ .discarded) ∧
    (conn.Doomed -> forall effect, effect ∈ recent -> effect.isLast = true)
  doomed : conn.Doomed -> after.Doomed

namespace Passes

theorem trans (first : Passes conn between) (second : Passes between after) : Passes conn after := by
  rcases first.adds with ⟨earlier, earlierLog, earlierKept, earlierLast⟩
  rcases second.adds with ⟨recent, recentLog, recentKept, recentLast⟩
  refine ⟨⟨recent ++ earlier, ?_, ?_, ?_⟩, fun doomed => second.doomed (first.doomed doomed)⟩
  · rw [recentLog, earlierLog, List.append_assoc]
  · intro effect among
    exact (List.mem_append.mp among).elim (recentKept effect) (earlierKept effect)
  · intro doomed effect among
    exact (List.mem_append.mp among).elim (recentLast (first.doomed doomed) effect) (earlierLast doomed effect)

/-- Nothing happened. -/
theorem of_log (same : after.log = conn.log) (doomed : conn.Doomed -> after.Doomed) : Passes conn after where
  adds := ⟨[], same, by simp, by simp⟩
  doomed := doomed

/-- One thing happened. -/
theorem of_cons {effect : Effect} (log : after.log = effect :: conn.log) (kept : effect ≠ .discarded)
    (last : conn.Doomed -> effect.isLast = true) (doomed : conn.Doomed -> after.Doomed) : Passes conn after where
  adds := ⟨[effect], log, by simpa using kept, by simpa using last⟩
  doomed := doomed

theorem startClose (sound : Sound llhttp limits peer conn answers requests) : Passes conn conn.startClose := by
  rw [sound.startClose_eq]
  split
  · exact of_log rfl id
  · exact of_cons rfl (by simp) (fun _ => rfl) (fun _ => .inl rfl)

theorem stamp (started : Nat) : Passes conn { conn with writeStartedAt := started } :=
  of_log rfl id

/-- A doomed connection only queues writes that do not keep it alive. -/
theorem writeRaw (sound : Sound llhttp limits peer conn answers requests) {payload : Text} {mode : WriteMode}
    (closes : conn.closing = false -> conn.Doomed -> mode ≠ .kKeepAlive) :
    Passes conn (conn.writeRaw outside payload mode) := by
  rcases writeRaw_cases conn outside payload mode with ⟨_, same⟩ | ⟨running, started, failed | queues⟩
  · rw [same]
    exact of_log rfl id
  · rw [failed]
    exact (stamp started).trans (startClose (sound.stamp started))
  · rw [queues]
    apply of_cons rfl (by simp)
    · intro doomed
      cases mode with
      | kKeepAlive => exact absurd rfl (closes running doomed)
      | kClose | kStream => rfl
    · rintro (closing | ⟨awaiting, forced, unqueued⟩)
      · exact .inl closing
      · refine .inr ⟨awaiting, forced, ?_⟩
        show (conn.writes ++ [WriteReq.mk payload mode]).any _ = false
        have other := closes running (.inr ⟨awaiting, forced, unqueued⟩)
        rw [List.any_append, Bool.or_eq_false_iff]
        exact ⟨unqueued, by simp [other]⟩

theorem writeResponse (sound : Sound llhttp limits peer conn answers requests) {status : Int} {body : Text}
    {keepAlive : Bool} {contentType : Text} {extraHeaders : Headers} {elapsedMs : UInt32} :
    Passes conn (conn.writeResponse outside status body keepAlive contentType extraHeaders elapsedMs) := by
  apply writeRaw sound
  rintro running (closing | ⟨_, forced, _⟩)
  · cases running.symm.trans closing
  · simp [forced]

theorem refuse (sound : Sound llhttp limits peer conn answers requests) {status : Int} {message : Text} :
    Passes conn (conn.refuse outside status message) := by
  have awaits : Passes conn { conn with awaitingResponse := true } :=
    of_log rfl fun doomed => doomed.imp_right fun ⟨_, rest⟩ => ⟨rfl, rest⟩
  exact awaits.trans (writeResponse sound.awaiting)

theorem timedOut (sound : Sound llhttp limits peer conn 1 0) (undispatched : dispatches conn.log = 0)
    {status : Int} {message : Text} : Passes conn ((conn.emit .timedOut).refuse outside status message) := by
  have noted : Passes conn (conn.emit .timedOut) := of_cons rfl (by simp) (fun _ => rfl) id
  exact noted.trans (refuse (sound.emit_quiet rfl rfl (show Allowed llhttp limits peer .timedOut conn.log from undispatched)))

theorem beginStream (sound : Sound llhttp limits peer conn answers requests) {status : Int} {contentType : Text}
    {extraHeaders : Headers} : Passes conn (conn.beginStream outside status contentType extraHeaders) := by
  unfold Connection.beginStream
  split
  · exact of_log rfl id
  · have streaming : Sound llhttp limits peer { conn with streaming := true }.restartTimer answers requests :=
      { sound with handles := { sound.handles with } }
    have begun : Passes conn { conn with streaming := true }.restartTimer := of_log rfl id
    exact begun.trans (writeRaw streaming (by simp))

theorem writeEvent (sound : Sound llhttp limits peer conn answers requests) {chunk : Text} :
    Passes conn (conn.writeEvent outside chunk) := by
  unfold Connection.writeEvent
  split
  · exact of_log rfl id
  · have restarted : Passes conn conn.restartTimer := of_log rfl id
    exact restarted.trans (writeRaw sound.restartTimer (by simp))

theorem shutdownThenClose (sound : Sound llhttp limits peer conn answers requests) :
    Passes conn (conn.shutdownThenClose outside) := by
  unfold Connection.shutdownThenClose
  split
  · exact of_log rfl id
  · split
    · exact of_log rfl id
    · have stopped : Sound llhttp limits peer { conn with reading := false } answers requests :=
        { sound with
          reads := fun reading => absurd reading Bool.false_ne_true
          handles := { sound.handles with } }
      have stops : Passes conn { conn with reading := false } := of_log rfl id
      exact stops.trans (startClose stopped)

theorem onHandleClosed {handle : Handle} : Passes conn (conn.onHandleClosed handle) := by
  have closed : forall {state : Connection Parser}, Passes state state.notifyClosed := by
    intro state
    unfold notifyClosed
    split
    · exact of_cons rfl (by simp) (fun _ => rfl) id
    · exact of_log rfl id
  cases handle
  · have noted : Passes conn ({ conn with tcp := .closed, openHandles := conn.openHandles - 1 }.emit
        (.handleClosed .tcp)) := of_cons rfl (by simp) (fun _ => rfl) id
    exact noted.trans closed
  · have noted : Passes conn ({ conn with timer := .closed, openHandles := conn.openHandles - 1 }.emit
        (.handleClosed .timer)) := of_cons rfl (by simp) (fun _ => rfl) id
    exact noted.trans closed

theorem onTimeout (stable : Stable llhttp limits peer conn) : Passes conn (conn.onTimeout outside) := by
  have sound := stable.sound
  unfold Connection.onTimeout
  split
  · exact startClose sound
  split
  · exact startClose sound
  split
  · split
    · exact startClose sound
    · exact of_log rfl id
  case isFalse notAwaiting =>
    rw [Stable.room_of_idle (Bool.eq_false_iff.mpr notAwaiting)] at sound
    split
    · exact timedOut (sound.mono le_rfl (Nat.zero_le 1)) (Nat.le_zero.mp (Nat.le_of_succ_le_succ sound.requests_le))
    · exact startClose sound

theorem onWriteDone (stable : Stable llhttp limits peer conn) {done : WriteReq} {rest : List WriteReq}
    (first : conn.writes = done :: rest) (succeeded : Bool) :
    Passes conn ({ conn with writes := rest }.onWriteDone llhttp outside done.mode succeeded) := by
  have popped := (stable.popped first).sound
  have pops : Passes conn { conn with writes := rest } := by
    refine of_log rfl ?_
    rintro (closing | ⟨awaiting, forced, unqueued⟩)
    · exact .inl closing
    · rw [keepAliveQueued, first, List.any_cons, Bool.or_eq_false_iff] at unqueued
      exact .inr ⟨awaiting, forced, unqueued.2⟩
  unfold Connection.onWriteDone
  split
  · exact pops
  case isFalse running =>
    split
    · exact pops.trans (startClose popped)
    split
    case h_1 => exact pops.trans (stamp 0)
    case h_2 keepAlive =>
      -- A doomed connection has no such write.
      have safe : ¬ conn.Doomed := by
        rintro (closing | ⟨_, _, unqueued⟩)
        · exact running closing
        · rw [keepAliveQueued, first, List.any_cons, keepAlive] at unqueued
          cases unqueued
      exact of_cons rfl (by simp) (fun doomed => absurd doomed safe) (fun doomed => absurd doomed safe)
    case h_3 => exact pops.trans ((stamp 0).trans (shutdownThenClose (popped.stamp 0)))

theorem onAnswer (stable : Stable llhttp limits peer conn) (owes : 0 < conn.owed) (answer : Answer) :
    Passes conn ({ conn with owed := conn.owed - 1 }.onAnswer outside answer) := by
  have owing := stable.owing owes
  have given : Passes conn { conn with owed := conn.owed - 1 } := of_log rfl id
  apply given.trans
  cases answer with
  | respond => exact writeResponse owing
  | afterWork status keepAlive result =>
      simp only [Connection.onAnswer, onAfterWork]
      split
      · exact of_log rfl id
      · split
        · exact writeResponse owing
        · exact startClose owing
  | beginStream => exact beginStream owing

end Passes

/-- What was thrown away so far has its consequences. -/
structure Finishing (conn : Connection Parser) : Prop where
  closes : ClosesAfterDiscard conn.log
  doomed : .discarded ∈ conn.log -> conn.Doomed

theorem Finishing.passes (finishing : Finishing conn) (passes : Passes conn after) : Finishing after := by
  rcases passes.adds with ⟨recent, log, kept, last⟩
  constructor
  · rw [log]
    exact closesAfterDiscard_append finishing.closes kept fun discarded => last (finishing.doomed discarded)
  · intro discarded
    rw [log] at discarded
    rcases List.mem_append.mp discarded with among | before
    · exact absurd rfl (kept .discarded among)
    · exact passes.doomed (finishing.doomed before)

end Connection
end BravoFinder
