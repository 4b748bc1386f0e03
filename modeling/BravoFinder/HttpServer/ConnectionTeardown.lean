import BravoFinder.HttpServer.ConnectionRuns

namespace BravoFinder

/-!
# How a connection goes away

`StartClose` closes both handles, and nothing opens one again.  From then on a
connection only waits for libuv to finish its writes, its shutdown and its two
handles, and always has one of these to wait for until both handles are closed.
-/

namespace Connection

variable {Parser : Type} {llhttp : Llhttp Parser} {limits : Limits} {outside : Outside}
variable {conn between after : Connection Parser}

/-! ## Closing -/

theorem closed_ne_opened : HandleState.closed ≠ .opened := by decide

theorem closing_ne_opened : HandleState.closing ≠ .opened := by decide

theorem closing_ne_closed : HandleState.closing ≠ .closed := by decide

/-- Once `StartClose` ran, both handles are closing or closed. -/
def Torn (conn : Connection Parser) : Prop :=
  conn.closing = true -> conn.tcp ≠ .opened ∧ conn.timer ≠ .opened

/-- A callback closes both handles or neither, and never sets `on_closed_` again. -/
structure Teardown (conn after : Connection Parser) : Prop where
  silent : conn.onClosed = false -> after.onClosed = false
  torn : conn.Torn -> after.Torn

namespace Teardown

theorem refl : Teardown conn conn :=
  ⟨id, id⟩

theorem trans (first : Teardown conn between) (second : Teardown between after) : Teardown conn after :=
  ⟨second.silent ∘ first.silent, second.torn ∘ first.torn⟩

theorem notifyClosed : Teardown conn conn.notifyClosed := by
  unfold Connection.notifyClosed
  split
  · exact ⟨fun _ => rfl, id⟩
  · exact refl

theorem startClose : Teardown conn conn.startClose := by
  unfold Connection.startClose
  split
  · exact refl
  · apply trans _ notifyClosed
    constructor
    · intro silent
      unfold closeTcp closeTimer emit
      split_ifs <;> exact silent
    · intro _ _
      unfold closeTcp closeTimer emit
      split_ifs <;> simp_all

theorem writeRaw {payload : Text} {mode : WriteMode} : Teardown conn (conn.writeRaw outside payload mode) := by
  rcases writeRaw_cases conn outside payload mode with ⟨_, same⟩ | ⟨_, started, closes | queues⟩
  · rw [same]
    exact refl
  · have stamped : Teardown conn { conn with writeStartedAt := started } := ⟨id, id⟩
    rw [closes]
    exact stamped.trans startClose
  · rw [queues]
    exact ⟨id, id⟩

theorem refuse {status : Int} {message : Text} : Teardown conn (conn.refuse outside status message) := by
  have awaiting : Teardown conn { conn with awaitingResponse := true } := ⟨id, id⟩
  exact awaiting.trans writeRaw

theorem discard (torn : Teardown conn after) : Teardown conn (after.emit .discarded) :=
  ⟨torn.silent, torn.torn⟩

theorem onExecuted {bytes : Text} {err : LlhttpErrno} {errorPos : Option Nat} :
    Teardown conn (conn.onExecuted llhttp outside bytes err errorPos) := by
  unfold Connection.onExecuted
  split
  · exact refuse
  split
  · split <;> exact ⟨id, id⟩
  split
  · exact refuse
  · exact refl

theorem onRead {bytes : Text} : Teardown conn (conn.onRead llhttp outside bytes) := by
  have received : Teardown conn (conn.emit (.received conn.now bytes)) := ⟨id, id⟩
  unfold Connection.onRead
  split
  · exact refl
  dsimp only
  split
  · exact ⟨id, id⟩
  split
  · have timedOut : Teardown conn ((conn.emit (.received conn.now bytes)).emit .timedOut) := ⟨id, id⟩
    exact timedOut.trans refuse
  split
  · apply discard
    refine trans ?_ onExecuted
    exact ⟨id, id⟩
  · refine trans ?_ onExecuted
    exact ⟨id, id⟩

theorem onTimeout : Teardown conn (conn.onTimeout outside) := by
  unfold Connection.onTimeout
  split
  · exact startClose
  split
  · exact startClose
  split
  · split
    · exact startClose
    · exact ⟨id, id⟩
  split
  · have timedOut : Teardown conn (conn.emit .timedOut) := ⟨id, id⟩
    exact timedOut.trans refuse
  · exact startClose

theorem shutdownThenClose : Teardown conn (conn.shutdownThenClose outside) := by
  unfold Connection.shutdownThenClose
  split
  · exact refl
  dsimp only
  split
  · exact ⟨id, id⟩
  · refine trans ?_ startClose
    exact ⟨id, id⟩

theorem onWriteDone {mode : WriteMode} {succeeded : Bool} :
    Teardown conn (conn.onWriteDone llhttp outside mode succeeded) := by
  have stamped : Teardown conn { conn with writeStartedAt := 0 } := ⟨id, id⟩
  unfold Connection.onWriteDone
  split
  · exact refl
  split
  · exact startClose
  cases mode with
  | kStream => exact stamped
  | kKeepAlive => exact ⟨id, id⟩
  | kClose => exact stamped.trans shutdownThenClose

theorem beginStream {status : Int} {contentType : Text} {extraHeaders : Headers} :
    Teardown conn (conn.beginStream outside status contentType extraHeaders) := by
  have streaming : Teardown conn { conn with streaming := true }.restartTimer := ⟨id, id⟩
  unfold Connection.beginStream
  split
  · exact refl
  · exact streaming.trans writeRaw

theorem writeEvent {chunk : Text} : Teardown conn (conn.writeEvent outside chunk) := by
  have restarted : Teardown conn conn.restartTimer := ⟨id, id⟩
  unfold Connection.writeEvent
  split
  · exact refl
  · exact restarted.trans writeRaw

theorem onAnswer (answer : Answer) : Teardown conn (conn.onAnswer outside answer) := by
  cases answer with
  | respond => exact writeRaw
  | beginStream => exact beginStream
  | afterWork =>
      simp only [Connection.onAnswer, onAfterWork]
      split
      · exact refl
      split
      · exact writeRaw
      · exact startClose

theorem onHandleClosed {handle : Handle} : Teardown conn (conn.onHandleClosed handle) := by
  cases handle with
  | tcp =>
      have closed : Teardown conn ({ conn with tcp := .closed, openHandles := conn.openHandles - 1 }.emit
          (.handleClosed .tcp)) := ⟨id, fun torn closing => ⟨closed_ne_opened, (torn closing).2⟩⟩
      exact closed.trans notifyClosed
  | timer =>
      have closed : Teardown conn ({ conn with timer := .closed, openHandles := conn.openHandles - 1 }.emit
          (.handleClosed .timer)) := ⟨id, fun torn closing => ⟨(torn closing).1, closed_ne_opened⟩⟩
      exact closed.trans notifyClosed

theorem step {event : Outside × LoopEvent} (taken : conn.step llhttp event = some after) : Teardown conn after := by
  rcases event with ⟨outside, event⟩
  cases event with
  | read bytes =>
      simp only [Connection.step, Option.ite_none_right_eq_some, Option.some.injEq] at taken
      rcases taken with ⟨_, rfl⟩
      exact onRead
  | readEnd =>
      simp only [Connection.step, Option.ite_none_right_eq_some, Option.some.injEq] at taken
      rcases taken with ⟨_, rfl⟩
      exact startClose
  | timeout =>
      simp only [Connection.step, Option.ite_none_right_eq_some, Option.some.injEq] at taken
      rcases taken with ⟨_, rfl⟩
      have fired : Teardown conn { conn with timerArmed := false } := ⟨id, id⟩
      exact fired.trans onTimeout
  | writeDone succeeded =>
      simp only [Connection.step] at taken
      split at taken
      case h_1 done rest _ =>
        cases taken
        have popped : Teardown conn { conn with writes := rest } := ⟨id, id⟩
        exact popped.trans onWriteDone
      case h_2 => cases taken
  | shutdownDone =>
      simp only [Connection.step, Option.ite_none_right_eq_some, Option.some.injEq] at taken
      rcases taken with ⟨_, rfl⟩
      have shutDown : Teardown conn { conn with shutdownPending := false } := ⟨id, id⟩
      exact shutDown.trans startClose
  | handleClosed handle =>
      cases handle with
      | tcp | timer =>
          simp only [Connection.step, Option.ite_none_right_eq_some, Option.some.injEq] at taken
          rcases taken with ⟨_, rfl⟩
          exact onHandleClosed
  | answer answer =>
      simp only [Connection.step, Option.ite_none_right_eq_some, Option.some.injEq] at taken
      rcases taken with ⟨_, rfl⟩
      have paid : Teardown conn { conn with owed := conn.owed - 1 } := ⟨id, id⟩
      exact paid.trans (onAnswer answer)
  | writeEvent chunk =>
      cases taken
      exact writeEvent
  | close =>
      cases taken
      exact startClose
  | elapse ms =>
      cases taken
      exact ⟨id, id⟩

end Teardown

/-! ## What libuv still has to finish -/

/-- The writes, the shutdown and the handles libuv has not finished. -/
def outstanding (conn : Connection Parser) : Nat :=
  conn.writes.length + conn.shutdownPending.toNat +
    ((if conn.tcp = .closed then 0 else 1) + if conn.timer = .closed then 0 else 1)

/-- libuv finishes something that a closing connection waits for. -/
def finishes : LoopEvent -> Bool
  | .writeDone _ => true
  | .shutdownDone => true
  | .handleClosed _ => true
  | _ => false

/-- The connection reads nothing more, and its handles are on their way out. -/
structure Leaving (conn : Connection Parser) : Prop where
  closing : conn.closing = true
  reading : conn.reading = false
  tcp : conn.tcp ≠ .opened
  timer : conn.timer ≠ .opened

theorem startClose_of_closing (closing : conn.closing = true) : conn.startClose = conn :=
  if_pos closing

theorem writeRaw_of_closing (closing : conn.closing = true) {payload : Text} {mode : WriteMode} :
    conn.writeRaw outside payload mode = conn :=
  if_pos closing

theorem writeEvent_of_closing (closing : conn.closing = true) {chunk : Text} :
    conn.writeEvent outside chunk = conn :=
  if_pos (by rw [closing, Bool.true_or])

theorem onAnswer_of_closing (closing : conn.closing = true) (answer : Answer) :
    conn.onAnswer outside answer = conn := by
  cases answer with
  | respond => exact writeRaw_of_closing closing
  | afterWork => exact if_pos closing
  | beginStream => exact if_pos closing

theorem onTimeout_of_closing (outside : Outside) (closing : conn.closing = true) :
    exists armed, conn.onTimeout outside = { conn with timerArmed := armed } := by
  have same : conn.startClose = conn := startClose_of_closing closing
  unfold onTimeout
  split
  · exact ⟨_, same⟩
  split
  · exact ⟨_, same⟩
  split
  · split
    · exact ⟨_, same⟩
    · exact ⟨true, rfl⟩
  split
  case isTrue running =>
    rw [closing] at running
    cases running
  · exact ⟨_, same⟩

theorem startClose_closing : conn.startClose.closing = true := by
  unfold startClose closeTcp closeTimer notifyClosed emit
  split_ifs <;> first | assumption | rfl

theorem notifyClosed_leaves :
    conn.notifyClosed.closing = conn.closing ∧ conn.notifyClosed.outstanding = conn.outstanding := by
  unfold notifyClosed
  split <;> exact ⟨rfl, rfl⟩

/-- A closing connection only waits: what libuv finishes is one thing less to wait for. -/
theorem Leaving.step (leaving : conn.Leaving) {event : Outside × LoopEvent}
    (taken : conn.step llhttp event = some after) :
    after.closing = true ∧ after.outstanding + (finishes event.2).toNat = conn.outstanding := by
  have closing := leaving.closing
  rcases event with ⟨outside, event⟩
  cases event with
  | read | readEnd =>
      simp only [Connection.step, Option.ite_none_right_eq_some] at taken
      cases leaving.reading.symm.trans taken.1
  | timeout =>
      simp only [Connection.step, Option.ite_none_right_eq_some, Option.some.injEq] at taken
      rcases taken with ⟨_, rfl⟩
      have fired : { conn with timerArmed := false }.closing = true := closing
      rcases onTimeout_of_closing outside fired with ⟨armed, same⟩
      rw [same]
      exact ⟨closing, rfl⟩
  | writeDone succeeded =>
      simp only [Connection.step] at taken
      split at taken
      case h_1 done rest first =>
        cases taken
        have same : { conn with writes := rest }.onWriteDone llhttp outside done.mode succeeded =
            { conn with writes := rest } := if_pos closing
        rw [same, outstanding, outstanding, first]
        exact ⟨closing, by simp only [finishes, List.length_cons, Bool.toNat_true]; omega⟩
      case h_2 => cases taken
  | shutdownDone =>
      simp only [Connection.step, Option.ite_none_right_eq_some, Option.some.injEq] at taken
      rcases taken with ⟨pending, rfl⟩
      have same : { conn with shutdownPending := false }.startClose = { conn with shutdownPending := false } :=
        if_pos closing
      rw [same, outstanding, outstanding, pending]
      exact ⟨closing, by simp only [finishes, Bool.toNat_true, Bool.toNat_false]; omega⟩
  | handleClosed handle =>
      cases handle with
      | tcp =>
          simp only [Connection.step, Option.ite_none_right_eq_some, Option.some.injEq] at taken
          rcases taken with ⟨⟨closes, _⟩, rfl⟩
          refine ⟨notifyClosed_leaves.1.trans closing, ?_⟩
          rw [onHandleClosed, notifyClosed_leaves.2]
          show conn.writes.length + conn.shutdownPending.toNat + (0 + if conn.timer = .closed then 0 else 1) + 1 =
            conn.outstanding
          rw [outstanding, closes, if_neg closing_ne_closed]
          omega
      | timer =>
          simp only [Connection.step, Option.ite_none_right_eq_some, Option.some.injEq] at taken
          rcases taken with ⟨closes, rfl⟩
          refine ⟨notifyClosed_leaves.1.trans closing, ?_⟩
          rw [onHandleClosed, notifyClosed_leaves.2]
          show conn.writes.length + conn.shutdownPending.toNat + ((if conn.tcp = .closed then 0 else 1) + 0) + 1 =
            conn.outstanding
          rw [outstanding, closes, if_neg closing_ne_closed]
          omega
  | answer answer =>
      simp only [Connection.step, Option.ite_none_right_eq_some, Option.some.injEq] at taken
      rcases taken with ⟨_, rfl⟩
      have owed : { conn with owed := conn.owed - 1 }.closing = true := closing
      rw [onAnswer_of_closing owed]
      exact ⟨closing, rfl⟩
  | writeEvent chunk =>
      cases taken
      rw [writeEvent_of_closing closing]
      exact ⟨closing, rfl⟩
  | close =>
      cases taken
      rw [startClose_of_closing closing]
      exact ⟨closing, rfl⟩
  | elapse ms =>
      cases taken
      exact ⟨closing, rfl⟩

/-- Until both its handles are closed, libuv has something to finish for a closing connection. -/
theorem Leaving.exists_finishing (leaving : conn.Leaving) (llhttp : Llhttp Parser)
    (open_ : ¬ (conn.tcp = .closed ∧ conn.timer = .closed)) :
    exists event, finishes event.2 = true ∧ (conn.step llhttp event).isSome = true := by
  cases timer : conn.timer with
  | opened => exact absurd timer leaving.timer
  | closing => exact ⟨(sampleOutside, .handleClosed .timer), rfl, by simp [Connection.step, timer]⟩
  | closed =>
      cases tcp : conn.tcp with
      | opened => exact absurd tcp leaving.tcp
      | closed => exact absurd ⟨tcp, timer⟩ open_
      | closing =>
          -- The requests of a closing socket come back before the socket.
          cases writes : conn.writes with
          | cons done rest => exact ⟨(sampleOutside, .writeDone true), rfl, by simp [Connection.step, writes]⟩
          | nil =>
              cases pending : conn.shutdownPending with
              | true => exact ⟨(sampleOutside, .shutdownDone), rfl, by simp [Connection.step, pending]⟩
              | false =>
                  exact ⟨(sampleOutside, .handleClosed .tcp), rfl, by simp [Connection.step, tcp, writes, pending]⟩

/-! ## Clients -/

/-- `Create` without `SetOnClosed`. -/
def untracked (llhttp : Llhttp Parser) (limits : Limits) (peer : Text) (now : Nat) : Connection Parser :=
  { create llhttp limits peer now with onClosed := false }

/-- A connection that was only made to be closed: it reads, asks and writes nothing. -/
structure TurnedAway (conn : Connection Parser) : Prop where
  leaving : conn.Leaving
  silent : conn.onClosed = false
  disarmed : conn.timerArmed = false
  unwritten : conn.writes = []
  unshut : conn.shutdownPending = false
  unowed : conn.owed = 0
  log : forall effect, effect ∈ conn.log -> effect = .closeStarted ∨ exists handle, effect = .handleClosed handle

theorem turnedAway_untracked (peer : Text) (now : Nat) :
    (untracked llhttp limits peer now).startClose.TurnedAway where
  leaving := ⟨rfl, rfl, closing_ne_opened, closing_ne_opened⟩
  silent := rfl
  disarmed := rfl
  unwritten := rfl
  unshut := rfl
  unowed := rfl
  log := fun _ among => .inl (List.mem_singleton.mp among)

theorem notifyClosed_of_silent (silent : conn.onClosed = false) : conn.notifyClosed = conn := by
  apply if_neg
  rw [silent]
  exact fun both => Bool.false_ne_true both.2

theorem TurnedAway.step (away : conn.TurnedAway) {event : Outside × LoopEvent}
    (taken : conn.step llhttp event = some after) : after.TurnedAway := by
  have closing := away.leaving.closing
  have logged : forall handle effect, effect ∈ Effect.handleClosed handle :: conn.log ->
      effect = .closeStarted ∨ exists handle, effect = .handleClosed handle := by
    intro handle effect among
    rcases List.mem_cons.mp among with rfl | among
    · exact .inr ⟨handle, rfl⟩
    · exact away.log effect among
  rcases event with ⟨outside, event⟩
  cases event with
  | read | readEnd =>
      simp only [Connection.step, Option.ite_none_right_eq_some] at taken
      cases away.leaving.reading.symm.trans taken.1
  | timeout =>
      simp only [Connection.step, Option.ite_none_right_eq_some] at taken
      cases away.disarmed.symm.trans taken.1
  | writeDone =>
      rw [Connection.step, away.unwritten] at taken
      cases taken
  | shutdownDone =>
      simp only [Connection.step, Option.ite_none_right_eq_some] at taken
      cases away.unshut.symm.trans taken.1
  | handleClosed handle =>
      cases handle with
      | tcp =>
          simp only [Connection.step, Option.ite_none_right_eq_some, Option.some.injEq] at taken
          rcases taken with ⟨_, rfl⟩
          rw [onHandleClosed, notifyClosed_of_silent]
          · exact { away with
              leaving := { away.leaving with tcp := closed_ne_opened }
              log := logged .tcp }
          · exact away.silent
      | timer =>
          simp only [Connection.step, Option.ite_none_right_eq_some, Option.some.injEq] at taken
          rcases taken with ⟨_, rfl⟩
          rw [onHandleClosed, notifyClosed_of_silent]
          · exact { away with
              leaving := { away.leaving with timer := closed_ne_opened }
              log := logged .timer }
          · exact away.silent
  | answer =>
      simp only [Connection.step, Option.ite_none_right_eq_some] at taken
      cases away.unowed ▸ taken.1
  | writeEvent chunk =>
      cases taken
      rw [writeEvent_of_closing closing]
      exact away
  | close =>
      cases taken
      rw [startClose_of_closing closing]
      exact away
  | elapse ms =>
      cases taken
      exact { away with leaving := { away.leaving with } }

/-- The connection is where it would be on its own after some events. -/
def Served (llhttp : Llhttp Parser) (limits : Limits) (conn : Connection Parser) : Prop :=
  exists peer now readStarts events,
    runs (step llhttp) (accepted llhttp limits peer now readStarts) events = some conn

namespace Served

theorem stable (served : Served llhttp limits conn) : exists peer, Stable llhttp limits peer conn := by
  rcases served with ⟨peer, now, readStarts, events, ran⟩
  exact ⟨peer, stable_runs ran⟩

theorem step (served : Served llhttp limits conn) {event : Outside × LoopEvent}
    (taken : conn.step llhttp event = some after) : Served llhttp limits after := by
  rcases served with ⟨peer, now, readStarts, events, ran⟩
  refine ⟨peer, now, readStarts, events ++ [event], ?_⟩
  rw [runs_append, ran, Option.bind_some, runs_cons, taken, Option.bind_some, runs_nil]

theorem torn (served : Served llhttp limits conn) : conn.Torn := by
  rcases served with ⟨peer, now, readStarts, events, ran⟩
  refine runs_invariant Torn (fun held taken => (Teardown.step taken).torn held) ?_ ran
  unfold accepted start
  split
  · exact fun closing => absurd closing Bool.false_ne_true
  · exact Teardown.startClose.torn fun closing => absurd closing Bool.false_ne_true

theorem leaving (served : Served llhttp limits conn) (closing : conn.closing = true) : conn.Leaving := by
  rcases served.stable with ⟨peer, stable⟩
  refine ⟨closing, ?_, (served.torn closing).1, (served.torn closing).2⟩
  apply Bool.eq_false_iff.mpr
  intro reading
  cases closing.symm.trans (stable.sound.reads reading)

theorem onClosed_iff (served : Served llhttp limits conn) :
    conn.onClosed = true ↔ ¬ (conn.tcp = .closed ∧ conn.timer = .closed) := by
  rcases served.stable with ⟨peer, stable⟩
  rw [stable.sound.handles.pending, stable.sound.handles.count]
  by_cases tcp : conn.tcp = .closed <;> by_cases timer : conn.timer = .closed <;> simp [tcp, timer]

end Served

/-- What the connections of a server are. -/
def Client (llhttp : Llhttp Parser) (limits : Limits) (conn : Connection Parser) : Prop :=
  Served llhttp limits conn ∨ conn.TurnedAway

namespace Client

theorem step (client : Client llhttp limits conn) {event : Outside × LoopEvent}
    (taken : conn.step llhttp event = some after) : Client llhttp limits after :=
  client.imp (fun served => served.step taken) fun away => away.step taken

theorem startClose (client : Client llhttp limits conn) : Client llhttp limits conn.startClose :=
  client.step (show conn.step llhttp (sampleOutside, .close) = some conn.startClose from rfl)

theorem leaving (client : Client llhttp limits conn) (closing : conn.closing = true) : conn.Leaving := by
  rcases client with served | away
  · exact served.leaving closing
  · exact away.leaving

/-- A connection that is not open any more is closing. -/
theorem closing (client : Client llhttp limits conn) (silent : conn.onClosed = false) : conn.closing = true := by
  rcases client with served | away
  · rcases served.stable with ⟨peer, stable⟩
    by_contra running
    have opened := stable.sound.handles.opened (Bool.eq_false_iff.mpr running)
    have closed := mt served.onClosed_iff.mpr (ne_true_of_eq_false silent)
    rcases not_not.mp closed with ⟨tcp, _⟩
    cases opened.1.symm.trans tcp
  · exact away.leaving.closing

end Client
end Connection
end BravoFinder
