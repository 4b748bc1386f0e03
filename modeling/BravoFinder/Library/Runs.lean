import Mathlib.Data.List.Induction

namespace BravoFinder

/-!
# Runs of an event system

A system is given by what one event does to a state, with `none` for an event
that cannot happen there.  A run takes its events one after the other.  Facts
about every run follow from facts about one event by the rules below.
-/

section Runs

variable {State Event : Type}

/-- The state after the events, `none` when one of them could not happen. -/
def runs (step : State -> Event -> Option State) (state : State) : List Event -> Option State
  | [] => some state
  | event :: events => (step state event).bind fun after => runs step after events

variable {step : State -> Event -> Option State}

@[simp] theorem runs_nil (state : State) : runs step state [] = some state := rfl

theorem runs_cons (state : State) (event : Event) (events : List Event) :
    runs step state (event :: events) = (step state event).bind fun after => runs step after events := rfl

theorem runs_append (state : State) (first second : List Event) :
    runs step state (first ++ second) = (runs step state first).bind fun after => runs step after second := by
  induction first generalizing state with
  | nil => rfl
  | cons event events inductionHypothesis =>
      rw [List.cons_append, runs_cons, runs_cons, Option.bind_assoc]
      congr 1
      funext after
      exact inductionHypothesis after

/-- A run of two parts stops between them. -/
theorem exists_between {state final : State} {first second : List Event}
    (ran : runs step state (first ++ second) = some final) :
    exists between, runs step state first = some between ∧ runs step between second = some final := by
  rw [runs_append] at ran
  exact Option.bind_eq_some_iff.mp ran

/-- What holds at the start and survives every event of a run holds at its end. -/
theorem runs_induction (holds : List Event -> State -> Prop) {start : State} (initial : holds [] start)
    (stepped : forall past state event after, runs step start past = some state -> holds past state ->
      step state event = some after -> holds (past ++ [event]) after)
    {events : List Event} {final : State} (ran : runs step start events = some final) :
    holds events final := by
  induction events using List.reverseRecOn generalizing final with
  | nil =>
      cases ran
      exact initial
  | append_singleton past event inductionHypothesis =>
      rcases exists_between ran with ⟨between, before, last⟩
      rw [runs_cons, Option.bind_eq_some_iff] at last
      rcases last with ⟨after, taken, done⟩
      cases done
      exact stepped past between event final before (inductionHypothesis before) taken

/-- An invariant of the events is one of the runs. -/
theorem runs_invariant (holds : State -> Prop)
    (stepped : forall {state event after}, holds state -> step state event = some after -> holds after)
    {start final : State} {events : List Event} (initial : holds start)
    (ran : runs step start events = some final) : holds final := by
  apply runs_induction (fun _ => holds) initial _ ran
  intro _ state event after _ held taken
  exact stepped held taken

/-- A preorder that every event of a run respects relates the run's ends. -/
theorem runs_relates (holds : State -> Prop) {relation : State -> State -> Prop}
    (refl : forall state, relation state state)
    (trans : forall {first second third}, relation first second -> relation second third ->
      relation first third)
    (stepped : forall {state event after}, holds state -> step state event = some after ->
      holds after ∧ relation state after)
    {start final : State} {events : List Event} (initial : holds start)
    (ran : runs step start events = some final) : relation start final := by
  have both : holds final ∧ relation start final := by
    apply runs_induction (fun _ state => holds state ∧ relation start state) ⟨initial, refl start⟩ _ ran
    intro _ state event after _ held taken
    rcases stepped held.1 taken with ⟨kept, related⟩
    exact ⟨kept, trans held.2 related⟩
  exact both.2

end Runs
end BravoFinder
