import BravoFinder.Library.StdHeap
import Mathlib.Algebra.Order.Monoid.Defs
import Mathlib.Algebra.Order.Monoid.Unbundled.WithTop
import Mathlib.Algebra.BigOperators.Group.Finset.Basic
import Mathlib.Logic.Function.Basic

namespace BravoFinder

/-!
# Least distances with labels made on demand

A search from one vertex to another keeps a label, the least distance so far and
the vertex it was reached from, for the vertices it has met, and a queue of
distances.  An entry of the queue is not removed when a shorter distance is
found.  It is passed over when it is popped, because its vertex is then nearer.

When no length is negative, the vertices that were expanded keep their labels
(`Settled`).  The labels therefore lead back to the start, the search ends by
itself, and the distance it ends with is the least one.
-/

/-- The steps out of each vertex, with their lengths, and the queue.  `nowhere`
is what the start was reached from. -/
structure LazySearch (V R : Type) [LinearOrder R] where
  steps : V -> List (V × R)
  later : R × V -> R × V -> Prop
  later_of_lt : forall {first second : R × V}, second.1 < first.1 -> later first second
  queue : StdHeap (R × V) later
  nowhere : V

namespace LazySearch

/-- What is known of a vertex. -/
structure Label (V R : Type) where
  dist : R
  prev : V

/-- The labels and the queue of a search under way. -/
structure State (V R : Type) where
  label : V -> Option (Label V R)
  heap : List (R × V)

section Definitions

variable {V R : Type} [DecidableEq V] [LinearOrder R] [AddCommMonoid R] (search : LazySearch V R)

/-- The distance of a label, infinite without one. -/
def State.distOf {V R : Type} (state : State V R) (v : V) : WithTop R :=
  (state.label v).elim ⊤ fun label => (label.dist : WithTop R)

/-- One step out of `u`, which lies at distance `d`. -/
def relax (u : V) (d : R) (state : State V R) (step : V × R) : State V R :=
  if ((d + step.2 : R) : WithTop R) < state.distOf step.1 then
    ⟨Function.update state.label step.1 (some ⟨d + step.2, u⟩), search.queue.push state.heap (d + step.2, step.1)⟩
  else state

/-- The loop, which stops at the target. -/
def run (target : V) : Nat -> State V R -> State V R
  | 0, state => state
  | fuel + 1, state =>
      match search.queue.pop state.heap with
      | none => state
      | some ((d, u), rest) =>
          let popped : State V R := { state with heap := rest }
          if state.distOf u < d then run target fuel popped
          else if u = target then popped
          else run target fuel ((search.steps u).foldl (search.relax u d) popped)

/-- The start alone is labelled. -/
def init (start : V) : State V R :=
  ⟨Function.update (fun _ => none) start (some ⟨0, search.nowhere⟩), search.queue.push [] (0, start)⟩

/-- From a vertex back to the start, which is left out. -/
def walkBack (start : V) (label : V -> Option (Label V R)) : Nat -> V -> List V
  | 0, _ => []
  | fuel + 1, place =>
      if place = start ∨ place = search.nowhere then []
      else place :: walkBack start label fuel ((label place).elim search.nowhere Label.prev)

/-- The vertices after the start on the way to the target, or none. -/
def chain (start target : V) (fuel depth : Nat) : List V :=
  let final := search.run target fuel (search.init start)
  if (final.label target).isNone then [] else (search.walkBack start final.label depth target).reverse

end Definitions

/-- A walk from the start: the vertices after it, the last of them, and the length. -/
inductive Walk {V R : Type} [Zero R] [Add R] (steps : V -> List (V × R)) (start : V) : List V -> V -> R -> Prop
  | start : Walk steps start [] start 0
  | step {path : List V} {v : V} {cost : R} {next : V × R} :
      Walk steps start path v cost -> next ∈ steps v -> Walk steps start (path ++ [next.1]) next.1 (cost + next.2)

theorem Walk.eq_start {V R : Type} [Zero R] [Add R] {steps : V -> List (V × R)} {start : V} {path : List V} {v : V}
    {cost : R} (walk : Walk steps start path v cost) (nothing : path = []) : v = start := by
  cases walk with
  | start => rfl
  | step _ _ => exact absurd nothing (List.append_ne_nil_of_right_ne_nil _ (List.cons_ne_nil _ _))

section Search

variable {V R : Type} [LinearOrder R] [AddCommMonoid R] {search : LazySearch V R} {start : V}

/-- The way back from a vertex, by the labels.  All vertices before the last are
closed. -/
inductive Trail (search : LazySearch V R) (start : V) (label : V -> Option (Label V R)) (closed : Finset V) :
    List V -> V -> R -> Prop
  | start : label start = some ⟨0, search.nowhere⟩ -> Trail search start label closed [] start 0
  | step {path : List V} {p v : V} {d : R} {next : V × R} : Trail search start label closed path p d -> p ∈ closed ->
      next ∈ search.steps p -> next.1 = v -> label v = some ⟨d + next.2, p⟩ -> v ≠ start -> v ∉ path ->
      Trail search start label closed (path ++ [v]) v (d + next.2)

namespace Trail

variable {label : V -> Option (Label V R)} {closed : Finset V} {path : List V} {v : V} {d : R}

theorem walk (trail : Trail search start label closed path v d) : Walk search.steps start path v d := by
  induction trail with
  | start _ => exact .start
  | step _ _ listed same _ _ _ inductionHypothesis =>
      subst same
      exact .step inductionHypothesis listed

theorem eq_nil (trail : Trail search start label closed path v d) (same : v = start) : path = [] := by
  cases trail with
  | start _ => rfl
  | step _ _ _ _ _ other _ => exact absurd same other

theorem subset (trail : Trail search start label closed path v d) :
    forall x, x ∈ path -> x ∈ closed ∨ x = v := by
  induction trail with
  | start _ => exact fun x absurdity => absurd absurdity List.not_mem_nil
  | step _ isClosed _ _ _ _ _ inductionHypothesis =>
      intro x member
      rcases List.mem_append.mp member with before | last
      · rcases inductionHypothesis x before with old | rfl
        · exact .inl old
        · exact .inl isClosed
      · exact .inr (List.mem_singleton.mp last)

theorem nodup (trail : Trail search start label closed path v d) : path.Nodup := by
  induction trail with
  | start _ => exact List.nodup_nil
  | step _ _ _ _ _ _ fresh inductionHypothesis =>
      rw [List.nodup_append]
      refine ⟨inductionHypothesis, List.nodup_singleton _, ?_⟩
      rintro x member y last rfl
      rw [List.mem_singleton] at last
      exact fresh (last ▸ member)

/-- The trail reads the labels of closed vertices and of its end only. -/
theorem frame {label' : V -> Option (Label V R)} {closed' : Finset V}
    (trail : Trail search start label closed path v d) (more : closed ⊆ closed')
    (same : forall c, c ∈ closed -> label' c = label c) (sameEnd : label' v = label v) :
    Trail search start label' closed' path v d := by
  induction trail with
  | start here => exact .start (sameEnd.trans here)
  | step _ isClosed listed target here other fresh inductionHypothesis =>
      exact .step (inductionHypothesis (same _ isClosed)) (more isClosed) listed target (sameEnd.trans here) other fresh

variable [DecidableEq V] in
/-- Walking back follows the trail. -/
theorem walkBack_eq (trail : Trail search start label closed path v d)
    (somewhere : forall u next, next ∈ search.steps u -> next.1 ≠ search.nowhere) {depth : Nat}
    (enough : path.length < depth) : search.walkBack start label depth v = path.reverse := by
  induction trail generalizing depth with
  | start _ =>
      cases depth with
      | zero => cases enough
      | succ depth => rw [walkBack, if_pos (.inl rfl), List.reverse_nil]
  | @step path p v d next _ _ listed target here other _ inductionHypothesis =>
      rw [List.length_append, List.length_singleton] at enough
      cases depth with
      | zero => cases enough
      | succ depth =>
          have away : ¬ (v = start ∨ v = search.nowhere) := by
            rw [not_or]
            exact ⟨other, target ▸ somewhere p next listed⟩
          have back := inductionHypothesis (Nat.lt_of_succ_lt_succ enough)
          rw [walkBack, if_neg away, here, Option.elim_some, back, List.reverse_append, List.reverse_singleton,
            List.singleton_append]

end Trail

/-- No length is negative. -/
def NonNegative (search : LazySearch V R) : Prop :=
  forall u next, next ∈ search.steps u -> 0 ≤ next.2

variable [IsOrderedAddMonoid R] in
theorem Walk.nonneg (nonneg : search.NonNegative) {path : List V} {v : V} {cost : R}
    (walk : Walk search.steps start path v cost) : 0 ≤ cost := by
  induction walk with
  | start => exact le_refl 0
  | step _ listed inductionHypothesis => exact add_nonneg inductionHypothesis (nonneg _ _ listed)

/-! ## The invariant -/

/-- What holds of a search under way, with the vertices it has expanded. -/
structure Settled (search : LazySearch V R) (start : V) (state : State V R) (closed : Finset V) : Prop where
  isHeap : search.queue.IsHeap state.heap
  started : state.label start = some ⟨0, search.nowhere⟩
  trail : forall v label, state.label v = some label ->
    exists path, Trail search start state.label closed path v label.dist
  labelled : forall c, c ∈ closed -> exists label, state.label c = some label
  queued : forall v label, state.label v = some label -> v ∉ closed -> (label.dist, v) ∈ state.heap
  /-- An entry is no nearer than its vertex. -/
  stale : forall entry, entry ∈ state.heap -> exists label, state.label entry.2 = some label ∧ label.dist ≤ entry.1
  /-- Nothing that is queued is nearer than a closed vertex. -/
  ahead : forall c label, c ∈ closed -> state.label c = some label ->
    forall entry, entry ∈ state.heap -> label.dist ≤ entry.1

/-- The steps out of a closed vertex were taken. -/
def Relaxed (search : LazySearch V R) (state : State V R) (closed : Finset V) : Prop :=
  forall c label, c ∈ closed -> state.label c = some label -> forall next, next ∈ search.steps c ->
    state.distOf next.1 ≤ ((label.dist + next.2 : R) : WithTop R)

omit [LinearOrder R] [AddCommMonoid R] in
theorem distOf_of_label {state : State V R} {v : V} {label : Label V R} (here : state.label v = some label) :
    state.distOf v = label.dist := by
  rw [State.distOf, here, Option.elim_some]

variable [DecidableEq V]

theorem label_init : (search.init start).label start = some ⟨0, search.nowhere⟩ := by
  rw [init]
  exact Function.update_self start (some (⟨0, search.nowhere⟩ : Label V R)) fun _ => none

theorem label_init_of_ne {v : V} (other : v ≠ start) : (search.init start).label v = none := by
  rw [init]
  exact Function.update_of_ne other (some (⟨0, search.nowhere⟩ : Label V R)) fun _ => none

theorem settled_init : Settled search start (search.init start) ∅ where
  isHeap := search.queue.isHeap_push search.queue.isHeap_nil _
  started := label_init
  trail v label here := by
    rcases eq_or_ne v start with rfl | other
    · rw [label_init] at here
      cases here
      exact ⟨[], .start label_init⟩
    · rw [label_init_of_ne other] at here
      cases here
  labelled c absurdity := absurd absurdity (Finset.notMem_empty c)
  queued v label here _ := by
    rcases eq_or_ne v start with rfl | other
    · rw [label_init] at here
      cases here
      exact (search.queue.mem_push _ _ _).mpr (.inl rfl)
    · rw [label_init_of_ne other] at here
      cases here
  stale entry member := by
    rcases (search.queue.mem_push _ _ _).mp member with rfl | absurdity
    · exact ⟨⟨0, search.nowhere⟩, label_init, le_refl _⟩
    · exact absurd absurdity List.not_mem_nil
  ahead c label absurdity := absurd absurdity (Finset.notMem_empty c)

/-! ## One step -/

section Relax

variable {state : State V R} {closed : Finset V} {u : V} {d : R}

/-- What relaxing a step does. -/
theorem relax_cases (search : LazySearch V R) (state : State V R) (u : V) (d : R) (next : V × R) :
    (state.distOf next.1 ≤ ((d + next.2 : R) : WithTop R) ∧ search.relax u d state next = state) ∨
    (((d + next.2 : R) : WithTop R) < state.distOf next.1 ∧ search.relax u d state next =
      ⟨Function.update state.label next.1 (some ⟨d + next.2, u⟩), search.queue.push state.heap (d + next.2, next.1)⟩) := by
  rw [relax]
  split
  next shorter => exact .inr ⟨shorter, rfl⟩
  next longer => exact .inl ⟨not_lt.mp longer, rfl⟩

theorem length_heap_relax_le (search : LazySearch V R) (state : State V R) (u : V) (d : R) (next : V × R) :
    (search.relax u d state next).heap.length ≤ state.heap.length + 1 := by
  rcases relax_cases search state u d next with ⟨_, same⟩ | ⟨_, changed⟩
  · rw [same]
    exact Nat.le_succ _
  · rw [changed, search.queue.length_push]

/-- What the steps out of one vertex keep, when it was the nearest of the queue. -/
structure Expanding (search : LazySearch V R) (start : V) (state : State V R) (closed : Finset V) (u : V) (d : R) :
    Prop extends Settled search start state closed where
  isClosed : u ∈ closed
  here : exists prev, state.label u = some ⟨d, prev⟩
  nearest : forall c label, c ∈ closed -> state.label c = some label -> label.dist ≤ d
  farther : forall entry, entry ∈ state.heap -> d ≤ entry.1

variable [IsOrderedAddMonoid R]

theorem Expanding.relax (expanding : Expanding search start state closed u d) (nonneg : search.NonNegative)
    {next : V × R} (listed : next ∈ search.steps u) :
    Expanding search start (search.relax u d state next) closed u d ∧
      (forall c, c ∈ closed -> (search.relax u d state next).label c = state.label c) ∧
      (forall v, (search.relax u d state next).distOf v ≤ state.distOf v) ∧
      (search.relax u d state next).distOf next.1 ≤ ((d + next.2 : R) : WithTop R) := by
  rcases relax_cases search state u d next with ⟨near, same⟩ | ⟨shorter, changed⟩
  · rw [same]
    exact ⟨expanding, fun _ _ => rfl, fun _ => le_refl _, near⟩
  have forward : d ≤ d + next.2 := le_add_of_nonneg_right (nonneg u next listed)
  -- A closed vertex is no farther than `u`, so the vertex that comes nearer is open.
  have isOpen : next.1 ∉ closed := by
    intro isClosed
    rcases expanding.labelled _ isClosed with ⟨label, known⟩
    rw [distOf_of_label known, WithTop.coe_lt_coe] at shorter
    exact absurd (expanding.nearest _ label isClosed known) (not_le.mpr (forward.trans_lt shorter))
  rcases expanding.here with ⟨prev, here⟩
  rcases expanding.trail u _ here with ⟨path, trail⟩
  have notStart : next.1 ≠ start := by
    intro isStart
    rw [isStart, distOf_of_label expanding.started, WithTop.coe_lt_coe] at shorter
    exact absurd (trail.walk.nonneg nonneg) (not_le.mpr (forward.trans_lt shorter))
  have other : forall v, v ≠ next.1 -> (search.relax u d state next).label v = state.label v := by
    intro v different
    rw [changed]
    exact Function.update_of_ne different ..
  have itself : (search.relax u d state next).label next.1 = some ⟨d + next.2, u⟩ := by
    rw [changed]
    exact Function.update_self ..
  have kept : forall c, c ∈ closed -> (search.relax u d state next).label c = state.label c :=
    fun c isClosed => other c fun same => isOpen (same ▸ isClosed)
  have pushed : forall entry, entry ∈ (search.relax u d state next).heap ↔
      entry = (d + next.2, next.1) ∨ entry ∈ state.heap := by
    intro entry
    rw [changed]
    exact search.queue.mem_push ..
  refine ⟨⟨⟨?_, ?_, ?_, ?_, ?_, ?_, ?_⟩, expanding.isClosed, ⟨prev, (kept u expanding.isClosed).trans here⟩, ?_, ?_⟩,
    kept, ?_, ?_⟩
  case refine_1 =>
    rw [changed]
    exact search.queue.isHeap_push expanding.isHeap _
  case refine_2 => exact (other start notStart.symm).trans expanding.started
  case refine_3 =>
    intro v label known
    rcases eq_or_ne v next.1 with rfl | different
    · rw [itself] at known
      cases known
      have fresh : next.1 ∉ path := fun member =>
        (trail.subset _ member).elim isOpen fun same => isOpen (same ▸ expanding.isClosed)
      refine ⟨path ++ [next.1], .step ?_ expanding.isClosed listed rfl itself notStart fresh⟩
      exact trail.frame (Finset.Subset.refl _) kept (kept u expanding.isClosed)
    · rw [other v different] at known
      rcases expanding.trail v label known with ⟨way, old⟩
      exact ⟨way, old.frame (Finset.Subset.refl _) kept (other v different)⟩
  case refine_4 =>
    intro c isClosed
    rw [kept c isClosed]
    exact expanding.labelled c isClosed
  case refine_5 =>
    intro v label known stillOpen
    rw [pushed]
    rcases eq_or_ne v next.1 with rfl | different
    · rw [itself] at known
      cases known
      exact .inl rfl
    · rw [other v different] at known
      exact .inr (expanding.queued v label known stillOpen)
  case refine_6 =>
    intro entry member
    rcases (pushed entry).mp member with rfl | old
    · exact ⟨_, itself, le_refl _⟩
    · rcases expanding.stale entry old with ⟨label, known, short⟩
      rcases eq_or_ne entry.2 next.1 with same | different
      · rw [same] at known ⊢
        rw [distOf_of_label known, WithTop.coe_lt_coe] at shorter
        exact ⟨_, itself, (shorter.trans_le short).le⟩
      · exact ⟨label, (other _ different).trans known, short⟩
  case refine_7 =>
    intro c label isClosed known entry member
    rw [kept c isClosed] at known
    rcases (pushed entry).mp member with rfl | old
    · exact (expanding.nearest c label isClosed known).trans forward
    · exact expanding.ahead c label isClosed known entry old
  case refine_8 =>
    intro c label isClosed known
    rw [kept c isClosed] at known
    exact expanding.nearest c label isClosed known
  case refine_9 =>
    intro entry member
    rcases (pushed entry).mp member with rfl | old
    · exact forward
    · exact expanding.farther entry old
  case refine_10 =>
    intro v
    rcases eq_or_ne v next.1 with rfl | different
    · rw [distOf_of_label itself]
      exact shorter.le
    · rw [State.distOf, State.distOf, other v different]
  case refine_11 => rw [distOf_of_label itself]

/-- All steps out of a vertex. -/
theorem Expanding.foldl (nonneg : search.NonNegative) {steps : List (V × R)} :
    forall {state : State V R}, Expanding search start state closed u d ->
      (forall next, next ∈ steps -> next ∈ search.steps u) ->
    Expanding search start (steps.foldl (search.relax u d) state) closed u d ∧
      (forall c, c ∈ closed -> (steps.foldl (search.relax u d) state).label c = state.label c) ∧
      (forall v, (steps.foldl (search.relax u d) state).distOf v ≤ state.distOf v) ∧
      (forall next, next ∈ steps ->
        (steps.foldl (search.relax u d) state).distOf next.1 ≤ ((d + next.2 : R) : WithTop R)) ∧
      (steps.foldl (search.relax u d) state).heap.length ≤ state.heap.length + steps.length := by
  induction steps with
  | nil =>
      intro state expanding _
      exact ⟨expanding, fun _ _ => rfl, fun _ => le_refl _, fun _ absurdity => absurd absurdity List.not_mem_nil,
        Nat.le_refl _⟩
  | cons next steps inductionHypothesis =>
      intro state expanding listed
      rw [List.forall_mem_cons] at listed
      rcases expanding.relax nonneg listed.1 with ⟨first, keptFirst, nearerFirst, reached⟩
      rcases inductionHypothesis first listed.2 with ⟨whole, keptRest, nearerRest, reachedRest, grown⟩
      refine ⟨whole, fun c isClosed => (keptRest c isClosed).trans (keptFirst c isClosed),
        fun v => (nearerRest v).trans (nearerFirst v), ?_, ?_⟩
      · rw [List.forall_mem_cons]
        exact ⟨(nearerRest next.1).trans reached, reachedRest⟩
      · have one := length_heap_relax_le search state u d next
        rw [List.foldl_cons, List.length_cons]
        omega

end Relax

/-! ## The loop -/

section Run

variable {state : State V R} {closed : Finset V} {u target : V} {d : R} {rest : List (R × V)}

omit [DecidableEq V] in
/-- An entry whose vertex is nearer is passed over. -/
theorem Settled.skip (settled : Settled search start state closed)
    (popped : search.queue.pop state.heap = some ((d, u), rest)) (stale : state.distOf u < d) :
    Settled search start { state with heap := rest } closed where
  isHeap := search.queue.pop_isHeap settled.isHeap popped
  started := settled.started
  trail := settled.trail
  labelled := settled.labelled
  queued v label known isOpen := by
    have member := settled.queued v label known isOpen
    rcases (search.queue.mem_of_pop settled.isHeap popped _).mp member with same | later
    · cases same
      have here : state.label u = some label := known
      rw [distOf_of_label here] at stale
      exact absurd stale (lt_irrefl _)
    · exact later
  stale entry member := settled.stale entry ((search.queue.mem_of_pop settled.isHeap popped _).mpr (.inr member))
  ahead c label isClosed known entry member :=
    settled.ahead c label isClosed known entry ((search.queue.mem_of_pop settled.isHeap popped _).mpr (.inr member))

/-- The nearest vertex of the queue is closed. -/
theorem Settled.close (settled : Settled search start state closed)
    (popped : search.queue.pop state.heap = some ((d, u), rest)) (fresh : ¬ state.distOf u < d) :
    Expanding search start { state with heap := rest } (insert u closed) u d := by
  have inHeap : (d, u) ∈ state.heap := (search.queue.mem_of_pop settled.isHeap popped _).mpr (.inl rfl)
  have least : forall entry, entry ∈ state.heap -> d ≤ entry.1 := by
    intro entry member
    have first := search.queue.pop_least settled.isHeap popped entry member
    exact not_lt.mp fun nearer => first (search.later_of_lt nearer)
  have inRest : forall entry, entry ∈ rest -> entry ∈ state.heap := fun entry member =>
    (search.queue.mem_of_pop settled.isHeap popped _).mpr (.inr member)
  have here : exists prev, state.label u = some ⟨d, prev⟩ := by
    rcases settled.stale _ inHeap with ⟨label, known, short⟩
    rw [distOf_of_label known, WithTop.coe_lt_coe, not_lt] at fresh
    have same : label.dist = d := le_antisymm short fresh
    rw [← same]
    exact ⟨label.prev, known⟩
  have atU : forall label, state.label u = some label -> label.dist = d := by
    intro label known
    rcases here with ⟨prev, same⟩
    rw [known] at same
    cases same
    rfl
  refine ⟨⟨search.queue.pop_isHeap settled.isHeap popped, settled.started, ?_, ?_, ?_, ?_, ?_⟩,
    Finset.mem_insert_self u closed, here, ?_, ?_⟩
  case refine_1 =>
    intro v label known
    rcases settled.trail v label known with ⟨path, trail⟩
    exact ⟨path, trail.frame (Finset.subset_insert u closed) (fun _ _ => rfl) rfl⟩
  case refine_2 =>
    intro c isClosed
    rcases Finset.mem_insert.mp isClosed with rfl | old
    · rcases here with ⟨prev, known⟩
      exact ⟨_, known⟩
    · exact settled.labelled c old
  case refine_3 =>
    intro v label known isOpen
    rw [Finset.mem_insert, not_or] at isOpen
    have member := settled.queued v label known isOpen.2
    rcases (search.queue.mem_of_pop settled.isHeap popped _).mp member with same | later
    · cases same
      exact absurd rfl isOpen.1
    · exact later
  case refine_4 => exact fun entry member => settled.stale entry (inRest entry member)
  case refine_5 =>
    intro c label isClosed known entry member
    rcases Finset.mem_insert.mp isClosed with rfl | old
    · rw [atU label known]
      exact least entry (inRest entry member)
    · exact settled.ahead c label old known entry (inRest entry member)
  case refine_6 =>
    intro c label isClosed known
    rcases Finset.mem_insert.mp isClosed with rfl | old
    · rw [atU label known]
    · exact settled.ahead c label old known _ inHeap
  case refine_7 => exact fun entry member => least entry (inRest entry member)

variable [IsOrderedAddMonoid R]

/-- Expanding the vertex that was closed. -/
theorem Settled.expand (settled : Settled search start state closed) (relaxed : Relaxed search state closed)
    (nonneg : search.NonNegative) (popped : search.queue.pop state.heap = some ((d, u), rest))
    (fresh : ¬ state.distOf u < d) :
    let next := (search.steps u).foldl (search.relax u d) { state with heap := rest }
    Settled search start next (insert u closed) ∧ Relaxed search next (insert u closed) ∧
      next.heap.length ≤ rest.length + (search.steps u).length := by
  rcases (settled.close popped fresh).foldl nonneg (fun next listed => listed) with
    ⟨whole, kept, nearer, reached, grown⟩
  refine ⟨whole.toSettled, ?_, grown⟩
  intro c label isClosed known next listed
  rw [kept c isClosed] at known
  rcases Finset.mem_insert.mp isClosed with rfl | old
  · rcases (settled.close popped fresh).here with ⟨prev, here⟩
    rw [known] at here
    cases here
    exact reached next listed
  · exact (nearer next.1).trans (relaxed c label old known next listed)

omit [IsOrderedAddMonoid R] in
/-- Expanding a vertex again changes nothing. -/
theorem foldl_relax_eq {steps : List (V × R)}
    (near : forall next, next ∈ steps -> state.distOf next.1 ≤ ((d + next.2 : R) : WithTop R)) :
    steps.foldl (search.relax u d) state = state := by
  induction steps with
  | nil => rfl
  | cons next steps inductionHypothesis =>
      rw [List.forall_mem_cons] at near
      rw [List.foldl_cons, relax, if_neg (not_lt.mpr near.1), inductionHypothesis near.2]

/-! ## The end -/

/-- Where every walk stands: its end is closed and as near, or something that is
queued is as near. -/
theorem Settled.reaches (settled : Settled search start state closed) (relaxed : Relaxed search state closed)
    (nonneg : search.NonNegative) {path : List V} {v : V} {cost : R} (walk : Walk search.steps start path v cost) :
    (exists label, v ∈ closed ∧ state.label v = some label ∧ label.dist ≤ cost) ∨
      exists entry, entry ∈ state.heap ∧ entry.1 ≤ cost := by
  have either : forall v label cost, state.label v = some label -> label.dist ≤ cost ->
      (exists label, v ∈ closed ∧ state.label v = some label ∧ label.dist ≤ cost) ∨
        exists entry, entry ∈ state.heap ∧ entry.1 ≤ cost := by
    intro v label cost known short
    by_cases isClosed : v ∈ closed
    · exact .inl ⟨label, isClosed, known, short⟩
    · exact .inr ⟨_, settled.queued v label known isClosed, short⟩
  induction walk with
  | start => exact either start _ 0 settled.started (le_refl 0)
  | @step path v cost next walk listed inductionHypothesis =>
      rcases inductionHypothesis with ⟨label, isClosed, known, short⟩ | ⟨entry, member, short⟩
      · have near := relaxed v label isClosed known next listed
        have labelled : state.label next.1 ≠ none := by
          intro missing
          rw [State.distOf, missing, Option.elim_none, top_le_iff] at near
          exact WithTop.coe_ne_top near
        rcases Option.ne_none_iff_exists'.mp labelled with ⟨found, reached⟩
        rw [distOf_of_label reached, WithTop.coe_le_coe] at near
        exact either next.1 found _ reached (near.trans (add_le_add_left short next.2))
      · exact .inr ⟨entry, member, short.trans (le_add_of_nonneg_right (nonneg v next listed))⟩

/-- What the search ends with. -/
structure Finished (search : LazySearch V R) (start target : V) (final : State V R) : Prop where
  trail : forall label, final.label target = some label ->
    exists closed path, Trail search start final.label closed path target label.dist
  least : forall path cost, Walk search.steps start path target cost ->
    exists label, final.label target = some label ∧ label.dist ≤ cost

theorem Settled.finished_of_empty (settled : Settled search start state closed)
    (relaxed : Relaxed search state closed) (nonneg : search.NonNegative) (empty : state.heap = []) :
    Finished search start target state where
  trail label known := ⟨closed, settled.trail target label known⟩
  least path cost walk := by
    rcases settled.reaches relaxed nonneg walk with ⟨label, _, known, short⟩ | ⟨entry, member, _⟩
    · exact ⟨label, known, short⟩
    · rw [empty] at member
      cases member

theorem Settled.finished_of_target (settled : Settled search start state closed)
    (relaxed : Relaxed search state closed) (nonneg : search.NonNegative)
    (popped : search.queue.pop state.heap = some ((d, target), rest)) (fresh : ¬ state.distOf target < d) :
    Finished search start target { state with heap := rest } where
  trail label known := ⟨closed, settled.trail target label known⟩
  least path cost walk := by
    rcases (settled.close popped fresh).here with ⟨prev, here⟩
    rcases settled.reaches relaxed nonneg walk with ⟨label, _, known, short⟩ | ⟨entry, member, short⟩
    · exact ⟨label, known, short⟩
    · have first := search.queue.pop_least settled.isHeap popped entry member
      exact ⟨_, here, (not_lt.mp fun nearer => first (search.later_of_lt nearer)).trans short⟩

/-! ## Fuel -/

/-- Every vertex that can be met. -/
structure Inside (search : LazySearch V R) (start : V) (vertices : Finset V) : Prop where
  start : start ∈ vertices
  step : forall u next, next ∈ search.steps u -> next.1 ∈ vertices

omit [DecidableEq V] [IsOrderedAddMonoid R] in
theorem Trail.inside {vertices : Finset V} (inside : Inside search start vertices)
    {label : V -> Option (Label V R)} {path : List V} {v : V}
    (trail : Trail search start label closed path v d) :
    v ∈ vertices ∧ forall x, x ∈ path -> x ∈ vertices := by
  induction trail with
  | start _ => exact ⟨inside.start, fun x absurdity => absurd absurdity List.not_mem_nil⟩
  | @step path p v d next _ _ listed same _ _ _ inductionHypothesis =>
      have there : v ∈ vertices := same ▸ inside.step p next listed
      refine ⟨there, fun x member => ?_⟩
      rcases List.mem_append.mp member with before | last
      · exact inductionHypothesis.2 x before
      · exact List.mem_singleton.mp last ▸ there

/-- How many entries can still be popped. -/
def budget (search : LazySearch V R) (vertices : Finset V) (state : State V R) (closed : Finset V) : Nat :=
  state.heap.length + ∑ v ∈ vertices \ closed, (search.steps v).length

/-- The loop ends by itself, with the least distance. -/
theorem finished_run {vertices : Finset V} (inside : Inside search start vertices) (nonneg : search.NonNegative)
    {fuel : Nat} (settled : Settled search start state closed) (relaxed : Relaxed search state closed)
    (enough : budget search vertices state closed ≤ fuel) :
    Finished search start target (search.run target fuel state) := by
  induction fuel generalizing state closed with
  | zero =>
      rw [budget, Nat.le_zero, Nat.add_eq_zero_iff] at enough
      exact settled.finished_of_empty relaxed nonneg (List.eq_nil_of_length_eq_zero enough.1)
  | succ fuel inductionHypothesis =>
      rw [run]
      split
      next failed =>
        exact settled.finished_of_empty relaxed nonneg (search.queue.eq_nil_of_pop_eq_none settled.isHeap failed)
      next d u rest popped =>
        have shrinks := search.queue.length_of_pop settled.isHeap popped
        have left : (⟨state.label, rest⟩ : State V R).heap.length = rest.length := rfl
        rw [budget, shrinks] at enough
        simp only
        split
        next stale =>
          refine inductionHypothesis (settled.skip popped stale) relaxed ?_
          rw [budget]
          omega
        next fresh =>
          split
          next isTarget =>
            subst isTarget
            exact settled.finished_of_target relaxed nonneg popped fresh
          next other =>
            rcases settled.expand relaxed nonneg popped fresh with ⟨settledNext, relaxedNext, grown⟩
            refine inductionHypothesis settledNext relaxedNext ?_
            rw [budget]
            by_cases again : u ∈ closed
            · -- All steps out of `u` were taken before.
              rcases (settled.close popped fresh).here with ⟨prev, here⟩
              have unchanged : (search.steps u).foldl (search.relax u d) ⟨state.label, rest⟩ = ⟨state.label, rest⟩ :=
                foldl_relax_eq (relaxed u _ again here)
              rw [unchanged, Finset.insert_eq_of_mem again]
              omega
            · rcases (settled.close popped fresh).here with ⟨prev, here⟩
              rcases settled.trail u _ here with ⟨path, trail⟩
              have member : u ∈ vertices \ closed := Finset.mem_sdiff.mpr ⟨(trail.inside inside).1, again⟩
              have split := Finset.add_sum_erase (vertices \ closed) (fun v => (search.steps v).length) member
              rw [← Finset.sdiff_insert] at split
              omega

/-- The chain leads from the start to the target by a shortest walk; it is empty
when there is no walk, or nowhere to go. -/
theorem chain_spec (target : V) {vertices : Finset V} (inside : Inside search start vertices) (nonneg : search.NonNegative)
    (somewhere : forall u next, next ∈ search.steps u -> next.1 ≠ search.nowhere) {fuel depth : Nat}
    (enoughFuel : 1 + ∑ v ∈ vertices, (search.steps v).length ≤ fuel) (enoughDepth : vertices.card < depth) :
    (search.chain start target fuel depth = [] ↔
      target = start ∨ ¬ exists path cost, Walk search.steps start path target cost) ∧
    (search.chain start target fuel depth ≠ [] -> exists cost,
      Walk search.steps start (search.chain start target fuel depth) target cost ∧
        forall path other, Walk search.steps start path target other -> cost ≤ other) := by
  have begun : Relaxed search (search.init start) ∅ := fun c _ absurdity => absurd absurdity (Finset.notMem_empty c)
  have queued : budget search vertices (search.init start) ∅ ≤ fuel := by
    have one : (search.init start).heap.length = 1 := by
      rw [init, search.queue.length_push, List.length_nil]
    rw [budget, one, Finset.sdiff_empty]
    exact enoughFuel
  have finished : Finished search start target (search.run target fuel (search.init start)) :=
    finished_run inside nonneg settled_init begun queued
  rw [chain]
  generalize search.run target fuel (search.init start) = final at finished
  rcases known : final.label target with _ | label
  · have unreached : ¬ exists path cost, Walk search.steps start path target cost := by
      rintro ⟨path, cost, walk⟩
      rcases finished.least path cost walk with ⟨label, found, _⟩
      rw [known] at found
      cases found
    rw [Option.isNone_none, if_pos rfl]
    exact ⟨iff_of_true rfl (.inr unreached), fun absurdity => absurd rfl absurdity⟩
  · rcases finished.trail label known with ⟨closed, path, trail⟩
    have short : path.length < depth := by
      rw [← List.toFinset_card_of_nodup trail.nodup]
      refine (Finset.card_le_card fun x member => ?_).trans_lt enoughDepth
      exact (trail.inside inside).2 x (List.mem_toFinset.mp member)
    rw [Option.isNone_some, if_neg Bool.false_ne_true, trail.walkBack_eq somewhere short, List.reverse_reverse]
    have shortest : forall path other, Walk search.steps start path target other -> label.dist ≤ other := by
      intro path other walk
      rcases finished.least path other walk with ⟨found, same, least⟩
      rw [known] at same
      cases same
      exact least
    refine ⟨?_, fun _ => ⟨label.dist, trail.walk, shortest⟩⟩
    constructor
    · intro nothing
      exact .inl (trail.walk.eq_start nothing)
    · rintro (rfl | unreached)
      · exact trail.eq_nil rfl
      · exact absurd ⟨path, _, trail.walk⟩ unreached

end Run
end Search
end LazySearch
end BravoFinder
