import Mathlib.Data.List.Sort
import Mathlib.Data.List.Perm.Basic

namespace BravoFinder

/-!
# Heaps on a vector, as the standard library documents them

`push_heap` and `pop_heap` fix which element leaves a heap and which elements
remain, but not the order of the remaining ones.  A program that breaks ties by
heap position therefore depends on the implementation it is linked with.  The
contract below keeps exactly the documented part, so a result proved from it
holds with every conforming implementation.

`StdHeap.sorted` is one implementation, kept in order of a key.
-/

/-- A vector driven by `push_back` + `push_heap` and `pop_heap` + `pop_back`
with the comparator `after`: the element that leaves is one that comes `after`
no other.  `IsHeap` is the precondition that the two operations maintain. -/
structure StdHeap (A : Type) (after : A -> A -> Prop) where
  IsHeap : List A -> Prop
  push : List A -> A -> List A
  pop : List A -> Option (A × List A)
  isHeap_nil : IsHeap []
  isHeap_push : forall {heap}, IsHeap heap -> forall value, IsHeap (push heap value)
  push_perm : forall heap value, (push heap value).Perm (value :: heap)
  pop_nil : pop [] = none
  pop_isSome : forall {heap}, IsHeap heap -> heap ≠ [] -> (pop heap).isSome
  pop_isHeap : forall {heap value rest}, IsHeap heap -> pop heap = some (value, rest) -> IsHeap rest
  pop_perm : forall {heap value rest}, IsHeap heap -> pop heap = some (value, rest) ->
    heap.Perm (value :: rest)
  pop_least : forall {heap value rest}, IsHeap heap -> pop heap = some (value, rest) ->
    forall other, other ∈ heap -> ¬ after value other

namespace StdHeap

variable {A : Type} {after : A -> A -> Prop}

/-- `front()` of the vector: the element the next `pop` removes. -/
def front (ops : StdHeap A after) (heap : List A) : Option A :=
  (ops.pop heap).map Prod.fst

theorem mem_push (ops : StdHeap A after) (heap : List A) (value other : A) :
    other ∈ ops.push heap value ↔ other = value ∨ other ∈ heap := by
  rw [(ops.push_perm heap value).mem_iff, List.mem_cons]

theorem length_push (ops : StdHeap A after) (heap : List A) (value : A) :
    (ops.push heap value).length = heap.length + 1 := by
  rw [(ops.push_perm heap value).length_eq, List.length_cons]

theorem mem_of_pop (ops : StdHeap A after) {heap rest : List A} {value : A}
    (isHeap : ops.IsHeap heap) (popped : ops.pop heap = some (value, rest)) (other : A) :
    other ∈ heap ↔ other = value ∨ other ∈ rest := by
  rw [(ops.pop_perm isHeap popped).mem_iff, List.mem_cons]

theorem length_of_pop (ops : StdHeap A after) {heap rest : List A} {value : A}
    (isHeap : ops.IsHeap heap) (popped : ops.pop heap = some (value, rest)) :
    heap.length = rest.length + 1 := by
  rw [(ops.pop_perm isHeap popped).length_eq, List.length_cons]

/-- On a heap, `pop` fails only when there is nothing to remove. -/
theorem eq_nil_of_pop_eq_none (ops : StdHeap A after) {heap : List A}
    (isHeap : ops.IsHeap heap) (failed : ops.pop heap = none) : heap = [] := by
  by_contra nonempty
  have present := ops.pop_isSome isHeap nonempty
  rw [failed] at present
  cases present

/-- The element that leaves first is the front. -/
theorem exists_pop_of_front (ops : StdHeap A after) {heap : List A} {value : A}
    (first : ops.front heap = some value) : exists rest, ops.pop heap = some (value, rest) := by
  unfold front at first
  cases popped : ops.pop heap with
  | none =>
      rw [popped] at first
      cases first
  | some result =>
      rw [popped] at first
      cases first
      exact ⟨result.2, rfl⟩

theorem front_eq_none (ops : StdHeap A after) {heap : List A} (isHeap : ops.IsHeap heap)
    (failed : ops.front heap = none) : heap = [] :=
  ops.eq_nil_of_pop_eq_none isHeap (Option.map_eq_none_iff.mp failed)

/-- Pushing several elements one after the other. -/
theorem foldl_push (ops : StdHeap A after) (values : List A) {heap : List A} (isHeap : ops.IsHeap heap) :
    ops.IsHeap (values.foldl ops.push heap) ∧ (values.foldl ops.push heap).Perm (values ++ heap) := by
  induction values generalizing heap with
  | nil => exact ⟨isHeap, .refl _⟩
  | cons value rest inductionHypothesis =>
      rcases inductionHypothesis (ops.isHeap_push isHeap value) with ⟨stillHeap, perm⟩
      refine ⟨stillHeap, perm.trans ?_⟩
      exact ((ops.push_perm heap value).append_left rest).trans List.perm_middle

/-- A vector of one element is a heap. -/
theorem isHeap_singleton (ops : StdHeap A after) (value : A) : ops.IsHeap [value] := by
  have pushed := ops.isHeap_push ops.isHeap_nil value
  rw [List.perm_singleton.mp (ops.push_perm [] value)] at pushed
  exact pushed

/-! ## A conforming implementation -/

/-- The vector kept sorted by a key; the least key leaves first, and among
equal keys the one pushed last. -/
def sorted {K : Type} [LinearOrder K] (key : A -> K)
    (agree : forall first second, after first second -> key second < key first) :
    StdHeap A after where
  IsHeap heap := heap.Pairwise (fun first second => key first ≤ key second)
  push heap value := heap.orderedInsert (fun first second => key first ≤ key second) value
  pop
    | [] => none
    | value :: rest => some (value, rest)
  isHeap_nil := List.Pairwise.nil
  isHeap_push := by
    intro heap ordered value
    have : IsTrans A (fun first second => key first ≤ key second) :=
      ⟨fun _ _ _ first second => le_trans first second⟩
    have : Std.Total (fun first second : A => key first ≤ key second) :=
      ⟨fun first second => le_total (key first) (key second)⟩
    exact ordered.orderedInsert value heap
  push_perm heap value := List.perm_orderedInsert _ value heap
  pop_nil := rfl
  pop_isSome := by
    intro heap _ nonempty
    cases heap with
    | nil => exact absurd rfl nonempty
    | cons value rest => rfl
  pop_isHeap := by
    intro heap value rest ordered popped
    cases heap with
    | nil => cases popped
    | cons first others =>
        cases popped
        exact (List.pairwise_cons.mp ordered).2
  pop_perm := by
    intro heap value rest _ popped
    cases heap with
    | nil => cases popped
    | cons first others =>
        cases popped
        exact List.Perm.refl _
  pop_least := by
    intro heap value rest ordered popped other member
    cases heap with
    | nil => cases popped
    | cons first others =>
        cases popped
        rcases List.mem_cons.mp member with same | later
        · rw [same]
          exact fun later => lt_irrefl _ (agree _ _ later)
        · exact fun comes => not_lt_of_ge ((List.pairwise_cons.mp ordered).1 other later) (agree _ _ comes)

end StdHeap
end BravoFinder
