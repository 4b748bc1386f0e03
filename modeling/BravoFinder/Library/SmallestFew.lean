import Mathlib.Data.List.Sort

namespace BravoFinder

/-!
# The first few of a sorted list

A search that looks at more and more candidates may stop when the last of the
first few is no greater than anything it has not seen: sorting everything would
give the same first few.
-/

variable {A : Type} [LinearOrder A]

/-- Sorting splits where nothing later is smaller. -/
theorem insertionSort_append_of_le {front back : List A}
    (ordered : forall first, first ∈ front -> forall later, later ∈ back -> first ≤ later) :
    (front ++ back).insertionSort (· ≤ ·) = front.insertionSort (· ≤ ·) ++ back.insertionSort (· ≤ ·) := by
  have same : ((front ++ back).insertionSort (· ≤ ·)).Perm
      (front.insertionSort (· ≤ ·) ++ back.insertionSort (· ≤ ·)) :=
    (List.perm_insertionSort _ _).trans
      ((List.perm_insertionSort _ _).append (List.perm_insertionSort _ _)).symm
  refine same.eq_of_pairwise (fun _ _ _ _ => le_antisymm) (List.pairwise_insertionSort _ _) ?_
  rw [List.pairwise_append]
  refine ⟨List.pairwise_insertionSort _ _, List.pairwise_insertionSort _ _, fun first inFront later inBack => ?_⟩
  exact ordered first ((List.mem_insertionSort _).mp inFront) later ((List.mem_insertionSort _).mp inBack)

theorem insertionSort_congr {first second : List A} (same : first.Perm second) :
    first.insertionSort (· ≤ ·) = second.insertionSort (· ≤ ·) :=
  ((List.perm_insertionSort _ _).trans (same.trans (List.perm_insertionSort _ _).symm)).eq_of_pairwise
    (fun _ _ _ _ => le_antisymm) (List.pairwise_insertionSort _ _) (List.pairwise_insertionSort _ _)

/-- When the last of the first `count` seen is no greater than what was not
seen, these are the first `count` of all. -/
theorem take_insertionSort_of_settled {all seen unseen : List A} (same : all.Perm (seen ++ unseen))
    {count : Nat} {last : A} (found : (seen.insertionSort (· ≤ ·))[count]? = some last)
    (beyond : forall other, other ∈ unseen -> last ≤ other) :
    (all.insertionSort (· ≤ ·)).take (count + 1) = (seen.insertionSort (· ≤ ·)).take (count + 1) := by
  have inside := (List.getElem?_eq_some_iff.mp found).1
  have sorted := List.pairwise_insertionSort (· ≤ ·) seen
  have cut := List.take_append_drop (count + 1) (seen.insertionSort (· ≤ ·))
  have regrouped : all.Perm ((seen.insertionSort (· ≤ ·)).take (count + 1) ++
      ((seen.insertionSort (· ≤ ·)).drop (count + 1) ++ unseen)) := by
    rw [← List.append_assoc, cut]
    exact same.trans ((List.perm_insertionSort _ _).symm.append_right unseen)
  have front : ((seen.insertionSort (· ≤ ·)).take (count + 1)).insertionSort (· ≤ ·) =
      (seen.insertionSort (· ≤ ·)).take (count + 1) :=
    List.Pairwise.insertionSort_eq (sorted.sublist (List.take_sublist _ _))
  -- Nothing in the front is greater than its last element.
  have upTo : forall first, first ∈ (seen.insertionSort (· ≤ ·)).take (count + 1) -> first ≤ last := by
    intro first member
    rw [List.take_add_one, found, Option.toList_some] at member
    rcases List.mem_append.mp member with before | here
    · have order := sorted
      rw [← List.take_append_drop count (seen.insertionSort (· ≤ ·)), List.pairwise_append] at order
      refine order.2.2 first before last ?_
      rw [List.mem_iff_getElem?]
      exact ⟨0, by rw [List.getElem?_drop, Nat.add_zero, found]⟩
    · exact (List.mem_singleton.mp here).le
  rw [insertionSort_congr regrouped, insertionSort_append_of_le, front, List.take_append_of_le_length,
    List.take_take, Nat.min_self]
  · rw [List.length_take]
    omega
  · intro first member later behind
    rcases List.mem_append.mp behind with dropped | other
    · rw [← cut, List.pairwise_append] at sorted
      exact sorted.2.2 first member later dropped
    · exact (upTo first member).trans (beyond later other)

end BravoFinder
