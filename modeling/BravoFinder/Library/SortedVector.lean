import Mathlib.Data.List.Sort
import Mathlib.Data.List.Dedup

namespace BravoFinder

/-!
# Sorted vectors as sets

A vector built by `sort` followed by `unique` and then only read through
`binary_search` is a finite set.  The sortedness that `binary_search` needs is
a field, so a vector that is not sorted cannot be searched by mistake.
-/

/-- An ascending vector. -/
structure SortedVector (A : Type) [LinearOrder A] where
  elems : List A
  sorted : elems.Pairwise (· ≤ ·)

namespace SortedVector

variable {A : Type} [LinearOrder A]

/-- `sort` followed by `erase(unique(..))`. -/
def ofList (values : List A) : SortedVector A where
  elems := (values.insertionSort (· ≤ ·)).dedup
  sorted := (List.pairwise_insertionSort (· ≤ ·) values).sublist (List.dedup_sublist _)

/-- `binary_search` on an ascending range decides membership. -/
def binarySearch (vector : SortedVector A) (value : A) : Bool :=
  decide (value ∈ vector.elems)

@[simp] theorem binarySearch_eq_true (vector : SortedVector A) (value : A) :
    vector.binarySearch value = true ↔ value ∈ vector.elems := by
  simp only [binarySearch, decide_eq_true_eq]

@[simp] theorem mem_ofList (values : List A) (value : A) :
    value ∈ (ofList values).elems ↔ value ∈ values := by
  simp only [ofList, List.mem_dedup, List.mem_insertionSort]

/-- The vector depends only on which values are listed. -/
theorem ofList_congr {first second : List A}
    (same : forall value, value ∈ first ↔ value ∈ second) : ofList first = ofList second := by
  have elemsPerm : (ofList first).elems.Perm (ofList second).elems := by
    apply (List.perm_ext_iff_of_nodup (List.nodup_dedup _) (List.nodup_dedup _)).mpr
    intro value
    exact (mem_ofList first value).trans ((same value).trans (mem_ofList second value).symm)
  have equal : (ofList first).elems = (ofList second).elems :=
    elemsPerm.eq_of_pairwise (fun _ _ _ _ => le_antisymm) (ofList first).sorted (ofList second).sorted
  cases firstVector : ofList first
  cases secondVector : ofList second
  simp only [firstVector, secondVector] at equal
  simp only [equal]

end SortedVector
end BravoFinder
