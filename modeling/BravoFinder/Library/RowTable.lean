import Mathlib.Data.List.Basic

namespace BravoFinder

/-!
# Rows stored end to end

A list of rows is stored as one list of entries and the list of offsets at which
the rows start, with the end of the last row after them.  The slice between two
neighbouring offsets is the row again.
-/

namespace RowTable

variable {A : Type}

/-- Where the rows start when the first starts at `start`, and where the last ends. -/
def offsets : List (List A) -> Nat -> List Nat
  | [], start => [start]
  | row :: rest, start => start :: offsets rest (start + row.length)

theorem length_offsets (rows : List (List A)) (start : Nat) : (offsets rows start).length = rows.length + 1 := by
  induction rows generalizing start with
  | nil => rfl
  | cons row rest inductionHypothesis => rw [offsets, List.length_cons, inductionHypothesis, List.length_cons]

theorem head?_offsets (rows : List (List A)) (start : Nat) : (offsets rows start).head? = some start := by
  cases rows <;> rfl

theorem getLast?_offsets (rows : List (List A)) (start : Nat) :
    (offsets rows start).getLast? = some (start + rows.flatten.length) := by
  induction rows generalizing start with
  | nil => rfl
  | cons row rest inductionHypothesis =>
      rw [offsets, List.getLast?_cons, inductionHypothesis, List.flatten_cons, List.length_append, ← Nat.add_assoc]
      rfl

/-- The offsets lie between the start and the end. -/
theorem bounds_of_mem_offsets {rows : List (List A)} {start offset : Nat} (member : offset ∈ offsets rows start) :
    start ≤ offset ∧ offset ≤ start + rows.flatten.length := by
  induction rows generalizing start with
  | nil =>
      rw [List.mem_singleton.mp member]
      exact ⟨Nat.le_refl _, Nat.le_add_right _ _⟩
  | cons row rest inductionHypothesis =>
      rw [List.flatten_cons, List.length_append]
      rcases List.mem_cons.mp member with rfl | later
      · exact ⟨Nat.le_refl _, Nat.le_add_right _ _⟩
      · rcases inductionHypothesis later with ⟨above, below⟩
        exact ⟨by omega, by omega⟩

theorem pairwise_offsets (rows : List (List A)) (start : Nat) : (offsets rows start).Pairwise (· ≤ ·) := by
  induction rows generalizing start with
  | nil => exact List.pairwise_singleton _ _
  | cons row rest inductionHypothesis =>
      refine List.pairwise_cons.mpr ⟨fun offset member => ?_, inductionHypothesis _⟩
      have above := (bounds_of_mem_offsets member).1
      omega

theorem getD_offsets {rows : List (List A)} {row : Nat} (inside : row ≤ rows.length) (start : Nat) :
    (offsets rows start).getD row 0 = start + (rows.take row).flatten.length := by
  induction rows generalizing row start with
  | nil =>
      rw [List.length_nil, Nat.le_zero] at inside
      subst inside
      rfl
  | cons first rest inductionHypothesis =>
      rcases row with _ | row
      · rfl
      · rw [offsets, List.getD_cons_succ, inductionHypothesis (Nat.le_of_succ_le_succ inside), List.take_succ_cons,
          List.flatten_cons, List.length_append, Nat.add_assoc]

/-- The slice between neighbouring offsets is the row. -/
theorem slice_flatten {rows : List (List A)} {row : Nat} (inside : row < rows.length) :
    (rows.flatten.take ((offsets rows 0).getD (row + 1) 0)).drop ((offsets rows 0).getD row 0) = rows.getD row [] := by
  rw [getD_offsets inside, getD_offsets (Nat.le_of_lt inside), Nat.zero_add, Nat.zero_add]
  have whole : rows.flatten = (rows.take (row + 1)).flatten ++ (rows.drop (row + 1)).flatten := by
    rw [← List.flatten_append, List.take_append_drop]
  have next : (rows.take (row + 1)).flatten = (rows.take row).flatten ++ rows.getD row [] := by
    rw [List.take_add_one, List.getElem?_eq_getElem inside, Option.toList_some, List.flatten_append,
      List.flatten_singleton, List.getD_eq_getElem?_getD, List.getElem?_eq_getElem inside, Option.getD_some]
  rw [whole, List.take_left, next, List.drop_left]

end RowTable
end BravoFinder
