import Mathlib.Data.List.Basic

namespace BravoFinder

/-!
# Lists of parties

A system keeps its parties in a list, in the order they came.  A new one comes
last, and one that takes a step is replaced where it stands.
-/

section Updates

variable {Party : Type} {parties : List Party} {index : Nat} {party next : Party}

theorem getElem?_concat :
    (parties ++ [next])[index]? = some party ↔
      parties[index]? = some party ∨ index = parties.length ∧ next = party := by
  rcases Nat.lt_trichotomy index parties.length with before | rfl | beyond
  · rw [List.getElem?_append_left before]
    simp [Nat.ne_of_lt before]
  · simp
  · have outside : (parties ++ [next])[index]? = none :=
      List.getElem?_eq_none_iff.mpr (by rw [List.length_append]; exact beyond)
    simp [outside, Nat.ne_of_gt beyond, List.getElem?_eq_none_iff.mpr (Nat.le_of_lt beyond)]

theorem getElem?_set_of_found (found : parties[index]? = some party) (other : Nat) :
    (parties.set index next)[other]? = if index = other then some next else parties[other]? := by
  rw [List.getElem?_set]
  split
  · rw [if_pos (List.getElem?_eq_some_iff.mp found).1]
  · rfl

end Updates
end BravoFinder
