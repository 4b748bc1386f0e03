import BravoFinder.Library.SortedIndex

namespace BravoFinder

/-!
# Binary search

`lower_bound` halves the range it searches.  On entries of which those below the
bound come first it finds where the others begin, which is what reading from the
front would find.
-/

namespace BinarySearch

variable {V : Type}

/-- The loop of `lower_bound` over the `len` entries from `first` on. -/
def lowerBoundFrom (below : V -> Bool) (entries : List V) (first len : Nat) : Nat :=
  if len = 0 then first
  else
    let half := len / 2
    let middle := first + half
    if (entries[middle]?).any below then lowerBoundFrom below entries (middle + 1) (len - half - 1)
    else lowerBoundFrom below entries first half
termination_by len

/-- `lower_bound`: where the entries that are not below begin. -/
def lowerBound (below : V -> Bool) (entries : List V) : Nat :=
  lowerBoundFrom below entries 0 entries.length

/-- Nothing below the bound comes after something that is not. -/
def Partitioned (below : V -> Bool) (entries : List V) : Prop :=
  entries.Pairwise fun first second => below second = true -> below first = true

/-- In a partitioned range the entries below are those before a position. -/
theorem any_getElem?_iff {below : V -> Bool} {entries : List V} (partitioned : Partitioned below entries)
    {index : Nat} : (entries[index]?).any below = true ↔ index < (entries.takeWhile below).length := by
  induction entries generalizing index with
  | nil => exact iff_of_false Bool.false_ne_true (Nat.not_lt_zero _)
  | cons entry rest inductionHypothesis =>
      rcases List.pairwise_cons.mp partitioned with ⟨above, others⟩
      cases holds : below entry with
      | true =>
          rw [List.takeWhile_cons_of_pos holds, List.length_cons]
          cases index with
          | zero => exact iff_of_true holds (Nat.succ_pos _)
          | succ index =>
              rw [List.getElem?_cons_succ, inductionHypothesis others]
              exact Nat.succ_lt_succ_iff.symm
      | false =>
          rw [List.takeWhile_cons_of_neg (by rw [holds]; exact Bool.false_ne_true)]
          refine iff_of_false ?_ (Nat.not_lt_zero _)
          cases index with
          | zero => exact fun found => Bool.false_ne_true (holds.symm.trans found)
          | succ index =>
              intro found
              rw [List.getElem?_cons_succ] at found
              rcases (Option.any_eq_true _ _).mp found with ⟨second, here, isBelow⟩
              exact Bool.false_ne_true (holds.symm.trans (above second (List.mem_of_getElem? here) isBelow))

/-- The halving keeps the boundary in the range. -/
theorem lowerBoundFrom_eq {below : V -> Bool} {entries : List V} (partitioned : Partitioned below entries)
    {first len : Nat} (notBefore : first ≤ (entries.takeWhile below).length)
    (notBehind : (entries.takeWhile below).length ≤ first + len) :
    lowerBoundFrom below entries first len = (entries.takeWhile below).length := by
  induction len using Nat.strong_induction_on generalizing first with
  | _ len inductionHypothesis =>
      unfold lowerBoundFrom
      split_ifs with none
      · omega
      · dsimp only
        have middle : (entries[first + len / 2]?).any below = true ↔
            first + len / 2 < (entries.takeWhile below).length :=
          any_getElem?_iff partitioned
        split_ifs with isBelow
        · have inside := middle.mp isBelow
          exact inductionHypothesis (len - len / 2 - 1) (by omega) inside (by omega)
        · have outside := Nat.not_lt.mp fun inside => isBelow (middle.mpr inside)
          exact inductionHypothesis (len / 2) (by omega) notBefore outside

theorem lowerBound_eq {below : V -> Bool} {entries : List V} (partitioned : Partitioned below entries) :
    lowerBound below entries = (entries.takeWhile below).length :=
  lowerBoundFrom_eq partitioned (Nat.zero_le _) (by
    rw [Nat.zero_add]
    exact (List.takeWhile_sublist below).length_le)

/-- What is read from there on is what reading from the front would skip to. -/
theorem drop_lowerBound {below : V -> Bool} {entries : List V} (partitioned : Partitioned below entries) :
    entries.drop (lowerBound below entries) = entries.dropWhile below := by
  rw [lowerBound_eq partitioned]
  induction entries with
  | nil => rfl
  | cons entry rest inductionHypothesis =>
      cases holds : below entry with
      | true =>
          rw [List.takeWhile_cons_of_pos holds, List.dropWhile_cons_of_pos holds, List.length_cons,
            List.drop_succ_cons]
          exact inductionHypothesis (List.pairwise_cons.mp partitioned).2
      | false =>
          rw [List.takeWhile_cons_of_neg (by rw [holds]; exact Bool.false_ne_true),
            List.dropWhile_cons_of_neg (by rw [holds]; exact Bool.false_ne_true)]
          rfl

/-- What comes before the boundary is what reading from the front would take. -/
theorem take_lowerBound {below : V -> Bool} {entries : List V} (partitioned : Partitioned below entries) :
    entries.take (lowerBound below entries) = entries.takeWhile below := by
  rw [lowerBound_eq partitioned]
  exact (List.prefix_iff_eq_take.mp (List.takeWhile_prefix below)).symm

/-- Nothing below the bound is left behind it. -/
theorem not_below_of_mem_dropWhile {below : V -> Bool} {entries : List V} (partitioned : Partitioned below entries)
    {entry : V} (member : entry ∈ entries.dropWhile below) : below entry = false := by
  induction entries with
  | nil => cases member
  | cons first rest inductionHypothesis =>
      rcases List.pairwise_cons.mp partitioned with ⟨above, others⟩
      cases holds : below first with
      | true =>
          rw [List.dropWhile_cons_of_pos holds] at member
          exact inductionHypothesis others member
      | false =>
          rw [List.dropWhile_cons_of_neg (by rw [holds]; exact Bool.false_ne_true)] at member
          rcases List.mem_cons.mp member with rfl | later
          · exact holds
          · exact Bool.eq_false_iff.mpr fun isBelow => Bool.false_ne_true (holds.symm.trans (above entry later isBelow))

/-- A range sorted by key is partitioned by each key. -/
theorem partitioned_of_sorted {K : Type} {key : V -> K} {before : K -> K -> Prop} [DecidableRel before]
    [IsStrictTotalOrder K before] {entries : List V} (sorted : SortedIndex.Sorted key before entries) (wanted : K) :
    Partitioned (fun entry => decide (before (key entry) wanted)) entries := by
  refine sorted.imp fun {first second} apart isBelow => ?_
  rw [decide_eq_true_iff] at isBelow ⊢
  by_contra away
  by_cases back : before wanted (key first)
  · exact apart (IsTrans.trans _ _ _ isBelow back)
  · exact apart (SortedIndex.eq_of_not_before away back ▸ isBelow)

end BinarySearch
end BravoFinder
