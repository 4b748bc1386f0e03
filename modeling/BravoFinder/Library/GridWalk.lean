import Mathlib.Algebra.Order.Floor.Ring
import Mathlib.Algebra.Order.Field.Basic
import Mathlib.Tactic.Linarith

namespace BravoFinder

/-!
# Walking a segment through a unit grid

A segment crosses the lines of a grid at increasing parameters, those of the
rows and those of the columns.  A walk that always steps over the line crossed
next merges the two sequences, and a tie has to go one way.  A place of the
merge is a number of rows and of columns crossed; the walk passes it exactly
when the merge can be cut there.
-/

/-! ## Merging two sequences of crossings -/

section Merge

variable {R : Type} [LinearOrder R] {rows cols : Nat -> R} {rowCount colCount : Nat}

/-- One step: a row while its line comes strictly first, else a column. -/
def mergeStep (rows cols : Nat -> R) (rowCount colCount : Nat) (place : Nat × Nat) : Nat × Nat :=
  if place.1 ≠ rowCount ∧ (place.2 = colCount ∨ rows place.1 < cols place.2) then (place.1 + 1, place.2)
  else (place.1, place.2 + 1)

/-- The places of a walk of some steps, the first included. -/
def mergePlaces (rows cols : Nat -> R) (rowCount colCount : Nat) : Nat -> Nat × Nat -> List (Nat × Nat)
  | 0, place => [place]
  | steps + 1, place =>
      place :: mergePlaces rows cols rowCount colCount steps (mergeStep rows cols rowCount colCount place)

/-- All that comes before a place is merged before all that comes after it. -/
structure MergeCut (rows cols : Nat -> R) (rowCount colCount : Nat) (place : Nat × Nat) : Prop where
  row_le : place.1 ≤ rowCount
  col_le : place.2 ≤ colCount
  row_before : forall k, k + 1 = place.1 -> place.2 < colCount -> rows k < cols place.2
  col_before : forall k, k + 1 = place.2 -> place.1 < rowCount -> cols k ≤ rows place.1

theorem mergeCut_start : MergeCut rows cols rowCount colCount (0, 0) :=
  ⟨Nat.zero_le _, Nat.zero_le _, nofun, nofun⟩

theorem MergeCut.step (rowsMono : Monotone rows) (colsMono : Monotone cols) {place : Nat × Nat}
    (cut : MergeCut rows cols rowCount colCount place) (more : place.1 + place.2 < rowCount + colCount) :
    MergeCut rows cols rowCount colCount (mergeStep rows cols rowCount colCount place) := by
  have rowLe := cut.row_le
  have colLe := cut.col_le
  rw [mergeStep]
  split
  · rename_i first
    refine ⟨by simp only; omega, colLe, fun k last inside => ?_, fun k last inside => ?_⟩
    · have same : k = place.1 := by simp only at last; omega
      exact same ▸ first.2.resolve_left (by simp only at inside; omega)
    · exact (cut.col_before k last (by simp only at inside; omega)).trans (rowsMono (Nat.le_succ _))
  · rename_i later
    rw [not_and, not_or, not_lt] at later
    refine ⟨rowLe, ?_, fun k last inside => ?_, fun k last inside => ?_⟩
    · by_cases rowsDone : place.1 = rowCount
      · simp only
        omega
      · have different := (later rowsDone).1
        simp only
        omega
    · refine (cut.row_before k last (by simp only at inside; omega)).trans_le (colsMono (Nat.le_succ _))
    · have same : k = place.2 := by simp only at last; omega
      exact same ▸ (later (by simp only at inside; omega)).2

theorem mergeStep_sum (rows cols : Nat -> R) (rowCount colCount : Nat) (place : Nat × Nat) :
    (mergeStep rows cols rowCount colCount place).1 + (mergeStep rows cols rowCount colCount place).2 =
      place.1 + place.2 + 1 := by
  rw [mergeStep]
  split
  · simp only
    omega
  · simp only
    omega

/-- A walk of all steps passes only cuts. -/
theorem mergeCut_of_mem (rowsMono : Monotone rows) (colsMono : Monotone cols) {steps : Nat} :
    forall {start place : Nat × Nat}, MergeCut rows cols rowCount colCount start ->
      start.1 + start.2 + steps = rowCount + colCount ->
      place ∈ mergePlaces rows cols rowCount colCount steps start ->
      MergeCut rows cols rowCount colCount place := by
  induction steps with
  | zero =>
      intro start place cut _ member
      rw [mergePlaces, List.mem_singleton] at member
      exact member ▸ cut
  | succ steps inductionHypothesis =>
      intro start place cut total member
      rcases List.mem_cons.mp member with same | later
      · exact same ▸ cut
      · have advanced := mergeStep_sum rows cols rowCount colCount start
        exact inductionHypothesis (cut.step rowsMono colsMono (by omega)) (by omega) later

/-- And it passes every cut. -/
theorem MergeCut.mem (rowsMono : Monotone rows) (colsMono : Monotone cols) {place : Nat × Nat}
    (cut : MergeCut rows cols rowCount colCount place) {steps : Nat} :
    forall {start : Nat × Nat}, start.1 ≤ place.1 -> start.2 ≤ place.2 ->
      place.1 + place.2 ≤ start.1 + start.2 + steps ->
      place ∈ mergePlaces rows cols rowCount colCount steps start := by
  have rowLe := cut.row_le
  have colLe := cut.col_le
  induction steps with
  | zero =>
      intro start rowsBefore colsBefore total
      rw [mergePlaces, List.mem_singleton]
      exact Prod.ext (by omega) (by omega)
  | succ steps inductionHypothesis =>
      intro start rowsBefore colsBefore total
      by_cases here : place = start
      · exact here ▸ List.mem_cons_self
      · have notBoth : ¬ (start.1 = place.1 ∧ start.2 = place.2) := fun same => here (Prod.ext same.1.symm same.2.symm)
        refine List.mem_cons_of_mem _ ?_
        have advanced := mergeStep_sum rows cols rowCount colCount start
        have within : (mergeStep rows cols rowCount colCount start).1 ≤ place.1 ∧
            (mergeStep rows cols rowCount colCount start).2 ≤ place.2 := by
          rw [mergeStep]
          split
          · rename_i first
            refine ⟨?_, colsBefore⟩
            by_contra beyond
            -- The rows of the place are done, so a column of it is still to come.
            have rowsDone : start.1 = place.1 := by simp only at beyond; omega
            have colsLeft : start.2 < place.2 := by omega
            have strictly := first.2.resolve_left (by omega)
            have order := cut.col_before (place.2 - 1) (by omega) (by omega)
            have mono := colsMono (Nat.le_sub_one_of_lt colsLeft)
            rw [rowsDone] at strictly
            exact absurd (strictly.trans_le mono) (not_lt.mpr order)
          · rename_i later
            refine ⟨rowsBefore, ?_⟩
            by_contra beyond
            have colsDone : start.2 = place.2 := by simp only at beyond; omega
            have rowsLeft : start.1 < place.1 := by omega
            rw [not_and, not_or, not_lt] at later
            have stays := later (by omega)
            have order := cut.row_before (place.1 - 1) (by omega) (by omega)
            have mono := rowsMono (Nat.le_sub_one_of_lt rowsLeft)
            rw [colsDone] at stays
            exact absurd (order.trans_le stays.2) (not_lt.mpr mono)
        exact inductionHypothesis within.1 within.2 (by omega)

end Merge

/-! ## One coordinate of a segment -/

/-- A coordinate that runs from `start` to `start + delta` as the parameter
runs from 0 to 1. -/
structure Axis (R : Type) where
  start : R
  delta : R

namespace Axis

variable {R : Type} [Field R] (axis : Axis R)

def along (t : R) : R :=
  axis.start + t * axis.delta

theorem along_zero : axis.along 0 = axis.start := by
  rw [along, zero_mul, add_zero]

theorem along_one : axis.along 1 = axis.start + axis.delta := by
  rw [along, one_mul]

variable [LinearOrder R] [FloorRing R]

/-- The direction in which lines are crossed. -/
def sign : Int :=
  if 0 < axis.delta then 1 else -1

/-- How many lines are crossed up to a parameter.  A cell owns its lower line,
so on the way down a line is crossed only behind it. -/
def index (t : R) : Nat :=
  (⌊axis.along t⌋ - ⌊axis.start⌋).natAbs

/-- How many lines are crossed in all. -/
def count : Nat :=
  (⌊axis.start + axis.delta⌋ - ⌊axis.start⌋).natAbs

/-- The parameter at which line `k` is reached. -/
def crossing (k : Nat) : R :=
  if 0 < axis.delta then (⌊axis.start⌋ + 1 + k - axis.start) / axis.delta
  else (axis.start - ⌊axis.start⌋ + k) / -axis.delta

variable {axis : Axis R}

theorem count_of_delta_eq_zero (still : axis.delta = 0) : axis.count = 0 := by
  rw [count, still, add_zero, sub_self, Int.natAbs_zero]

theorem index_one : axis.index 1 = axis.count := by
  rw [index, count, along_one]

variable [IsStrictOrderedRing R]

theorem crossing_le_iff_up (up : 0 < axis.delta) {k : Nat} {t : R} :
    axis.crossing k ≤ t ↔ (⌊axis.start⌋ : R) + 1 + k ≤ axis.along t := by
  rw [crossing, if_pos up, div_le_iff₀ up, along, sub_le_iff_le_add']

theorem le_crossing_iff_up (up : 0 < axis.delta) {k : Nat} {t : R} :
    t ≤ axis.crossing k ↔ axis.along t ≤ (⌊axis.start⌋ : R) + 1 + k := by
  rw [crossing, if_pos up, le_div_iff₀ up, along, le_sub_iff_add_le']

theorem crossing_le_iff_down (down : axis.delta < 0) {k : Nat} {t : R} :
    axis.crossing k ≤ t ↔ axis.along t ≤ (⌊axis.start⌋ : R) - k := by
  rw [crossing, if_neg down.not_gt, div_le_iff₀ (neg_pos.mpr down), along, mul_neg]
  constructor
  · intro order
    linarith
  · intro order
    linarith

theorem le_crossing_iff_down (down : axis.delta < 0) {k : Nat} {t : R} :
    t ≤ axis.crossing k ↔ (⌊axis.start⌋ : R) - k ≤ axis.along t := by
  rw [crossing, if_neg down.not_gt, le_div_iff₀ (neg_pos.mpr down), along, mul_neg]
  constructor
  · intro order
    linarith
  · intro order
    linarith

theorem along_crossing_up (up : 0 < axis.delta) (k : Nat) :
    axis.along (axis.crossing k) = (⌊axis.start⌋ : R) + 1 + k :=
  le_antisymm ((le_crossing_iff_up up).mp le_rfl) ((crossing_le_iff_up up).mp le_rfl)

theorem along_crossing_down (down : axis.delta < 0) (k : Nat) :
    axis.along (axis.crossing k) = (⌊axis.start⌋ : R) - k :=
  le_antisymm ((crossing_le_iff_down down).mp le_rfl) ((le_crossing_iff_down down).mp le_rfl)

theorem monotone_crossing : Monotone axis.crossing := by
  intro first second order
  have cast : (first : R) ≤ second := Nat.cast_le.mpr order
  rw [crossing, crossing]
  split
  · rename_i up
    exact div_le_div_of_nonneg_right (by linarith) up.le
  · rename_i down
    exact div_le_div_of_nonneg_right (by linarith) (neg_nonneg.mpr (not_lt.mp down))

theorem crossing_lt_succ (moves : axis.delta ≠ 0) (k : Nat) : axis.crossing k < axis.crossing (k + 1) := by
  rw [crossing, crossing, Nat.cast_succ]
  split
  · rename_i up
    exact div_lt_div_of_pos_right (by linarith) up
  · rename_i notUp
    have down := lt_of_le_of_ne (not_lt.mp notUp) moves
    exact div_lt_div_of_pos_right (by linarith) (neg_pos.mpr down)

/-- The cell of a point, counted from the first. -/
theorem floor_along {t : R} (nonneg : 0 ≤ t) : ⌊axis.along t⌋ = ⌊axis.start⌋ + axis.sign * axis.index t := by
  rw [sign, index]
  split
  · rename_i up
    have order : ⌊axis.start⌋ ≤ ⌊axis.along t⌋ :=
      Int.floor_le_floor (le_add_of_nonneg_right (mul_nonneg nonneg up.le))
    omega
  · rename_i notUp
    have order : ⌊axis.along t⌋ ≤ ⌊axis.start⌋ :=
      Int.floor_le_floor (add_le_of_nonpos_right (mul_nonpos_of_nonneg_of_nonpos nonneg (not_lt.mp notUp)))
    omega

theorem index_mono {first second : R} (nonneg : 0 ≤ first) (order : first ≤ second) :
    axis.index first ≤ axis.index second := by
  have firstCell := axis.floor_along nonneg
  have secondCell := axis.floor_along (nonneg.trans order)
  rw [sign] at firstCell secondCell
  split at firstCell
  · rename_i up
    have cells : ⌊axis.along first⌋ ≤ ⌊axis.along second⌋ :=
      Int.floor_le_floor (by rw [along, along]; linarith [mul_le_mul_of_nonneg_right order up.le])
    rw [if_pos up] at secondCell
    omega
  · rename_i notUp
    have cells : ⌊axis.along second⌋ ≤ ⌊axis.along first⌋ := by
      refine Int.floor_le_floor ?_
      have turned := mul_le_mul_of_nonneg_right order (neg_nonneg.mpr (not_lt.mp notUp))
      rw [along, along]
      linarith
    rw [if_neg notUp] at secondCell
    omega

theorem index_le_count {t : R} (nonneg : 0 ≤ t) (atMost : t ≤ 1) : axis.index t ≤ axis.count :=
  axis.index_one ▸ axis.index_mono nonneg atMost

/-- The last line crossed lies before a point, and behind it on the way down. -/
theorem crossing_before {t : R} (nonneg : 0 ≤ t) {k : Nat} (last : k + 1 = axis.index t) :
    axis.crossing k ≤ t ∧ (axis.delta < 0 -> axis.crossing k < t) := by
  have cell := axis.floor_along nonneg
  have floorLe := Int.floor_le (axis.along t)
  have ltFloor := Int.lt_floor_add_one (axis.along t)
  rw [cell, sign, ← last] at floorLe ltFloor
  rcases lt_trichotomy axis.delta 0 with down | still | up
  · rw [if_neg down.not_gt] at ltFloor
    push_cast at ltFloor
    have strictly : axis.crossing k < t := by
      rw [← not_le, le_crossing_iff_down down, not_le]
      linarith
    exact ⟨strictly.le, fun _ => strictly⟩
  · rw [index, along, still, mul_zero, add_zero, sub_self] at last
    cases last
  · rw [if_pos up] at floorLe
    push_cast at floorLe
    refine ⟨?_, fun down => absurd up down.not_gt⟩
    rw [crossing_le_iff_up up]
    linarith

/-- The next line comes after a point, and strictly after it on the way up. -/
theorem crossing_after {t : R} (nonneg : 0 ≤ t) (more : axis.index t < axis.count) :
    t ≤ axis.crossing (axis.index t) ∧ (0 < axis.delta -> t < axis.crossing (axis.index t)) := by
  have cell := axis.floor_along nonneg
  have floorLe := Int.floor_le (axis.along t)
  have ltFloor := Int.lt_floor_add_one (axis.along t)
  rw [cell, sign] at floorLe ltFloor
  rcases lt_trichotomy axis.delta 0 with down | still | up
  · rw [if_neg down.not_gt] at floorLe
    push_cast at floorLe
    refine ⟨?_, fun up => absurd up down.not_gt⟩
    rw [le_crossing_iff_down down]
    linarith
  · rw [count_of_delta_eq_zero still] at more
    exact absurd more (Nat.not_lt_zero _)
  · rw [if_pos up] at ltFloor
    push_cast at ltFloor
    have strictly : t < axis.crossing (axis.index t) := by
      rw [← not_le, crossing_le_iff_up up, not_le]
      linarith
    exact ⟨strictly.le, fun _ => strictly⟩

/-- Between two lines a point lies in the closed cell between them. -/
theorem mem_closed_cell {t : R} (nonneg : 0 ≤ t) (atMost : t ≤ 1) {k : Nat} (within : k ≤ axis.count)
    (before : forall last, last + 1 = k -> axis.crossing last ≤ t) (after : k < axis.count -> t ≤ axis.crossing k) :
    ((⌊axis.start⌋ + axis.sign * k : Int) : R) ≤ axis.along t ∧
      axis.along t ≤ ((⌊axis.start⌋ + axis.sign * k : Int) : R) + 1 := by
  have startLe := Int.floor_le axis.start
  have ltStart := Int.lt_floor_add_one axis.start
  have ends := axis.floor_along (zero_le_one (α := R))
  have endLe := Int.floor_le (axis.along 1)
  have ltEnd := Int.lt_floor_add_one (axis.along 1)
  rw [ends, index_one, along_one] at endLe ltEnd
  rw [sign] at endLe ltEnd ⊢
  rcases lt_trichotomy axis.delta 0 with down | still | up
  · rw [if_neg down.not_gt] at endLe ltEnd ⊢
    push_cast at endLe ltEnd ⊢
    have scaled := mul_le_mul_of_nonneg_right atMost (neg_nonneg.mpr down.le)
    have scaled0 := mul_nonneg nonneg (neg_nonneg.mpr down.le)
    constructor
    · rcases Nat.lt_or_eq_of_le within with more | whole
      · have reached := (le_crossing_iff_down down).mp (after more)
        linarith
      · rw [whole, along]
        linarith
    · cases k with
      | zero =>
          rw [along]
          push_cast
          linarith
      | succ last =>
          have passed := (crossing_le_iff_down down).mp (before last rfl)
          push_cast
          linarith
  · have none : k = 0 := by
      rw [count_of_delta_eq_zero still] at within
      omega
    rw [none, along, still, mul_zero, add_zero]
    push_cast
    constructor
    · linarith
    · linarith
  · rw [if_pos up] at endLe ltEnd ⊢
    push_cast at endLe ltEnd ⊢
    have scaled := mul_le_mul_of_nonneg_right atMost up.le
    have scaled0 := mul_nonneg nonneg up.le
    constructor
    · cases k with
      | zero =>
          rw [along]
          push_cast
          linarith
      | succ last =>
          have passed := (crossing_le_iff_up up).mp (before last rfl)
          push_cast
          linarith
    · rcases Nat.lt_or_eq_of_le within with more | whole
      · have reached := (le_crossing_iff_up up).mp (after more)
        linarith
      · rw [whole, along]
        linarith

/-- A line that is crossed is crossed on the segment. -/
theorem crossing_mem {k : Nat} (crossed : k < axis.count) : 0 ≤ axis.crossing k ∧ axis.crossing k ≤ 1 := by
  have startLe := Int.floor_le axis.start
  have ltStart := Int.lt_floor_add_one axis.start
  have ends := axis.floor_along (zero_le_one (α := R))
  have endLe := Int.floor_le (axis.along 1)
  have ltEnd := Int.lt_floor_add_one (axis.along 1)
  rw [ends, index_one] at endLe ltEnd
  rw [sign] at endLe ltEnd
  have more : (k : R) + 1 ≤ axis.count := by exact_mod_cast crossed
  have nonneg : (0 : R) ≤ k := Nat.cast_nonneg k
  rcases lt_trichotomy axis.delta 0 with down | still | up
  · rw [if_neg down.not_gt] at ltEnd
    push_cast at ltEnd
    refine ⟨?_, ?_⟩
    · rw [le_crossing_iff_down down, along_zero]
      linarith
    · rw [crossing_le_iff_down down]
      linarith
  · rw [count_of_delta_eq_zero still] at crossed
    exact absurd crossed (Nat.not_lt_zero _)
  · rw [if_pos up] at endLe
    push_cast at endLe
    refine ⟨?_, ?_⟩
    · rw [le_crossing_iff_up up, along_zero]
      linarith
    · rw [crossing_le_iff_up up]
      linarith

omit [IsStrictOrderedRing R] in
theorem index_zero_param : axis.index 0 = 0 := by
  rw [index, along_zero, sub_self, Int.natAbs_zero]

/-- The parameter at which a cell is entered. -/
def entered (axis : Axis R) : Nat -> R
  | 0 => 0
  | k + 1 => axis.crossing k

theorem entered_mem {k : Nat} (within : k ≤ axis.count) : 0 ≤ axis.entered k ∧ axis.entered k ≤ 1 := by
  cases k with
  | zero => exact ⟨le_rfl, zero_le_one⟩
  | succ k => exact axis.crossing_mem within

theorem entered_le_crossing {k : Nat} (more : k < axis.count) : axis.entered k ≤ axis.crossing k := by
  cases k with
  | zero => exact (axis.crossing_mem more).1
  | succ k => exact axis.monotone_crossing (Nat.le_succ k)

/-- The parameter at which a cell is left, the end for the last. -/
def left (axis : Axis R) (k : Nat) : R :=
  if k < axis.count then axis.crossing k else 1

theorem left_le_one (k : Nat) : axis.left k ≤ 1 := by
  rw [left]
  split
  · rename_i more
    exact (axis.crossing_mem more).2
  · exact le_rfl

/-- Strictly between the lines of a cell, on the way up. -/
theorem between_lines_up (up : 0 < axis.delta) {k : Nat} (within : k ≤ axis.count) {t : R} (after : axis.entered k < t)
    (before : t < axis.left k) :
    (⌊axis.start⌋ : R) + k < axis.along t ∧ axis.along t < (⌊axis.start⌋ : R) + k + 1 := by
  constructor
  · cases k with
    | zero =>
        have moved := mul_pos after up
        have startLe := Int.floor_le axis.start
        rw [along]
        push_cast
        linarith
    | succ k =>
        have passed := lt_of_not_ge fun order => after.not_ge ((le_crossing_iff_up up).mpr order)
        push_cast
        linarith
  · rw [left] at before
    split_ifs at before with more
    · have ahead := lt_of_not_ge fun order => before.not_ge ((crossing_le_iff_up up).mpr order)
      linarith
    · have ends := axis.floor_along (zero_le_one (α := R))
      have ltEnd := Int.lt_floor_add_one (axis.along 1)
      rw [ends, index_one, sign, if_pos up] at ltEnd
      have moved := mul_lt_mul_of_pos_right before up
      rw [along] at ltEnd ⊢
      push_cast at ltEnd
      rw [Nat.le_antisymm within (not_lt.mp more)]
      linarith

/-- And on the way down. -/
theorem between_lines_down (down : axis.delta < 0) {k : Nat} (within : k ≤ axis.count) {t : R}
    (after : axis.entered k < t) (before : t < axis.left k) :
    (⌊axis.start⌋ : R) - k < axis.along t ∧ axis.along t < (⌊axis.start⌋ : R) - k + 1 := by
  constructor
  · rw [left] at before
    split_ifs at before with more
    · exact lt_of_not_ge fun order => before.not_ge ((crossing_le_iff_down down).mpr order)
    · have ends := axis.floor_along (zero_le_one (α := R))
      have endLe := Int.floor_le (axis.along 1)
      rw [ends, index_one, sign, if_neg down.not_gt] at endLe
      have moved := mul_lt_mul_of_neg_right before down
      rw [along] at endLe ⊢
      push_cast at endLe
      rw [Nat.le_antisymm within (not_lt.mp more)]
      linarith
  · cases k with
    | zero =>
        have moved := mul_neg_of_pos_of_neg after down
        have ltStart := Int.lt_floor_add_one axis.start
        rw [along]
        push_cast
        linarith
    | succ k =>
        have passed := lt_of_not_ge fun order => after.not_ge ((le_crossing_iff_down down).mpr order)
        push_cast
        linarith

theorem crossing_pos_up (up : 0 < axis.delta) (k : Nat) : 0 < axis.crossing k := by
  rw [← not_le, crossing_le_iff_up up, along_zero, not_le]
  have ltStart := Int.lt_floor_add_one axis.start
  have nonneg : (0 : R) ≤ k := Nat.cast_nonneg k
  linarith

/-- A line crossed on the way down lies before the end, whose cell owns its lower line. -/
theorem crossing_lt_one_down (down : axis.delta < 0) {k : Nat} (crossed : k < axis.count) : axis.crossing k < 1 := by
  rw [← not_le, le_crossing_iff_down down]
  intro order
  have ends := axis.floor_along (zero_le_one (α := R))
  rw [index_one, sign, if_neg down.not_gt] at ends
  have line : ((⌊axis.start⌋ - k : Int) : R) ≤ axis.along 1 := by exact_mod_cast order
  have below := Int.le_floor.mpr line
  omega

/-- A cell is left after it is entered, on the way up. -/
theorem entered_lt_left_up (up : 0 < axis.delta) {k : Nat} (more : k < axis.count) : axis.entered k < axis.left k := by
  rw [left, if_pos more]
  cases k with
  | zero => exact crossing_pos_up up 0
  | succ k => exact axis.crossing_lt_succ up.ne' k

theorem entered_lt_one_down (down : axis.delta < 0) {k : Nat} (within : k ≤ axis.count) : axis.entered k < 1 := by
  cases k with
  | zero => exact zero_lt_one
  | succ k => exact crossing_lt_one_down down within

/-- On the way up, a point on a line lies as many lines above the first cell as
were crossed. -/
theorem index_of_line_up (up : 0 < axis.delta) {t : R} (started : 0 < t) {row : Int} (onLine : axis.along t = row) :
    exists k, k + 1 = axis.index t ∧ row = ⌊axis.start⌋ + (k + 1 : Nat) ∧ axis.crossing k = t := by
  have cell := axis.floor_along started.le
  rw [onLine, Int.floor_intCast, sign, if_pos up, Int.one_mul] at cell
  have above : axis.start < row := by
    rw [← onLine, along]
    exact lt_add_of_pos_right _ (mul_pos started up)
  have less : ⌊axis.start⌋ < row := by exact_mod_cast (Int.floor_le axis.start).trans_lt above
  refine ⟨axis.index t - 1, by omega, by omega, le_antisymm ?_ ?_⟩
  · rw [crossing_le_iff_up up, onLine]
    have reached : ⌊axis.start⌋ + 1 + ((axis.index t - 1 : Nat) : Int) ≤ row := by omega
    exact_mod_cast reached
  · rw [le_crossing_iff_up up, onLine]
    have reached : row ≤ ⌊axis.start⌋ + 1 + ((axis.index t - 1 : Nat) : Int) := by omega
    exact_mod_cast reached

/-- On the way down, likewise below it, the line itself not yet counted; and lines
are left before the end. -/
theorem index_of_line_down (down : axis.delta < 0) {t : R} (started : 0 ≤ t) (unfinished : t < 1) {col : Int}
    (onLine : axis.along t = col) :
    col = ⌊axis.start⌋ - axis.index t ∧ axis.index t < axis.count ∧ axis.crossing (axis.index t) = t := by
  have cell := axis.floor_along started
  rw [onLine, Int.floor_intCast, sign, if_neg down.not_gt, Int.neg_one_mul] at cell
  have ends := axis.floor_along (zero_le_one (α := R))
  rw [index_one, sign, if_neg down.not_gt, Int.neg_one_mul] at ends
  have below : axis.along 1 < col := by
    rw [← onLine, along, along]
    linarith [mul_lt_mul_of_neg_right unfinished down]
  have less : ⌊axis.along 1⌋ < col := Int.floor_lt.mpr below
  refine ⟨by omega, by omega, le_antisymm ?_ ?_⟩
  · rw [crossing_le_iff_down down, onLine]
    have reached : col ≤ ⌊axis.start⌋ - (axis.index t : Int) := by omega
    exact_mod_cast reached
  · rw [le_crossing_iff_down down, onLine]
    have reached : ⌊axis.start⌋ - (axis.index t : Int) ≤ col := by omega
    exact_mod_cast reached

end Axis

/-! ## A segment -/

section Segment

variable {R : Type} [Field R] [LinearOrder R] [FloorRing R] [IsStrictOrderedRing R] {rowAxis colAxis : Axis R}

/-- The walk passes the cell of every point, except where the segment runs up
the rows and down the columns exactly through a corner, which the cell above
and to the right of it owns. -/
theorem mergeCut_index {t : R} (nonneg : 0 ≤ t) (atMost : t ≤ 1)
    (clear : 0 < rowAxis.delta -> colAxis.delta < 0 -> 0 < t -> t < 1 ->
      ¬ exists row col : Int, rowAxis.along t = row ∧ colAxis.along t = col) :
    MergeCut rowAxis.crossing colAxis.crossing rowAxis.count colAxis.count
      (rowAxis.index t, colAxis.index t) where
  row_le := rowAxis.index_le_count nonneg atMost
  col_le := colAxis.index_le_count nonneg atMost
  row_before := by
    intro k last more
    have before := rowAxis.crossing_before nonneg last
    have after := colAxis.crossing_after nonneg more
    refine lt_of_le_of_ne (before.1.trans after.1) fun tie => ?_
    have rowHere : rowAxis.crossing k = t := le_antisymm before.1 (tie ▸ after.1)
    have colHere : colAxis.crossing (colAxis.index t) = t := tie ▸ rowHere
    have up : 0 < rowAxis.delta := by
      rcases lt_trichotomy rowAxis.delta 0 with down | still | up
      · exact absurd rowHere (before.2 down).ne
      · have none := Axis.count_of_delta_eq_zero still
        have within := rowAxis.index_le_count nonneg atMost
        omega
      · exact up
    have down : colAxis.delta < 0 := by
      rcases lt_trichotomy colAxis.delta 0 with down | still | up
      · exact down
      · rw [Axis.count_of_delta_eq_zero still] at more
        exact absurd more (Nat.not_lt_zero _)
      · exact absurd colHere (after.2 up).ne'
    have started : 0 < t := by
      refine lt_of_le_of_ne nonneg fun zero => ?_
      rw [← zero, Axis.index_zero_param] at last
      cases last
    have unfinished : t < 1 := by
      refine lt_of_le_of_ne atMost fun one => ?_
      have finished : colAxis.index 1 < colAxis.count := one ▸ more
      rw [Axis.index_one] at finished
      exact Nat.lt_irrefl _ finished
    refine clear up down started unfinished ⟨⌊rowAxis.start⌋ + 1 + k, ⌊colAxis.start⌋ - colAxis.index t, ?_, ?_⟩
    · rw [← rowHere, Axis.along_crossing_up up]
      push_cast
      rfl
    · conv_lhs => rw [← colHere]
      rw [Axis.along_crossing_down down]
      push_cast
      rfl
  col_before := by
    intro k last more
    exact (colAxis.crossing_before nonneg last).1.trans (rowAxis.crossing_after nonneg more).1

/-- The segment meets the closed cell of every place the walk passes. -/
theorem MergeCut.meets {place : Nat × Nat}
    (cut : MergeCut rowAxis.crossing colAxis.crossing rowAxis.count colAxis.count place) :
    exists t, (0 ≤ t ∧ t ≤ 1) ∧
      (((⌊rowAxis.start⌋ + rowAxis.sign * place.1 : Int) : R) ≤ rowAxis.along t ∧
        rowAxis.along t ≤ ((⌊rowAxis.start⌋ + rowAxis.sign * place.1 : Int) : R) + 1) ∧
      (((⌊colAxis.start⌋ + colAxis.sign * place.2 : Int) : R) ≤ colAxis.along t ∧
        colAxis.along t ≤ ((⌊colAxis.start⌋ + colAxis.sign * place.2 : Int) : R) + 1) := by
  have rowIn := rowAxis.entered_mem cut.row_le
  have colIn := colAxis.entered_mem cut.col_le
  have nonneg : 0 ≤ max (rowAxis.entered place.1) (colAxis.entered place.2) := rowIn.1.trans (le_max_left _ _)
  have atMost : max (rowAxis.entered place.1) (colAxis.entered place.2) ≤ 1 := max_le rowIn.2 colIn.2
  refine ⟨_, ⟨nonneg, atMost⟩, ?_, ?_⟩
  · refine rowAxis.mem_closed_cell nonneg atMost cut.row_le (fun last isLast => ?_) fun more => ?_
    · rw [← isLast]
      exact le_max_left _ _
    · refine max_le (rowAxis.entered_le_crossing more) ?_
      cases col : place.2 with
      | zero => exact (rowAxis.crossing_mem more).1
      | succ k => exact cut.col_before k col.symm more
  · refine colAxis.mem_closed_cell nonneg atMost cut.col_le (fun last isLast => ?_) fun more => ?_
    · rw [← isLast]
      exact le_max_right _ _
    · refine max_le ?_ (colAxis.entered_le_crossing more)
      cases row : place.1 with
      | zero => exact (colAxis.crossing_mem more).1
      | succ k => exact (cut.row_before k row.symm more).le

/-- The segment passes exactly through a corner of the grid, inside it. -/
def AtCorner (rowAxis colAxis : Axis R) (t : R) : Prop :=
  (0 < t ∧ t < 1) ∧ exists row col : Int, rowAxis.along t = row ∧ colAxis.along t = col

/-- Where a segment runs up the rows and down the columns through a corner, the
walk passes the cell below and to the left of it. -/
theorem mergeCut_corner (up : 0 < rowAxis.delta) (down : colAxis.delta < 0) {t : R} (started : 0 < t)
    (unfinished : t < 1) {row col : Int} (onRow : rowAxis.along t = row) (onCol : colAxis.along t = col) :
    exists place, MergeCut rowAxis.crossing colAxis.crossing rowAxis.count colAxis.count place ∧
      ⌊rowAxis.start⌋ + rowAxis.sign * place.1 = row - 1 ∧ ⌊colAxis.start⌋ + colAxis.sign * place.2 = col - 1 := by
  rcases Axis.index_of_line_up up started onRow with ⟨k, last, rowIs, rowCrossing⟩
  rcases Axis.index_of_line_down down started.le unfinished onCol with ⟨colIs, colsLeft, colCrossing⟩
  have rowsWithin := rowAxis.index_le_count started.le unfinished.le
  refine ⟨(k, colAxis.index t + 1), ⟨by simp only; omega, colsLeft, ?_, ?_⟩, ?_, ?_⟩
  · intro before isBefore _
    simp only at isBefore
    calc rowAxis.crossing before < rowAxis.crossing (before + 1) := Axis.crossing_lt_succ up.ne' before
      _ = t := by rw [isBefore, rowCrossing]
      _ = colAxis.crossing (colAxis.index t) := colCrossing.symm
      _ ≤ colAxis.crossing (colAxis.index t + 1) := colAxis.monotone_crossing (Nat.le_succ _)
  · intro before isBefore _
    rw [Nat.succ.inj isBefore, colCrossing, rowCrossing]
  · rw [Axis.sign, if_pos up]
    simp only
    omega
  · rw [Axis.sign, if_neg down.not_gt]
    simp only
    push_cast
    omega

/-- Where the last row is entered only at the end of the segment, the walk is over. -/
theorem MergeCut.counts_of_entered_one (up : 0 < rowAxis.delta) {place : Nat × Nat}
    (cut : MergeCut rowAxis.crossing colAxis.crossing rowAxis.count colAxis.count place)
    (atEnd : rowAxis.entered place.1 = 1) : place.1 = rowAxis.count ∧ place.2 = colAxis.count := by
  constructor
  · by_contra more
    have leaves := Axis.entered_lt_left_up up (lt_of_le_of_ne cut.row_le more)
    exact absurd (leaves.trans_le (rowAxis.left_le_one _)) (atEnd ▸ lt_irrefl _)
  · by_contra more
    have moreCols := lt_of_le_of_ne cut.col_le more
    cases rows : place.1 with
    | zero =>
        rw [rows] at atEnd
        exact absurd atEnd zero_ne_one
    | succ k =>
        rw [rows] at atEnd
        have first := cut.row_before k rows.symm moreCols
        exact absurd (first.trans_le (colAxis.crossing_mem moreCols).2) (atEnd ▸ lt_irrefl _)

/-- Where a column is left at the start of the segment, the walk has not begun. -/
theorem MergeCut.eq_zero_of_crossing_zero (up : 0 < rowAxis.delta) (down : colAxis.delta < 0) {place : Nat × Nat}
    (cut : MergeCut rowAxis.crossing colAxis.crossing rowAxis.count colAxis.count place)
    (more : place.2 < colAxis.count) (atStart : colAxis.crossing place.2 = 0) : place.1 = 0 ∧ place.2 = 0 := by
  constructor
  · cases rows : place.1 with
    | zero => rfl
    | succ k =>
        have first := cut.row_before k rows.symm more
        rw [atStart] at first
        exact absurd first (Axis.crossing_pos_up up k).not_gt
  · by_contra some
    have first := (colAxis.crossing_lt_succ down.ne 0).trans_le
      (colAxis.monotone_crossing (Nat.one_le_iff_ne_zero.mpr some))
    have nonneg := (colAxis.crossing_mem (Nat.zero_lt_of_lt more)).1
    rw [atStart] at first
    exact absurd first (not_lt.mpr nonneg)

/-- Elsewhere a row and a column are left after both are entered, unless the last
column was entered where the row is left. -/
theorem MergeCut.entered_lt_left (up : 0 < rowAxis.delta) (down : colAxis.delta < 0) {place : Nat × Nat}
    (cut : MergeCut rowAxis.crossing colAxis.crossing rowAxis.count colAxis.count place)
    (apart : forall k, k + 1 = place.2 -> place.1 < rowAxis.count ->
      colAxis.crossing k ≠ rowAxis.crossing place.1)
    (unfinished : rowAxis.entered place.1 ≠ 1)
    (begun : place.2 < colAxis.count -> colAxis.crossing place.2 ≠ 0) :
    max (rowAxis.entered place.1) (colAxis.entered place.2) <
      min (rowAxis.left place.1) (colAxis.left place.2) := by
  have rowIn := rowAxis.entered_mem cut.row_le
  have rowRow : rowAxis.entered place.1 < rowAxis.left place.1 := by
    by_cases more : place.1 < rowAxis.count
    · exact Axis.entered_lt_left_up up more
    · rw [Axis.left, if_neg more]
      exact lt_of_le_of_ne rowIn.2 unfinished
  have colRow : colAxis.entered place.2 < rowAxis.left place.1 := by
    rw [Axis.left]
    split
    · rename_i more
      cases cols : place.2 with
      | zero => exact Axis.crossing_pos_up up _
      | succ k => exact lt_of_le_of_ne (cut.col_before k cols.symm more) (apart k cols.symm more)
    · exact Axis.entered_lt_one_down down cut.col_le
  have rowCol : rowAxis.entered place.1 < colAxis.left place.2 := by
    rw [Axis.left]
    split
    · rename_i more
      cases rows : place.1 with
      | zero => exact lt_of_le_of_ne (colAxis.crossing_mem more).1 (begun more).symm
      | succ k => exact cut.row_before k rows.symm more
    · exact lt_of_le_of_ne rowIn.2 unfinished
  have colCol : colAxis.entered place.2 < colAxis.left place.2 := by
    rw [Axis.left]
    split
    · rename_i more
      cases cols : place.2 with
      | zero =>
          rw [cols] at begun more
          exact lt_of_le_of_ne (colAxis.crossing_mem more).1 (begun more).symm
      | succ k => exact colAxis.crossing_lt_succ down.ne k
    · exact Axis.entered_lt_one_down down cut.col_le
  exact max_lt (lt_min rowRow rowCol) (lt_min colRow colCol)

/-- Between entering and leaving, the segment lies in the cell and on none of its lines. -/
theorem MergeCut.cell_of_between (up : 0 < rowAxis.delta) (down : colAxis.delta < 0) {place : Nat × Nat}
    (cut : MergeCut rowAxis.crossing colAxis.crossing rowAxis.count colAxis.count place) {t : R}
    (after : max (rowAxis.entered place.1) (colAxis.entered place.2) < t)
    (before : t < min (rowAxis.left place.1) (colAxis.left place.2)) :
    ⌊rowAxis.along t⌋ = ⌊rowAxis.start⌋ + rowAxis.sign * place.1 ∧
      ⌊colAxis.along t⌋ = ⌊colAxis.start⌋ + colAxis.sign * place.2 ∧ ¬ AtCorner rowAxis colAxis t := by
  rw [max_lt_iff] at after
  rw [lt_min_iff] at before
  have rowLines := Axis.between_lines_up up cut.row_le after.1 before.1
  have colLines := Axis.between_lines_down down cut.col_le after.2 before.2
  have rowCell : ⌊rowAxis.along t⌋ = ⌊rowAxis.start⌋ + place.1 := by
    rw [Int.floor_eq_iff]
    push_cast
    exact ⟨rowLines.1.le, rowLines.2⟩
  have colCell : ⌊colAxis.along t⌋ = ⌊colAxis.start⌋ - place.2 := by
    rw [Int.floor_eq_iff]
    push_cast
    exact ⟨colLines.1.le, colLines.2⟩
  refine ⟨?_, ?_, ?_⟩
  · rw [rowCell, Axis.sign, if_pos up, Int.one_mul]
  · rw [colCell, Axis.sign, if_neg down.not_gt, Int.neg_one_mul, Int.sub_eq_add_neg]
  · rintro ⟨_, row, _, onRow, _⟩
    rw [onRow, Int.floor_intCast] at rowCell
    rw [onRow, rowCell] at rowLines
    push_cast at rowLines
    exact absurd rowLines.1 (lt_irrefl _)

/-- A cell that such a walk passes has a point of the segment that is at no corner,
or lies below and to the left of a corner. -/
theorem MergeCut.point_or_corner (up : 0 < rowAxis.delta) (down : colAxis.delta < 0) {place : Nat × Nat}
    (cut : MergeCut rowAxis.crossing colAxis.crossing rowAxis.count colAxis.count place) :
    (exists t, (0 ≤ t ∧ t ≤ 1) ∧ ⌊rowAxis.along t⌋ = ⌊rowAxis.start⌋ + rowAxis.sign * place.1 ∧
        ⌊colAxis.along t⌋ = ⌊colAxis.start⌋ + colAxis.sign * place.2 ∧ ¬ AtCorner rowAxis colAxis t) ∨
      exists t, (0 < t ∧ t < 1) ∧
        rowAxis.along t = ((⌊rowAxis.start⌋ + rowAxis.sign * place.1 + 1 : Int) : R) ∧
          colAxis.along t = ((⌊colAxis.start⌋ + colAxis.sign * place.2 + 1 : Int) : R) := by
  by_cases corner : exists k, k + 1 = place.2 ∧ place.1 < rowAxis.count ∧
      colAxis.crossing k = rowAxis.crossing place.1
  · rcases corner with ⟨k, last, more, tie⟩
    refine .inr ⟨rowAxis.crossing place.1, ⟨Axis.crossing_pos_up up _, ?_⟩, ?_, ?_⟩
    · rw [← tie]
      have crossed : k < colAxis.count := by
        have within := cut.col_le
        omega
      exact Axis.crossing_lt_one_down down crossed
    · rw [Axis.along_crossing_up up, Axis.sign, if_pos up]
      push_cast
      linarith
    · rw [← tie, Axis.along_crossing_down down, Axis.sign, if_neg down.not_gt, ← last]
      push_cast
      linarith
  left
  -- The ends of the segment are at no corner inside it.
  by_cases atEnd : rowAxis.entered place.1 = 1
  · rcases cut.counts_of_entered_one up atEnd with ⟨rowsDone, colsDone⟩
    refine ⟨1, ⟨zero_le_one, le_rfl⟩, ?_, ?_, fun inside => absurd inside.1.2 (lt_irrefl _)⟩
    · rw [Axis.floor_along zero_le_one, Axis.index_one, rowsDone]
    · rw [Axis.floor_along zero_le_one, Axis.index_one, colsDone]
  by_cases atStart : place.2 < colAxis.count ∧ colAxis.crossing place.2 = 0
  · rcases cut.eq_zero_of_crossing_zero up down atStart.1 atStart.2 with ⟨noRows, noCols⟩
    refine ⟨0, ⟨le_rfl, zero_le_one⟩, ?_, ?_, fun inside => absurd inside.1.1 (lt_irrefl _)⟩
    · rw [Axis.floor_along le_rfl, Axis.index_zero_param, noRows]
    · rw [Axis.floor_along le_rfl, Axis.index_zero_param, noCols]
  have apart := cut.entered_lt_left up down (fun k last more tie => corner ⟨k, last, more, tie⟩) atEnd
    fun more zero => atStart ⟨more, zero⟩
  rcases exists_between apart with ⟨t, after, before⟩
  have started := (rowAxis.entered_mem cut.row_le).1.trans ((le_max_left _ _).trans after.le)
  have ended := before.le.trans ((min_le_left _ _).trans (rowAxis.left_le_one _))
  exact ⟨t, ⟨started, ended⟩, cut.cell_of_between up down after before⟩

end Segment

end BravoFinder
