import Mathlib.Data.List.Range
import Mathlib.Algebra.Ring.Nat

namespace BravoFinder

/-!
# Scanning the bits of a word

`bits &= bits - 1` clears the lowest set bit, so the loop that takes the lowest
bit and clears it until nothing is left visits the set bits in ascending order.
-/

variable {w : Nat} {A : Type}

/-- A word with a bit set is an odd number shifted by its trailing zeroes. -/
theorem toNat_eq_of_ctz {bits : BitVec w} (some : bits ≠ 0#w) :
    exists half, bits.toNat = 2 ^ bits.ctz.toNat * (2 * half + 1) := by
  have low : bits.toNat % 2 ^ bits.ctz.toNat = 0 := by
    refine Nat.eq_of_testBit_eq fun index => ?_
    rw [Nat.testBit_mod_two_pow, Nat.zero_testBit]
    by_cases below : index < bits.ctz.toNat
    · have clear := BitVec.getLsbD_false_of_lt_ctz below
      rw [BitVec.getLsbD] at clear
      rw [clear, Bool.and_false]
    · rw [decide_eq_false below, Bool.false_and]
  have top : bits.toNat.testBit bits.ctz.toNat = true := BitVec.getLsbD_true_ctz_of_ne_zero some
  rw [Nat.testBit_eq_decide_div_mod_eq, decide_eq_true_eq] at top
  refine ⟨bits.toNat / 2 ^ bits.ctz.toNat / 2, ?_⟩
  have whole := Nat.div_add_mod bits.toNat (2 ^ bits.ctz.toNat)
  have odd := Nat.div_add_mod (bits.toNat / 2 ^ bits.ctz.toNat) 2
  rw [top] at odd
  rw [odd]
  omega

theorem toNat_sub_one {bits : BitVec w} (some : bits ≠ 0#w) : (bits - 1).toNat = bits.toNat - 1 := by
  have positive : 0 < bits.toNat := by
    rw [Nat.pos_iff_ne_zero]
    exact fun zero => some (BitVec.eq_of_toNat_eq zero)
  have bound := bits.isLt
  have wide : 1 < 2 ^ w := Nat.lt_of_le_of_lt positive bound
  have one : (1 : BitVec w).toNat = 1 := by
    rw [BitVec.ofNat_eq_ofNat, BitVec.toNat_ofNat, Nat.mod_eq_of_lt wide]
  rw [BitVec.toNat_sub_of_le (by rw [BitVec.le_def, one]; exact positive), one]

/-- The lowest set bit is the only one that goes. -/
theorem getLsbD_and_sub_one {bits : BitVec w} (some : bits ≠ 0#w) (index : Nat) :
    (bits &&& (bits - 1)).getLsbD index = (bits.getLsbD index && decide (index ≠ bits.ctz.toNat)) := by
  rcases toNat_eq_of_ctz some with ⟨half, shifted⟩
  have positive : 1 ≤ 2 ^ bits.ctz.toNat := Nat.one_le_two_pow
  have before : bits.toNat = 2 ^ bits.ctz.toNat * (2 * half + 1) + 0 := shifted
  have after : bits.toNat - 1 = 2 ^ bits.ctz.toNat * (2 * half) + (2 ^ bits.ctz.toNat - 1) := by
    rw [shifted, Nat.mul_add, Nat.mul_one]
    omega
  rw [BitVec.getLsbD_and, BitVec.getLsbD, BitVec.getLsbD, toNat_sub_one some, after,
    Nat.testBit_two_pow_mul_add _ (by omega), before,
    Nat.testBit_two_pow_mul_add _ (Nat.two_pow_pos _)]
  rcases Nat.lt_trichotomy index bits.ctz.toNat with below | same | above
  · rw [if_pos below, Nat.zero_testBit, Bool.false_and, Bool.false_and]
  · have even : (2 * half).testBit 0 = false := by
      rw [Nat.testBit_zero, Nat.mul_mod_right]
      rfl
    rw [if_neg (by omega), if_neg (by omega), decide_eq_false (not_not.mpr same), same, Nat.sub_self, even,
      Bool.and_false]
  · rcases Nat.exists_eq_add_of_lt above with ⟨gap, rfl⟩
    rw [if_neg (by omega), if_neg (by omega), decide_eq_true (by omega), Bool.and_true]
    have step : bits.ctz.toNat + gap + 1 - bits.ctz.toNat = gap + 1 := by omega
    rw [step, Nat.testBit_succ, Nat.testBit_succ]
    have even : 2 * half / 2 = half := by omega
    have odd : (2 * half + 1) / 2 = half := by omega
    rw [even, odd, Bool.and_self]

/-- The set bits of a word, in ascending order. -/
def setBits (bits : BitVec w) : List Nat :=
  (List.range w).filter bits.getLsbD

theorem setBits_zero : setBits 0#w = [] := by
  rw [setBits, List.filter_eq_nil_iff]
  intro index _
  rw [BitVec.getLsbD_zero]
  exact Bool.false_ne_true

theorem ctz_lt {bits : BitVec w} (some : bits ≠ 0#w) : bits.ctz.toNat < w :=
  BitVec.lt_of_getLsbD (BitVec.getLsbD_true_ctz_of_ne_zero some)

/-- Clearing the lowest set bit takes the head off the list. -/
theorem setBits_of_ne_zero {bits : BitVec w} (some : bits ≠ 0#w) :
    setBits bits = bits.ctz.toNat :: setBits (bits &&& (bits - 1)) := by
  have inside := ctz_lt some
  have cut : List.range w = List.range bits.ctz.toNat ++
      bits.ctz.toNat :: List.range' (bits.ctz.toNat + 1) (w - bits.ctz.toNat - 1) := by
    have sizes : bits.ctz.toNat + (w - bits.ctz.toNat - 1 + 1) = w := by omega
    have joined := List.range'_append_1 (s := 0) (m := bits.ctz.toNat) (n := w - bits.ctz.toNat - 1 + 1)
    rw [Nat.zero_add, sizes] at joined
    rw [List.range_eq_range', List.range_eq_range', ← List.range'_succ, joined]
  have below : forall word : BitVec w, (forall index, index < bits.ctz.toNat -> word.getLsbD index = false) ->
      (List.range bits.ctz.toNat).filter word.getLsbD = [] := by
    intro word clear
    rw [List.filter_eq_nil_iff]
    intro index member
    rw [clear index (List.mem_range.mp member)]
    exact Bool.false_ne_true
  have above : (List.range' (bits.ctz.toNat + 1) (w - bits.ctz.toNat - 1)).filter
        (bits &&& (bits - 1)).getLsbD =
      (List.range' (bits.ctz.toNat + 1) (w - bits.ctz.toNat - 1)).filter bits.getLsbD := by
    refine List.filter_congr fun index member => ?_
    have later := (List.mem_range'_1.mp member).1
    rw [getLsbD_and_sub_one some, decide_eq_true (by omega), Bool.and_true]
  rw [setBits, setBits, cut, List.filter_append, List.filter_append,
    below bits fun index less => BitVec.getLsbD_false_of_lt_ctz less,
    below (bits &&& (bits - 1)) fun index less => by
      rw [getLsbD_and_sub_one some, BitVec.getLsbD_false_of_lt_ctz less, Bool.false_and],
    List.nil_append, List.nil_append, List.filter_cons_of_pos (BitVec.getLsbD_true_ctz_of_ne_zero some),
    List.filter_cons_of_neg, above]
  rw [getLsbD_and_sub_one some, decide_eq_false (not_not.mpr rfl), Bool.and_false]
  exact Bool.false_ne_true

theorem toNat_and_sub_one_lt {bits : BitVec w} (some : bits ≠ 0#w) :
    (bits &&& (bits - 1)).toNat < bits.toNat := by
  have positive : 0 < bits.toNat := by
    rw [Nat.pos_iff_ne_zero]
    exact fun zero => some (BitVec.eq_of_toNat_eq zero)
  have within : (bits &&& (bits - 1)).toNat ≤ (bits - 1).toNat := by
    rw [BitVec.toNat_and]
    exact Nat.and_le_right
  rw [toNat_sub_one some] at within
  omega

/-- The loop: each lowest set bit goes to `step`, and is cleared. -/
def scanBits (step : A -> Nat -> A) (bits : BitVec w) (found : A) : A :=
  if none : bits = 0#w then found
  else scanBits step (bits &&& (bits - 1)) (step found bits.ctz.toNat)
termination_by bits.toNat
decreasing_by exact toNat_and_sub_one_lt none

theorem scanBits_eq_foldl (step : A -> Nat -> A) (bits : BitVec w) (found : A) :
    scanBits step bits found = (setBits bits).foldl step found := by
  fun_induction scanBits step bits found with
  | case1 found => rw [setBits_zero, List.foldl_nil]
  | case2 bits found some inductionHypothesis =>
      rw [inductionHypothesis, setBits_of_ne_zero some, List.foldl_cons]

end BravoFinder
