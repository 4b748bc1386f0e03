import BravoFinder.Core.Result
import BravoFinder.Library.StringBytes
import Mathlib.Data.List.TakeWhile
import Mathlib.Tactic.IntervalCases

namespace BravoFinder

/-!
# Decimal digits

A number is read back from the digits it is written with, so no two numbers are
written alike.
-/

/-- The number some digits stand for, after others. -/
def decimalValue (digits : Text) (value : Nat) : Nat :=
  digits.foldl (fun value c => value * 10 + (c.toNat - 48)) value

def AllDigits (digits : Text) : Prop :=
  forall c, c ∈ digits -> 48 ≤ c ∧ c ≤ 57

theorem decimal_of_lt {value : Nat} (single : value < 10) : decimal value = [UInt8.ofNat (48 + value)] := by
  interval_cases value <;> decide +kernel

/-- A last digit follows the others. -/
theorem decimal_append {value digit : Nat} (positive : 0 < value) (single : digit < 10) :
    decimal (10 * value + digit) = decimal value ++ decimal digit := by
  have spelled : forall value, decimal value = (Nat.toDigits 10 value).flatMap String.utf8EncodeChar :=
    fun value => toList_toUTF8 (Nat.toDigits 10 value)
  rw [spelled, spelled, spelled, ← Nat.toDigits_append_toDigits (by decide) positive single, List.flatMap_append]

theorem decimalValue_append (digits : Text) (c : UInt8) (value : Nat) :
    decimalValue (digits ++ [c]) value = decimalValue digits value * 10 + (c.toNat - 48) := by
  rw [decimalValue, List.foldl_append]
  rfl

theorem allDigits_decimal (value : Nat) : AllDigits (decimal value) := by
  intro c member
  rcases digit_of_mem_toString member with ⟨low, high⟩
  exact ⟨UInt8.le_iff_toNat_le.mpr low, UInt8.le_iff_toNat_le.mpr high⟩

/-- A number is read back from its digits. -/
theorem decimalValue_decimal (value : Nat) : decimalValue (decimal value) 0 = value := by
  induction value using Nat.strong_induction_on with
  | _ value inductionHypothesis =>
      by_cases single : value < 10
      · rw [decimal_of_lt single, decimalValue, List.foldl_cons, List.foldl_nil,
          UInt8.toNat_ofNat_of_lt' (by rw [UInt8.size]; omega)]
        omega
      · have split : 10 * (value / 10) + value % 10 = value := Nat.div_add_mod value 10
        have digit : value % 10 < 10 := Nat.mod_lt _ (by decide)
        have positive : 0 < value / 10 := by omega
        have written := decimal_append positive digit
        rw [split, decimal_of_lt digit] at written
        rw [written, decimalValue_append, inductionHypothesis (value / 10) (by omega),
          UInt8.toNat_ofNat_of_lt' (by rw [UInt8.size]; omega)]
        omega

theorem decimal_injective : Function.Injective decimal := by
  intro first second same
  rw [← decimalValue_decimal first, same, decimalValue_decimal second]

/-- Digits and a sign, which no control character is. -/
theorem printable_of_mem_toStringInt {value : Int} {c : UInt8} (member : c ∈ toStringInt value) : 45 ≤ c := by
  have digits : c ∈ decimal value.natAbs -> 45 ≤ c := fun digit =>
    UInt8.le_trans (show (45 : UInt8) ≤ 48 by decide) (allDigits_decimal value.natAbs c digit).1
  unfold toStringInt at member
  split_ifs at member
  · rcases List.mem_append.mp member with sign | digit
    · have minus : ofString "-" = [45] := by decide +kernel
      rw [minus, List.mem_singleton] at sign
      rw [sign]
      exact UInt8.le_refl 45
    · exact digits digit
  · exact digits member

theorem toStringInt_injective : Function.Injective toStringInt := by
  -- A sign is no digit.
  have signed : forall first second : Nat, ofString "-" ++ decimal first ≠ decimal second := by
    intro first second same
    have minus : ofString "-" = [45] := by decide +kernel
    have listed : (45 : UInt8) ∈ decimal second := by
      rw [← same, minus]
      exact List.mem_cons_self
    exact absurd (allDigits_decimal second 45 listed).1 (by decide)
  intro first second same
  unfold toStringInt at same
  split_ifs at same with negative negativeSecond negativeSecond
  · have digits := decimal_injective (List.append_cancel_left same)
    omega
  · exact absurd same (signed _ _)
  · exact absurd same.symm (signed _ _)
  · have digits := decimal_injective same
    omega

end BravoFinder
