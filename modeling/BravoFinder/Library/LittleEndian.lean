import Mathlib.Data.Nat.Basic
import Mathlib.Tactic.Ring

namespace BravoFinder

/-!
# Little-endian bytes

A number in a fixed count of bytes, least significant byte first.
-/

/-- The low `width` bytes of a number. -/
def leBytes : Nat -> Nat -> List UInt8
  | 0, _ => []
  | width + 1, value => UInt8.ofNat value :: leBytes width (value / 256)

/-- The number some bytes stand for. -/
def leNat : List UInt8 -> Nat
  | [] => 0
  | byte :: rest => byte.toNat + 256 * leNat rest

@[simp] theorem length_leBytes (width value : Nat) : (leBytes width value).length = width := by
  induction width generalizing value with
  | zero => rfl
  | succ width inductionHypothesis => rw [leBytes, List.length_cons, inductionHypothesis]

theorem leNat_lt (bytes : List UInt8) : leNat bytes < 256 ^ bytes.length := by
  induction bytes with
  | nil => exact Nat.one_pos
  | cons byte rest inductionHypothesis =>
      have bound := byte.toNat_lt
      rw [leNat, List.length_cons, Nat.pow_succ]
      omega

theorem leNat_leBytes (width value : Nat) : leNat (leBytes width value) = value % 256 ^ width := by
  induction width generalizing value with
  | zero => rw [leBytes, leNat, Nat.pow_zero, Nat.mod_one]
  | succ width inductionHypothesis =>
      have low : (UInt8.ofNat value).toNat = value % 256 := UInt8.toNat_ofNat'
      rw [leBytes, leNat, inductionHypothesis, low, Nat.pow_succ', Nat.mod_mul]

/-- A number that fits is read back. -/
theorem leNat_leBytes_of_lt {width value : Nat} (fits : value < 256 ^ width) :
    leNat (leBytes width value) = value := by
  rw [leNat_leBytes, Nat.mod_eq_of_lt fits]

/-- Bytes are what they stand for, written in as many bytes. -/
theorem leBytes_leNat (bytes : List UInt8) : leBytes bytes.length (leNat bytes) = bytes := by
  induction bytes with
  | nil => rfl
  | cons byte rest inductionHypothesis =>
      have bound := byte.toNat_lt
      have low : UInt8.ofNat (byte.toNat + 256 * leNat rest) = byte := by
        apply UInt8.toNat_inj.mp
        rw [UInt8.toNat_ofNat']
        omega
      have high : (byte.toNat + 256 * leNat rest) / 256 = leNat rest := by omega
      rw [List.length_cons, leNat, leBytes, low, high, inductionHypothesis]

/-- Only the low bytes are written. -/
theorem leBytes_mod (width value : Nat) : leBytes width (value % 256 ^ width) = leBytes width value := by
  have back := leBytes_leNat (leBytes width value)
  rw [length_leBytes, leNat_leBytes] at back
  exact back

theorem leNat_eq_zero {bytes : List UInt8} : leNat bytes = 0 ↔ forall byte, byte ∈ bytes -> byte = 0 := by
  induction bytes with
  | nil => exact ⟨fun _ _ member => absurd member List.not_mem_nil, fun _ => rfl⟩
  | cons first rest inductionHypothesis =>
      have low : first.toNat = 0 ↔ first = 0 := UInt8.toNat_inj (b := 0)
      rw [leNat, List.forall_mem_cons, ← low, ← inductionHypothesis]
      omega

/-- Records of one size. -/
theorem length_flatMap_of_eq {A B : Type} (values : List A) {record : A -> List B} {size : Nat}
    (each : forall value, value ∈ values -> (record value).length = size) :
    (values.flatMap record).length = values.length * size := by
  induction values with
  | nil => rw [List.flatMap_nil, List.length_nil, List.length_nil, Nat.zero_mul]
  | cons first rest inductionHypothesis =>
      rw [List.flatMap_cons, List.length_append, each first List.mem_cons_self, List.length_cons,
        inductionHypothesis fun value member => each value (List.mem_cons_of_mem _ member), Nat.succ_mul,
        Nat.add_comm]

end BravoFinder
