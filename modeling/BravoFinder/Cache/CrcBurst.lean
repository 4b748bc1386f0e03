import BravoFinder.Cache.CifpCodec
import Mathlib.Data.List.Induction
import Mathlib.Data.Nat.Bitwise

namespace BravoFinder

/-!
# What a CRC covers

A CRC may be folded over pieces, which is how the directory of a CIFP section is
checked.  Damage within four consecutive bytes never goes unnoticed: the four
bytes fill the register, and none of its bits is lost before all are in.
-/

namespace Crc32C

/-! ## Bursts -/

/-- Registers that agree above their low `k` bytes. -/
def AgreeAbove (k : Nat) (c d : UInt32) : Prop :=
  c.toNat >>> (8 * k) = d.toNat >>> (8 * k)

theorem AgreeAbove.mono {k m : Nat} {c d : UInt32} (agree : AgreeAbove k c d) (le : k ≤ m) : AgreeAbove m c d := by
  have split : 8 * m = 8 * k + 8 * (m - k) := by omega
  rw [AgreeAbove, split, Nat.shiftRight_add, Nat.shiftRight_add]
  exact congrArg (· >>> (8 * (m - k))) agree

theorem toNat_step (c : UInt32) (b : UInt8) :
    (step c b).toNat = (kTable (c.toUInt8 ^^^ b)).toNat ^^^ c.toNat >>> 8 := by
  rw [step, UInt32.toUInt8_xor, UInt8.toUInt8_toUInt32, UInt32.toNat_xor, UInt32.toNat_shiftRight]
  rfl

/-- The top byte of a remainder is read through the byte above it. -/
theorem index_of_agreeAbove {k : Nat} (few : k ≤ 3) {c d : UInt32} {a b : UInt8}
    (agree : AgreeAbove k (step c a) (step d b)) : c.toUInt8 ^^^ a = d.toUInt8 ^^^ b := by
  have clear : forall state : UInt32, state.toNat >>> 8 >>> (8 * 3) = 0 := by
    intro state
    rw [← Nat.shiftRight_add, Nat.shiftRight_eq_div_pow]
    exact Nat.div_eq_of_lt state.toNat_lt
  have tops := agree.mono few
  rw [AgreeAbove, toNat_step, toNat_step, Nat.shiftRight_xor_distrib, Nat.shiftRight_xor_distrib, clear, clear,
    Nat.xor_zero, Nat.xor_zero] at tops
  refine kTable_top_inj (UInt32.toNat_inj.mp ?_)
  rw [UInt32.toNat_shiftRight, UInt32.toNat_shiftRight]
  exact tops

/-- One step back, the registers agree above one byte more. -/
theorem AgreeAbove.back {k : Nat} (few : k ≤ 3) {c d : UInt32} {a b : UInt8}
    (agree : AgreeAbove k (step c a) (step d b)) : AgreeAbove (k + 1) c d := by
  have index := index_of_agreeAbove few agree
  have split : 8 * (k + 1) = 8 + 8 * k := by omega
  rw [AgreeAbove, toNat_step, toNat_step, index, Nat.shiftRight_xor_distrib, Nat.shiftRight_xor_distrib] at agree
  rw [AgreeAbove, split, Nat.shiftRight_add, Nat.shiftRight_add]
  exact Nat.xor_right_injective agree

/-- Few bytes from one register are known from what they make of it. -/
theorem eq_of_agreeAbove (first : Text) :
    forall (second : Text) (k : Nat) (c : UInt32), first.length = second.length -> first.length + k ≤ 4 ->
      AgreeAbove k (first.foldl step c) (second.foldl step c) -> first = second := by
  induction first using List.reverseRecOn with
  | nil => exact fun second _ _ same _ _ => (List.length_eq_zero_iff.mp same.symm).symm
  | append_singleton front a inductionHypothesis =>
      intro second k c same few agree
      rw [List.length_append, List.length_singleton] at same few
      rcases List.eq_nil_or_concat' second with rfl | ⟨back, b, rfl⟩
      · exact absurd same (Nat.succ_ne_zero _)
      rw [List.length_append, List.length_singleton] at same
      rw [List.foldl_append, List.foldl_append, List.foldl_cons, List.foldl_cons, List.foldl_nil,
        List.foldl_nil] at agree
      have earlier := inductionHypothesis back (k + 1) c (Nat.succ.inj same) (by omega) (agree.back (by omega))
      subst earlier
      have index := index_of_agreeAbove (by omega) agree
      rw [(UInt8.xor_right_inj _).mp index]

/-- Strings of one length that differ only among the four bytes from `start` on. -/
structure DifferWithin (start : Nat) (first second : Text) : Prop where
  length : first.length = second.length
  outside : forall i, i < start ∨ start + 4 ≤ i -> first[i]? = second[i]?

/-- The four bytes of a burst, between what precedes and what follows them. -/
theorem DifferWithin.parts {start : Nat} {first second : Text} (differ : DifferWithin start first second) :
    first.take start = second.take start ∧ first.drop (start + 4) = second.drop (start + 4) := by
  constructor
  · refine List.ext_getElem? fun i => ?_
    rw [List.getElem?_take, List.getElem?_take]
    split_ifs with before
    · exact differ.outside i (Or.inl before)
    · rfl
  · refine List.ext_getElem? fun i => ?_
    rw [List.getElem?_drop, List.getElem?_drop]
    exact differ.outside _ (Or.inr (Nat.le_add_right _ _))

theorem split_burst (start : Nat) (data : Text) :
    data = data.take start ++ ((data.drop start).take 4 ++ data.drop (start + 4)) := by
  rw [← List.drop_drop, List.take_append_drop, List.take_append_drop]

/-- A burst changes the CRC, whatever was covered before. -/
theorem update_burst_ne {start : Nat} {first second : Text} (differ : DifferWithin start first second)
    (changed : first ≠ second) (crc : UInt32) : update crc first ≠ update crc second := by
  intro same
  refine changed ?_
  rcases differ.parts with ⟨front, back⟩
  have whole := (UInt32.xor_left_inj _).mp same
  rw [split_burst start first, split_burst start second, front, back] at whole ⊢
  rw [List.foldl_append, List.foldl_append, List.foldl_append, List.foldl_append] at whole
  have burst := faithful_step.foldl_inj _ whole
  have length : ((first.drop start).take 4).length = ((second.drop start).take 4).length := by
    rw [List.length_take, List.length_take, List.length_drop, List.length_drop, differ.length]
  have few : ((first.drop start).take 4).length + 0 ≤ 4 := by
    rw [List.length_take]
    omega
  rw [eq_of_agreeAbove _ _ 0 _ length few (congrArg (fun state : UInt32 => state.toNat >>> (8 * 0)) burst)]

end Crc32C

/-! ## What the reader relies on -/

/-- A CRC folded over pieces is that of the whole, so the CRC of a directory
read in two pieces is the one computed over its bytes, and no burst of four
bytes keeps a CRC. -/
theorem CifpCodec.crc_folds_and_detects :
    (forall (crc : UInt32) (front back : Text),
      Crc32C.update (Crc32C.update crc front) back = Crc32C.update crc (front ++ back)) ∧
    (forall (airportCount : UInt32) (body : Text),
      Crc32C.update (Crc32C.update 0 (body.take 4)) ((body.drop 4).take (airportCount.toNat * kDirEntrySize)) =
        Crc32C.compute (body.take (directoryPrefixLen airportCount))) ∧
    forall (start : Nat) (first second : Text), Crc32C.DifferWithin start first second -> first ≠ second ->
      Crc32C.compute first ≠ Crc32C.compute second := by
  refine ⟨Crc32C.update_append, fun airportCount body => ?_, fun _ _ _ differ changed =>
    Crc32C.update_burst_ne differ changed 0⟩
  rw [Crc32C.update_append, directoryPrefixLen, List.take_add]
  rfl

end BravoFinder
