import BravoFinder.Core.Domain
import BravoFinder.Library.Checksum

namespace BravoFinder

/-!
# CRC-32C

The table holds the remainders of the 256 bytes.  Dividing is linear, and the
remainders differ in their top byte, so a step of the checksum can be undone.
-/

namespace Crc32C

/-- The Castagnoli polynomial, reflected. -/
def kPoly : UInt32 := 0x82F63B78

/-- One bit of the division. -/
def divideBit (c : UInt32) : UInt32 :=
  if c &&& 1 ≠ 0 then kPoly ^^^ (c >>> 1) else c >>> 1

/-- The loop over `k`. -/
def divideBits : Nat -> UInt32 -> UInt32
  | 0, c => c
  | k + 1, c => divideBits k (divideBit c)

def kTable (i : UInt8) : UInt32 := divideBits 8 i.toUInt32

/-- One byte of `Update`. -/
def step (c : UInt32) (b : UInt8) : UInt32 :=
  kTable (c ^^^ b.toUInt32).toUInt8 ^^^ (c >>> 8)

def update (crc : UInt32) (data : Text) : UInt32 :=
  data.foldl step (crc ^^^ 0xFFFFFFFF) ^^^ 0xFFFFFFFF

def compute (data : Text) : UInt32 := update 0 data

theorem update_append (crc : UInt32) (front back : Text) :
    update (update crc front) back = update crc (front ++ back) := by
  unfold update
  rw [UInt32.xor_assoc, UInt32.xor_self, UInt32.xor_zero, List.foldl_append]

/-! ## Dividing is linear -/

theorem xor_and (c d mask : UInt32) : (c ^^^ d) &&& mask = (c &&& mask) ^^^ (d &&& mask) := by
  apply UInt32.toBitVec_inj.mp
  simp only [UInt32.toBitVec_and, UInt32.toBitVec_xor]
  ext i within
  simp only [BitVec.getElem_and, BitVec.getElem_xor]
  exact Bool.and_xor_distrib_right _ _ _

theorem and_one_cases (c : UInt32) : c &&& 1 = 0 ∨ c &&& 1 = 1 := by
  have low : (c &&& 1).toNat = c.toNat % 2 := by
    rw [UInt32.toNat_and]
    exact Nat.and_one_is_mod _
  apply (Nat.mod_two_eq_zero_or_one c.toNat).imp
  · intro even
    exact UInt32.toNat_inj.mp (low.trans even)
  · intro odd
    exact UInt32.toNat_inj.mp (low.trans odd)

theorem divideBit_xor (c d : UInt32) : divideBit (c ^^^ d) = divideBit c ^^^ divideBit d := by
  have cancels : forall x y : UInt32, kPoly ^^^ x ^^^ (kPoly ^^^ y) = x ^^^ y := by
    intro x y
    rw [UInt32.xor_comm kPoly x, UInt32.xor_assoc, ← UInt32.xor_assoc kPoly, UInt32.xor_self, UInt32.zero_xor]
  have one : (1 : UInt32) ≠ 0 := by decide
  unfold divideBit
  rw [xor_and, UInt32.shiftRight_xor]
  rcases and_one_cases c with evenC | oddC <;> rcases and_one_cases d with evenD | oddD
  · rw [evenC, evenD, UInt32.xor_self, if_neg (not_not_intro rfl)]
    rfl
  · rw [evenC, oddD, UInt32.zero_xor, if_pos one, if_neg (not_not_intro rfl), if_pos one, ← UInt32.xor_assoc,
      ← UInt32.xor_assoc, UInt32.xor_comm kPoly]
  · rw [oddC, evenD, UInt32.xor_zero, if_pos one, if_pos one, if_neg (not_not_intro rfl), UInt32.xor_assoc]
  · rw [oddC, oddD, UInt32.xor_self, if_neg (not_not_intro rfl), if_pos one, if_pos one, cancels]

theorem divideBits_xor (k : Nat) (c d : UInt32) :
    divideBits k (c ^^^ d) = divideBits k c ^^^ divideBits k d := by
  induction k generalizing c d with
  | zero => rfl
  | succ k inductionHypothesis => rw [divideBits, divideBit_xor, inductionHypothesis, divideBits, divideBits]

/-! ## A step can be undone -/

/-- Only the byte zero has a remainder whose top byte is clear. -/
theorem eq_zero_of_top : forall i : Fin 256, kTable (UInt8.ofFin i) >>> 24 = 0 -> i = 0 := by
  decide +kernel

/-- The top byte of a remainder names its byte. -/
theorem kTable_top_inj {i j : UInt8} (same : kTable i >>> 24 = kTable j >>> 24) : i = j := by
  have difference : kTable (i ^^^ j) >>> 24 = 0 := by
    unfold kTable at same ⊢
    rw [UInt8.toUInt32_xor, divideBits_xor, UInt32.shiftRight_xor, same, UInt32.xor_self]
  have zero := eq_zero_of_top (i ^^^ j).toFin difference
  exact UInt8.xor_eq_zero_iff.mp (UInt8.toFin_inj.mp zero)

theorem eq_of_parts {c d : UInt32} (low : c.toUInt8 = d.toUInt8) (high : c >>> 8 = d >>> 8) : c = d := by
  apply UInt32.toNat_inj.mp
  have lowNat := congrArg UInt8.toNat low
  have highNat := congrArg UInt32.toNat high
  simp only [UInt32.toNat_toUInt8, UInt32.toNat_shiftRight, Nat.shiftRight_eq_div_pow] at lowNat highNat
  change c.toNat / 256 = d.toNat / 256 at highNat
  omega

/-- Where two steps meet, the table was read at one place, and the states
agree above their low byte. -/
theorem step_meet {c d : UInt32} {a b : UInt8} (meet : step c a = step d b) :
    c.toUInt8 ^^^ a = d.toUInt8 ^^^ b ∧ c >>> 8 = d >>> 8 := by
  have clear : forall state : UInt32, state >>> 8 >>> 24 = 0 := by
    intro state
    apply UInt32.toNat_inj.mp
    have bound := state.toNat_lt
    simp only [UInt32.toNat_shiftRight, Nat.shiftRight_eq_div_pow]
    change state.toNat / 256 / 16777216 = 0
    omega
  have place : forall (state : UInt32) (byte : UInt8),
      (state ^^^ byte.toUInt32).toUInt8 = state.toUInt8 ^^^ byte := by
    intro state byte
    rw [UInt32.toUInt8_xor, UInt8.toUInt8_toUInt32]
  unfold step at meet
  rw [place, place] at meet
  have tops := congrArg (· >>> (24 : UInt32)) meet
  simp only [UInt32.shiftRight_xor, clear, UInt32.xor_zero] at tops
  have index := kTable_top_inj tops
  rw [index] at meet
  exact ⟨index, (UInt32.xor_right_inj _).mp meet⟩

theorem faithful_step : Checksum.Faithful step where
  state := by
    intro b c d meet
    rcases step_meet meet with ⟨low, high⟩
    exact eq_of_parts ((UInt8.xor_left_inj _).mp low) high
  symbol := by
    intro c a b meet
    exact (UInt8.xor_right_inj _).mp (step_meet meet).1

/-- One changed byte changes the CRC, whatever was covered before. -/
theorem update_set_ne (crc : UInt32) (data : Text) (index : Nat) (within : index < data.length) {byte : UInt8}
    (changed : data[index] ≠ byte) : update crc (data.set index byte) ≠ update crc data := by
  intro same
  exact faithful_step.foldl_set_ne data index within changed _ ((UInt32.xor_left_inj _).mp same)

/-- The check value of the polynomial. -/
example : compute (ofString "123456789") = 0xE3069283 := by decide +kernel

end Crc32C
end BravoFinder
