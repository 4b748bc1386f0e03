import BravoFinder.Core.FixedString
import Mathlib.Data.Prod.Basic

namespace BravoFinder

/-!
# Identifiers as they are stored

A stored text is an array of characters as long as the cap, and a length byte.
Two of them are compared over their common length by `memcmp` and then by
length, which is the order of the texts themselves.  `FixedIdent` and
`FixedName8` are what such a value means.
-/

/-- `std::memcmp` over `count` bytes, of which only the sign counts. -/
def memcmp : List UInt8 -> List UInt8 -> Nat -> Int
  | _, _, 0 => 0
  | a :: as, b :: bs, count + 1 => if a = b then memcmp as bs count else if a < b then -1 else 1
  | _, _, _ + 1 => 0

/-- An array of `cap` characters with the number of them in use. -/
structure PackedText (cap : Nat) where
  payload : List UInt8
  len : UInt8
  payload_length : payload.length = cap
  len_le : len.toNat ≤ cap

namespace PackedText

variable {cap : Nat}

/-- `View`. -/
def view (packed : PackedText cap) : Text := packed.payload.take packed.len.toNat

/-- `operator==`. -/
def equal (first second : PackedText cap) : Bool :=
  first.len == second.len && memcmp first.payload second.payload first.len.toNat == 0

/-- `operator<`: the common length, and then the lengths. -/
def less (first second : PackedText cap) : Bool :=
  let c := memcmp first.payload second.payload (min first.len.toNat second.len.toNat)
  if c ≠ 0 then decide (c < 0) else decide (first.len < second.len)

theorem narrow_seven : 7 < 256 := by decide

theorem narrow_three : 3 < 256 := by decide

/-- The copy of a text that fits into a value of zeros. -/
def pack (s : Text) (fits : s.length ≤ cap) (narrow : cap < 256) : PackedText cap where
  payload := s ++ List.replicate (cap - s.length) 0
  len := UInt8.ofNat s.length
  payload_length := by rw [List.length_append, List.length_replicate, Nat.add_sub_cancel' fits]
  len_le := by
    rw [UInt8.toNat_ofNat_of_lt' (by rw [UInt8.size]; omega)]
    exact fits

theorem view_pack (s : Text) (fits : s.length ≤ cap) (narrow : cap < 256) : (pack s fits narrow).view = s := by
  have length : (pack s fits narrow).len.toNat = s.length :=
    UInt8.toNat_ofNat_of_lt' (by rw [UInt8.size]; omega)
  rw [view, length]
  exact List.take_left

theorem length_view_le (packed : PackedText cap) : packed.view.length ≤ cap :=
  Nat.le_trans (List.length_take_le _ _) packed.len_le

theorem length_view (packed : PackedText cap) : packed.view.length = packed.len.toNat := by
  have bound := packed.len_le
  rw [view, List.length_take, packed.payload_length]
  omega

end PackedText

/-! ## The comparison is that of the texts -/

@[simp] theorem memcmp_zero (as bs : List UInt8) : memcmp as bs 0 = 0 := by
  unfold memcmp
  rfl

/-- Bytes that compare as the same are the same. -/
theorem memcmp_eq_zero {as bs : List UInt8} {count : Nat} (left : count ≤ as.length) (right : count ≤ bs.length) :
    memcmp as bs count = 0 ↔ as.take count = bs.take count := by
  induction count generalizing as bs with
  | zero =>
      rw [List.take_zero, List.take_zero]
      exact iff_of_true (memcmp_zero as bs) rfl
  | succ count inductionHypothesis =>
      cases as with
      | nil => exact absurd left (Nat.not_succ_le_zero _)
      | cons a as =>
          cases bs with
          | nil => exact absurd right (Nat.not_succ_le_zero _)
          | cons b bs =>
              rw [memcmp, List.take_succ_cons, List.take_succ_cons, List.cons.injEq]
              by_cases same : a = b
              · rw [if_pos same, and_iff_right same]
                exact inductionHypothesis (Nat.le_of_succ_le_succ left) (Nat.le_of_succ_le_succ right)
              · rw [if_neg same]
                refine iff_of_false ?_ fun both => same both.1
                split_ifs <;> decide

/-- The common length first and the lengths after that: the order of the texts. -/
theorem memcmp_less {as bs : List UInt8} {m n : Nat} (left : m ≤ as.length) (right : n ≤ bs.length) :
    (if memcmp as bs (min m n) ≠ 0 then memcmp as bs (min m n) < 0 else m < n) ↔ as.take m < bs.take n := by
  induction m generalizing as bs n with
  | zero =>
      rw [Nat.zero_min, memcmp_zero, if_neg (not_not.mpr rfl), List.take_zero]
      cases n with
      | zero => exact iff_of_false (Nat.lt_irrefl 0) (List.lt_irrefl [])
      | succ n =>
          cases bs with
          | nil => exact absurd right (Nat.not_succ_le_zero _)
          | cons b bs => exact iff_of_true (Nat.succ_pos n) (List.nil_lt_cons _ _)
  | succ m inductionHypothesis =>
      cases as with
      | nil => exact absurd left (Nat.not_succ_le_zero _)
      | cons a as =>
          cases n with
          | zero =>
              rw [Nat.min_zero, memcmp_zero, if_neg (not_not.mpr rfl), List.take_zero]
              exact iff_of_false (Nat.not_lt_zero _) (List.not_lt_nil _)
          | succ n =>
              cases bs with
              | nil => exact absurd right (Nat.not_succ_le_zero _)
              | cons b bs =>
                  rw [Nat.succ_min_succ, memcmp, List.take_succ_cons, List.take_succ_cons, List.cons_lt_cons_iff,
                    Nat.succ_lt_succ_iff,
                    ← inductionHypothesis (Nat.le_of_succ_le_succ left) (Nat.le_of_succ_le_succ right)]
                  by_cases same : a = b
                  · rw [if_pos same, or_iff_right (same ▸ UInt8.lt_irrefl a), and_iff_right same]
                  · rw [if_neg same]
                    by_cases less : a < b
                    · rw [if_pos less, if_pos (by decide)]
                      exact iff_of_true (by decide) (Or.inl less)
                    · rw [if_neg less, if_pos (by decide)]
                      exact iff_of_false (by decide) fun either => either.elim less fun both => same both.1

namespace PackedText

variable {cap : Nat} {first second : PackedText cap}

theorem equal_iff : first.equal second = true ↔ first.view = second.view := by
  have left : first.len.toNat ≤ first.payload.length := first.len_le.trans_eq first.payload_length.symm
  rw [equal, Bool.and_eq_true, beq_iff_eq, beq_iff_eq]
  constructor
  · rintro ⟨same, alike⟩
    have right : first.len.toNat ≤ second.payload.length := by
      rw [same, second.payload_length]
      exact second.len_le
    rw [view, view, ← same]
    exact (memcmp_eq_zero left right).mp alike
  · intro alike
    have same : first.len = second.len := by
      apply UInt8.toNat_inj.mp
      rw [← length_view, ← length_view, alike]
    have right : first.len.toNat ≤ second.payload.length := by
      rw [same, second.payload_length]
      exact second.len_le
    refine ⟨same, (memcmp_eq_zero left right).mpr ?_⟩
    rw [view, view, ← same] at alike
    exact alike

theorem less_iff : first.less second = true ↔ first.view < second.view := by
  have left : first.len.toNat ≤ first.payload.length := first.len_le.trans_eq first.payload_length.symm
  have right : second.len.toNat ≤ second.payload.length := second.len_le.trans_eq second.payload_length.symm
  rw [view, view, ← memcmp_less left right]
  unfold less
  dsimp only
  split_ifs
  · exact decide_eq_true_iff
  · rw [decide_eq_true_iff, UInt8.lt_iff_toNat_lt]

end PackedText

/-! ## Full identifiers -/

/-- `FixedIdent` as it is stored. -/
structure PackedIdent where
  ident : PackedText 7
  arinc424IcaoCode : PackedText 3

namespace PackedIdent

/-- `operator==`. -/
def equal (first second : PackedIdent) : Bool :=
  first.ident.len == second.ident.len && first.arinc424IcaoCode.len == second.arinc424IcaoCode.len &&
    memcmp first.ident.payload second.ident.payload first.ident.len.toNat == 0 &&
    memcmp first.arinc424IcaoCode.payload second.arinc424IcaoCode.payload first.arinc424IcaoCode.len.toNat == 0

/-- `operator<`. -/
def less (first second : PackedIdent) : Bool :=
  let c := memcmp first.ident.payload second.ident.payload (min first.ident.len.toNat second.ident.len.toNat)
  if c ≠ 0 then decide (c < 0)
  else if first.ident.len ≠ second.ident.len then decide (first.ident.len < second.ident.len)
  else
    let c2 := memcmp first.arinc424IcaoCode.payload second.arinc424IcaoCode.payload
      (min first.arinc424IcaoCode.len.toNat second.arinc424IcaoCode.len.toNat)
    if c2 ≠ 0 then decide (c2 < 0) else decide (first.arinc424IcaoCode.len < second.arinc424IcaoCode.len)

/-- What is stored. -/
def toFixed (packed : PackedIdent) : FixedIdent :=
  ⟨packed.ident.view, packed.arinc424IcaoCode.view, packed.ident.length_view_le,
    packed.arinc424IcaoCode.length_view_le⟩

/-- `FromParts`, on fields within the caps. -/
def ofFixed (fixed : FixedIdent) : PackedIdent :=
  ⟨PackedText.pack fixed.ident fixed.ident_length PackedText.narrow_seven,
    PackedText.pack fixed.arinc424IcaoCode fixed.arinc424IcaoCode_length PackedText.narrow_three⟩

theorem toFixed_ofFixed (fixed : FixedIdent) : (ofFixed fixed).toFixed = fixed := by
  cases fixed
  simp only [toFixed, ofFixed, PackedText.view_pack]

variable {first second : PackedIdent}

theorem equal_iff : first.equal second = true ↔ first.toFixed = second.toFixed := by
  have fields : first.equal second = (first.ident.equal second.ident &&
      first.arinc424IcaoCode.equal second.arinc424IcaoCode) := by
    rw [equal, PackedText.equal, PackedText.equal]
    simp only [Bool.and_assoc, Bool.and_left_comm]
  rw [fields, Bool.and_eq_true, PackedText.equal_iff, PackedText.equal_iff, toFixed, toFixed, FixedIdent.mk.injEq]

/-- The identifiers decide unless they are the same. -/
theorem less_eq : first.less second =
    if first.ident.equal second.ident then first.arinc424IcaoCode.less second.arinc424IcaoCode
    else first.ident.less second.ident := by
  unfold less PackedText.less PackedText.equal
  dsimp only
  by_cases lens : first.ident.len = second.ident.len
  · rw [lens, Nat.min_self, beq_self_eq_true, Bool.true_and]
    by_cases alike : memcmp first.ident.payload second.ident.payload second.ident.len.toNat = 0
    · rw [alike, if_neg (not_not.mpr rfl), if_neg (not_not.mpr rfl), if_pos (beq_self_eq_true _)]
    · rw [if_pos alike, if_neg (fun same => alike (beq_iff_eq.mp same)), if_pos alike]
  · have differ : (first.ident.len == second.ident.len) = false := beq_eq_false_iff_ne.mpr lens
    rw [differ, Bool.false_and, if_neg Bool.false_ne_true, if_pos lens]

theorem less_iff : first.less second = true ↔ first.toFixed.before second.toFixed = true := by
  rw [FixedIdent.before, Bool.or_eq_true, Bool.and_eq_true, decide_eq_true_iff, decide_eq_true_iff, beq_iff_eq,
    less_eq]
  show _ ↔ first.ident.view < second.ident.view ∨ first.ident.view = second.ident.view ∧
    first.arinc424IcaoCode.view < second.arinc424IcaoCode.view
  by_cases same : first.ident.view = second.ident.view
  · rw [if_pos (PackedText.equal_iff.mpr same), and_iff_right same, same, or_iff_right (List.lt_irrefl _)]
    exact PackedText.less_iff
  · rw [if_neg fun alike => same (PackedText.equal_iff.mp alike), or_iff_left fun both => same both.1]
    exact PackedText.less_iff

end PackedIdent
end BravoFinder
