import BravoFinder.Core.Decimal
import Mathlib.Data.List.TakeWhile

namespace BravoFinder

/-!
# Cache file names

A cache is named for its cycle, and a name is parsed back into one.  The digits
are added up with a check after each, so a number that does not fit 32 bits is
no cycle.
-/

/-! ## Names -/

/-- The bytes of `.bfdb`. -/
def kSuffix : Text := [46, 98, 102, 100, 98]

/-- The bytes of `nav_`. -/
def kPrefix : Text := [110, 97, 118, 95]

/-- The bytes of `nav.bfdb`. -/
def kLegacyName : Text := [110, 97, 118] ++ kSuffix

/-- `FormatBfdbName`. -/
def formatBfdbName (cycle : UInt32) : Text :=
  if cycle = 0 then kLegacyName else kPrefix ++ decimal cycle.toNat ++ kSuffix

/-- `path::filename`: what follows the last separator. -/
def filename (path : Text) : Text :=
  (path.reverse.takeWhile fun c => c != 47).reverse

/-- The loop of `ParseBfdbName`. -/
def addDigits : Text -> Nat -> Option Nat
  | [], value => some value
  | c :: rest, value =>
      if c < 48 ∨ c > 57 then none
      else
        let value := value * 10 + (c.toNat - 48)
        if value > 0xFFFFFFFF then none else addDigits rest value

/-- `ParseBfdbName`. -/
def parseBfdbName (path : Text) : Option UInt32 :=
  let name := filename path
  if name = kLegacyName then some 0
  else if name.length ≤ kPrefix.length + kSuffix.length ∨ name.take kPrefix.length ≠ kPrefix ∨
      name.drop (name.length - kSuffix.length) ≠ kSuffix then none
  else
    let cycleStr := (name.drop kPrefix.length).take (name.length - kPrefix.length - kSuffix.length)
    if cycleStr.isEmpty then none else (addDigits cycleStr 0).map UInt32.ofNat

/-! ## What is accepted -/

/-- Digits add up to their number, if that fits. -/
theorem addDigits_eq {digits : Text} {value : Nat} (small : value < 2 ^ 32) (all : AllDigits digits) :
    addDigits digits value = if decimalValue digits value < 2 ^ 32 then some (decimalValue digits value) else none := by
  induction digits generalizing value with
  | nil =>
      rw [addDigits, decimalValue, List.foldl_nil, if_pos small]
  | cons c rest inductionHypothesis =>
      rcases all c List.mem_cons_self with ⟨low, high⟩
      have others : AllDigits rest := fun other member => all other (List.mem_cons_of_mem _ member)
      have digit : ¬ (c < 48 ∨ c > 57) := by
        rintro (below | above)
        · exact absurd low (UInt8.not_le.mpr below)
        · exact absurd high (UInt8.not_le.mpr above)
      have grows : forall (digits : Text) (value : Nat), value ≤ decimalValue digits value := by
        intro digits
        induction digits with
        | nil => exact fun value => Nat.le_refl _
        | cons c rest growsHypothesis =>
            intro value
            exact Nat.le_trans (by omega) (growsHypothesis (value * 10 + (c.toNat - 48)))
      have step : decimalValue (c :: rest) value = decimalValue rest (value * 10 + (c.toNat - 48)) := rfl
      rw [addDigits, if_neg digit, step]
      dsimp only
      split_ifs with wide fits
      · have more := grows rest (value * 10 + (c.toNat - 48))
        omega
      · rfl
      · rw [inductionHypothesis (by omega) others, if_pos (by assumption)]
      · rw [inductionHypothesis (by omega) others, if_neg (by assumption)]

/-- Anything else than digits is refused. -/
theorem allDigits_of_addDigits {digits : Text} {value total : Nat} (added : addDigits digits value = some total) :
    AllDigits digits := by
  induction digits generalizing value with
  | nil => exact fun c member => absurd member List.not_mem_nil
  | cons c rest inductionHypothesis =>
      rw [addDigits] at added
      dsimp only at added
      split_ifs at added with other
      rw [not_or, UInt8.not_lt, gt_iff_lt, UInt8.not_lt] at other
      intro d member
      rcases List.mem_cons.mp member with rfl | later
      · exact other
      · exact inductionHypothesis added d later

/-- The shape that is asked for, around some digits. -/
theorem shaped_iff {name : Text} :
    ¬ (name.length ≤ kPrefix.length + kSuffix.length ∨ name.take kPrefix.length ≠ kPrefix ∨
        name.drop (name.length - kSuffix.length) ≠ kSuffix) ↔
      exists digits, name = kPrefix ++ digits ++ kSuffix ∧ digits ≠ [] := by
  constructor
  · intro shaped
    rw [not_or, not_or, not_not, not_not, not_le] at shaped
    rcases shaped with ⟨long, starts, ends⟩
    refine ⟨(name.drop kPrefix.length).take (name.length - kPrefix.length - kSuffix.length), ?_, ?_⟩
    · have last : (name.drop kPrefix.length).drop (name.length - kPrefix.length - kSuffix.length) = kSuffix := by
        rw [List.drop_drop, show kPrefix.length + (name.length - kPrefix.length - kSuffix.length) =
          name.length - kSuffix.length by omega, ends]
      calc
        name = name.take kPrefix.length ++ name.drop kPrefix.length := (List.take_append_drop _ _).symm
        _ = kPrefix ++ ((name.drop kPrefix.length).take (name.length - kPrefix.length - kSuffix.length) ++
              (name.drop kPrefix.length).drop (name.length - kPrefix.length - kSuffix.length)) := by
            rw [starts, List.take_append_drop]
        _ = _ := by rw [last, List.append_assoc]
    · intro nothing
      have length := congrArg List.length nothing
      rw [List.length_take, List.length_drop, List.length_nil] at length
      omega
  · rintro ⟨digits, rfl, filled⟩
    have some := List.length_pos_iff.mpr filled
    rw [not_or, not_or, not_not, not_not, not_le]
    refine ⟨?_, ?_, ?_⟩
    · rw [List.length_append, List.length_append]
      omega
    · rw [List.append_assoc, List.take_left']
      rfl
    · refine List.drop_left' ?_
      rw [show (kPrefix ++ digits ++ kSuffix).length = (kPrefix ++ digits).length + kSuffix.length from
        List.length_append]
      omega

/-- The digits of a name of that shape. -/
theorem digits_of_shape (digits : Text) :
    ((kPrefix ++ digits ++ kSuffix).drop kPrefix.length).take
      ((kPrefix ++ digits ++ kSuffix).length - kPrefix.length - kSuffix.length) = digits := by
  rw [List.append_assoc, List.drop_left' rfl, List.take_left']
  rw [List.length_append, List.length_append]
  omega

theorem ne_legacy (digits : Text) : kPrefix ++ digits ++ kSuffix ≠ kLegacyName := by
  intro same
  have fourth : some (95 : UInt8) = some 46 := congrArg (fun name : Text => name[3]?) same
  exact absurd fourth (by decide)

/-- The names that are accepted, and as what. -/
theorem parseBfdbName_eq_some_iff {path : Text} {cycle : UInt32} :
    parseBfdbName path = some cycle ↔ filename path = kLegacyName ∧ cycle = 0 ∨
      exists digits, filename path = kPrefix ++ digits ++ kSuffix ∧ digits ≠ [] ∧ AllDigits digits ∧
        decimalValue digits 0 = cycle.toNat := by
  rw [parseBfdbName]
  dsimp only
  by_cases legacy : filename path = kLegacyName
  · rw [if_pos legacy, Option.some.injEq]
    constructor
    · exact fun same => .inl ⟨legacy, same.symm⟩
    · rintro (⟨_, same⟩ | ⟨digits, named, _⟩)
      · exact same.symm
      · exact absurd (named.symm.trans legacy) (ne_legacy digits)
  · have neither : ¬ (filename path = kLegacyName ∧ cycle = 0) := fun both => legacy both.1
    rw [if_neg legacy, or_iff_right neither]
    by_cases other : (filename path).length ≤ kPrefix.length + kSuffix.length ∨
        (filename path).take kPrefix.length ≠ kPrefix ∨
        (filename path).drop ((filename path).length - kSuffix.length) ≠ kSuffix
    · rw [if_pos other]
      constructor
      · exact fun accepted => nomatch accepted
      · rintro ⟨digits, named, filled, _⟩
        exact absurd other (shaped_iff.mpr ⟨digits, named, filled⟩)
    · rcases shaped_iff.mp other with ⟨digits, named, filled⟩
      rw [if_neg other, named, digits_of_shape, if_neg (by rwa [List.isEmpty_iff])]
      constructor
      · intro accepted
        rcases Option.map_eq_some_iff.mp accepted with ⟨total, added, same⟩
        have all := allDigits_of_addDigits added
        rw [addDigits_eq (by decide) all, Option.ite_none_right_eq_some, Option.some.injEq] at added
        refine ⟨digits, rfl, filled, all, ?_⟩
        rw [← same, UInt32.toNat_ofNat_of_lt' (by rw [UInt32.size]; omega), added.2]
      · rintro ⟨others, same, _, all, value⟩
        rw [List.append_cancel_left (List.append_cancel_right same)]
        have small : decimalValue others 0 < 2 ^ 32 := value ▸ cycle.toNat_lt
        rw [addDigits_eq (by decide) all, if_pos small, value, Option.map_some, UInt32.ofNat_toNat]

/-- A bare name is its own last component. -/
theorem filename_of_not_mem {name : Text} (bare : 47 ∉ name) : filename name = name := by
  rw [filename, List.takeWhile_eq_self_iff.mpr, List.reverse_reverse]
  intro c member
  rw [bne_iff_ne]
  exact fun slash => bare (slash ▸ List.mem_reverse.mp member)

/-- What `formatBfdbName` writes is read back. -/
theorem parse_formatBfdbName (cycle : UInt32) : parseBfdbName (formatBfdbName cycle) = some cycle := by
  rw [parseBfdbName_eq_some_iff, formatBfdbName]
  split_ifs with legacy
  · exact .inl ⟨rfl, legacy⟩
  · refine .inr ⟨decimal cycle.toNat, ?_, ?_, allDigits_decimal _, decimalValue_decimal _⟩
    · refine filename_of_not_mem fun slash => ?_
      rw [List.mem_append, List.mem_append] at slash
      rcases slash with (before | among) | after
      · exact absurd before (by decide)
      · exact absurd (allDigits_decimal _ 47 among).1 (by decide)
      · exact absurd after (by decide)
    · intro nothing
      have value := decimalValue_decimal cycle.toNat
      rw [nothing] at value
      exact legacy (UInt32.toNat_inj.mp value.symm)

/-- A number of 2^32 or more is no cycle. -/
theorem parseBfdbName_wide {path digits : Text} (named : filename path = kPrefix ++ digits ++ kSuffix)
    (wide : 2 ^ 32 ≤ decimalValue digits 0) : parseBfdbName path = none := by
  rw [Option.eq_none_iff_forall_ne_some]
  intro cycle accepted
  rcases parseBfdbName_eq_some_iff.mp accepted with ⟨legacy, _⟩ | ⟨others, same, _, _, value⟩
  · exact ne_legacy digits (named.symm.trans legacy)
  · rw [named] at same
    rw [List.append_cancel_left (List.append_cancel_right same), value] at wide
    exact absurd cycle.toNat_lt (Nat.not_lt.mpr wide)

end BravoFinder
