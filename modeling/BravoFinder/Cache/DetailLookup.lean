import BravoFinder.Cache.NavDetailCodec
import BravoFinder.Library.BinarySearch

namespace BravoFinder

/-!
# Navaid and hold listings

The archive is filled from what a loader parsed or from a decoded section, and
sorted over every field.  A listing is read off by binary search for the
identifier, which the order leads with.

The order tells any two records apart but for the sign of a zero.
-/

/-- `NavaidDetail`. -/
structure NavaidDetail where
  ident : Ident
  kind : WaypointKind
  elevFt : Int32
  freqRaw : Int32
  rangeNm : F64
  heading : F64
deriving DecidableEq

/-- `HoldFix`. -/
structure HoldFix where
  fix : Ident
  airportIcao : Text
  inboundCourse : F64
  legTimeMin : F64
  legDistNm : F64
  turnDir : UInt8
  minAltFt : Int32
  maxAltFt : Int32
  speedLimitKt : Int32
deriving DecidableEq

/-- What the archive reads of a loader's data. -/
structure DetailData where
  navaidDetails : List NavaidDetail
  holdFixes : List HoldFix
deriving DecidableEq

/-- The query-facing form of a detail. -/
def NavaidDetail.info (detail : NavaidDetail) : NavaidDetailInfo where
  ident := detail.ident.ident
  arinc424IcaoCode := detail.ident.arinc424IcaoCode
  kind := detail.kind
  elevFt := detail.elevFt
  freqRaw := detail.freqRaw
  rangeNm := detail.rangeNm
  heading := detail.heading

/-- The query-facing form of a hold. -/
def HoldFix.info (hold : HoldFix) : HoldInfo where
  fixIdent := hold.fix.ident
  fixArinc424IcaoCode := hold.fix.arinc424IcaoCode
  airportIcao := hold.airportIcao
  inboundCourse := hold.inboundCourse
  legTimeMin := hold.legTimeMin
  legDistNm := hold.legDistNm
  turnDir := hold.turnDir
  minAltFt := hold.minAltFt
  maxAltFt := hold.maxAltFt
  speedLimitKt := hold.speedLimitKt

namespace NavDetailArchive

/-- `FromData`. -/
def fromData (data : DetailData) : NavDetailArchive :=
  finalize
    { navaids := data.navaidDetails.map fun detail => (detail.ident, detail.info)
      holds := data.holdFixes.map HoldFix.info
      loaded := false }

/-- `FindNavaids`. -/
def findNavaids (archive : NavDetailArchive) (ident : Text) : List NavaidDetailInfo :=
  if archive.loaded then
    ((archive.navaids.drop (BinarySearch.lowerBound (fun entry => decide (entry.1.ident < ident))
      archive.navaids)).takeWhile fun entry => entry.1.ident == ident).map Prod.snd
  else []

/-- `FindHolds`: `lower_bound`, and `upper_bound` from there on. -/
def findHolds (archive : NavDetailArchive) (ident : Text) : List HoldInfo :=
  if archive.loaded then
    let rest := archive.holds.drop (BinarySearch.lowerBound (fun hold => decide (hold.fixIdent < ident)) archive.holds)
    rest.take (BinarySearch.lowerBound (fun hold => !decide (ident < hold.fixIdent)) rest)
  else []

end NavDetailArchive

/-! ## Doubles without a NaN -/

/-- A number with the two zeros made one. -/
def F64.normal (value : F64) : F64 := if value = 0x8000000000000000 then 0 else value

theorem F64.toNat_magnitude (value : F64) : (F64.magnitude value).toNat = value.toNat % 2 ^ 63 := by
  rw [F64.magnitude, UInt64.toNat_and]
  exact Nat.and_two_pow_sub_one_eq_mod value.toNat 63

theorem F64.key_eq (value : F64) :
    F64.key value = if value.toNat < 2 ^ 63 then (value.toNat : Int) else -((value.toNat - 2 ^ 63 : Nat) : Int) := by
  have bound := value.toNat_lt
  have sign : value < 0x8000000000000000 ↔ value.toNat < 2 ^ 63 := UInt64.lt_iff_toNat_lt
  rw [F64.key, F64.toNat_magnitude]
  by_cases positive : value.toNat < 2 ^ 63
  · rw [if_pos (sign.mpr positive), if_pos positive, Nat.mod_eq_of_lt positive]
  · rw [if_neg fun less => positive (sign.mp less), if_neg positive]
    have low : value.toNat % 2 ^ 63 = value.toNat - 2 ^ 63 := by omega
    rw [low]

theorem F64.toNat_normal (value : F64) :
    (F64.normal value).toNat = if value.toNat = 2 ^ 63 then 0 else value.toNat := by
  have negativeZero : value = 0x8000000000000000 ↔ value.toNat = 2 ^ 63 := UInt64.toNat_inj.symm
  rw [F64.normal]
  by_cases negative : value.toNat = 2 ^ 63
  · rw [if_pos (negativeZero.mpr negative), if_pos negative]
    rfl
  · rw [if_neg fun same => negative (negativeZero.mp same), if_neg negative]

/-- Numbers that compare as the same are the same but for the sign of a zero. -/
theorem F64.normal_eq_of_key_eq {first second : F64} (same : F64.key first = F64.key second) :
    F64.normal first = F64.normal second := by
  have bound := first.toNat_lt
  have otherBound := second.toNat_lt
  apply UInt64.toNat_inj.mp
  rw [F64.key_eq, F64.key_eq] at same
  rw [F64.toNat_normal, F64.toNat_normal]
  split_ifs at same ⊢ <;> omega

/-! ## Orders over every field -/

namespace NavDetailArchive

/-- Parts that differ decide. -/
theorem tieLess_cons_iff {K : Type} {before : K -> K -> Prop} [IsStrictTotalOrder K before] {a b : K}
    {part : Bool × Bool} {rest : List (Bool × Bool)} {later : Prop} (less : part.1 = true ↔ before a b)
    (greater : part.2 = true ↔ before b a) (follows : tieLess rest = true ↔ later) :
    tieLess (part :: rest) = true ↔ before a b ∨ a = b ∧ later := by
  rcases part with ⟨isLess, isGreater⟩
  rw [tieLess, Bool.or_eq_true, Bool.and_eq_true, Bool.not_eq_true', less, follows]
  constructor
  · rintro (step | ⟨notGreater, rest⟩)
    · exact Or.inl step
    · by_cases step : before a b
      · exact Or.inl step
      · have away : ¬ before b a := fun back => by cases notGreater.symm.trans (greater.mpr back)
        exact Or.inr ⟨SortedIndex.eq_of_not_before step away, rest⟩
  · rintro (step | ⟨rfl, rest⟩)
    · exact Or.inl step
    · refine Or.inr ⟨Bool.eq_false_iff.mpr fun back => ?_, rest⟩
      exact SortedIndex.irrefl _ (greater.mp back)

theorem less_iff_key {first second : F64} (isNumber : F64.isNaN first = false) (otherIsNumber : F64.isNaN second = false) :
    F64.less first second = true ↔ F64.key first < F64.key second := by
  rw [F64.less, isNumber, otherIsNumber]
  exact decide_eq_true_iff

theorem compared_int32 (first second : Int32) : (compared first second).1 = true ↔ first.toInt < second.toInt :=
  decide_eq_true_iff.trans Int32.lt_iff_toInt_lt

theorem compared_int8 (first second : Int8) : (compared first second).1 = true ↔ first.toInt < second.toInt :=
  decide_eq_true_iff.trans Int8.lt_iff_toInt_lt

theorem compared_byte (first second : UInt8) :
    (compared first second).1 = true ↔ (first.toNat : Int) < second.toNat :=
  decide_eq_true_iff.trans (UInt8.lt_iff_toNat_lt.trans Int.ofNat_lt.symm)

/-- A numeric part before the others. -/
theorem tieLess_number {a b : Int} {as bs : List Int} {part : Bool × Bool} {rest : List (Bool × Bool)}
    (less : part.1 = true ↔ a < b) (greater : part.2 = true ↔ b < a) (follows : tieLess rest = true ↔ as < bs) :
    tieLess (part :: rest) = true ↔ a :: as < b :: bs :=
  (tieLess_cons_iff less greater follows).trans List.cons_lt_cons_iff.symm

theorem tieLess_nil : tieLess [] = true ↔ ([] : List Int) < [] :=
  iff_of_false Bool.false_ne_true (List.lt_irrefl [])

end NavDetailArchive

/-- No double of the record is a NaN. -/
def NavaidDetailInfo.NoNaN (info : NavaidDetailInfo) : Prop :=
  F64.isNaN info.rangeNm = false ∧ F64.isNaN info.heading = false

def HoldInfo.NoNaN (hold : HoldInfo) : Prop :=
  F64.isNaN hold.inboundCourse = false ∧ F64.isNaN hold.legTimeMin = false ∧ F64.isNaN hold.legDistNm = false

/-- The record with the zeros of its doubles made one. -/
def NavaidDetailInfo.normal (info : NavaidDetailInfo) : NavaidDetailInfo :=
  { info with rangeNm := F64.normal info.rangeNm, heading := F64.normal info.heading }

def HoldInfo.normal (hold : HoldInfo) : HoldInfo :=
  { hold with
    inboundCourse := F64.normal hold.inboundCourse
    legTimeMin := F64.normal hold.legTimeMin
    legDistNm := F64.normal hold.legDistNm }

/-- What a detail is ordered by. -/
abbrev NavaidKey := Text × Text × List Int

/-- What a hold is ordered by. -/
abbrev HoldKey := Text × Text × Text × List Int

namespace NavDetailArchive

def navaidKey (entry : Ident × NavaidDetailInfo) : NavaidKey :=
  (entry.1.ident, entry.1.arinc424IcaoCode,
    [entry.2.kind.toByte.toNat, entry.2.freqRaw.toInt, entry.2.elevFt.toInt, F64.key entry.2.rangeNm,
      F64.key entry.2.heading])

def holdKey (hold : HoldInfo) : HoldKey :=
  (hold.fixIdent, hold.fixArinc424IcaoCode, hold.airportIcao,
    [F64.key hold.inboundCourse, F64.key hold.legTimeMin, F64.key hold.legDistNm, hold.turnDir.toInt8.toInt,
      hold.minAltFt.toInt, hold.maxAltFt.toInt, hold.speedLimitKt.toInt])

def navaidKeyBefore : NavaidKey -> NavaidKey -> Prop := Prod.Lex (· < ·) (Prod.Lex (· < ·) (· < ·))

def holdKeyBefore : HoldKey -> HoldKey -> Prop := Prod.Lex (· < ·) (Prod.Lex (· < ·) (Prod.Lex (· < ·) (· < ·)))

instance strictTotalOrder_ints : IsStrictTotalOrder (List Int) (· < ·) where
  trichotomous _ _ forwards backwards := List.le_antisymm backwards forwards
  irrefl := List.lt_irrefl
  trans _ _ _ := List.lt_trans

instance strictTotalOrder_navaidKey : IsStrictTotalOrder NavaidKey navaidKeyBefore :=
  SortedIndex.strictTotalOrder_lex

instance strictTotalOrder_holdKey : IsStrictTotalOrder HoldKey holdKeyBefore :=
  SortedIndex.strictTotalOrder_lex

theorem compared_text (first second : Text) : (compared first second).1 = true ↔ first < second :=
  decide_eq_true_iff

/-- Details without a NaN are in the order of their keys. -/
theorem navaidBefore_iff {a b : Ident × NavaidDetailInfo} (numbers : a.2.NoNaN) (others : b.2.NoNaN) :
    navaidBefore a b = true ↔ navaidKeyBefore (navaidKey a) (navaidKey b) := by
  rw [navaidKeyBefore, Prod.lex_iff, Prod.lex_iff]
  refine tieLess_cons_iff (compared_text _ _) (compared_text _ _) ?_
  refine tieLess_cons_iff (compared_text _ _) (compared_text _ _) ?_
  refine tieLess_number (compared_byte _ _) (compared_byte _ _) ?_
  refine tieLess_number (compared_int32 _ _) (compared_int32 _ _) ?_
  refine tieLess_number (compared_int32 _ _) (compared_int32 _ _) ?_
  refine tieLess_number (less_iff_key numbers.1 others.1) (less_iff_key others.1 numbers.1) ?_
  exact tieLess_number (less_iff_key numbers.2 others.2) (less_iff_key others.2 numbers.2) tieLess_nil

/-- Holds without a NaN are in the order of their keys. -/
theorem holdBefore_iff {a b : HoldInfo} (numbers : a.NoNaN) (others : b.NoNaN) :
    holdBefore a b = true ↔ holdKeyBefore (holdKey a) (holdKey b) := by
  rcases numbers with ⟨course, time, dist⟩
  rcases others with ⟨otherCourse, otherTime, otherDist⟩
  rw [holdKeyBefore, Prod.lex_iff, Prod.lex_iff, Prod.lex_iff]
  refine tieLess_cons_iff (compared_text _ _) (compared_text _ _) ?_
  refine tieLess_cons_iff (compared_text _ _) (compared_text _ _) ?_
  refine tieLess_cons_iff (compared_text _ _) (compared_text _ _) ?_
  refine tieLess_number (less_iff_key course otherCourse) (less_iff_key otherCourse course) ?_
  refine tieLess_number (less_iff_key time otherTime) (less_iff_key otherTime time) ?_
  refine tieLess_number (less_iff_key dist otherDist) (less_iff_key otherDist dist) ?_
  refine tieLess_number (compared_int8 _ _) (compared_int8 _ _) ?_
  refine tieLess_number (compared_int32 _ _) (compared_int32 _ _) ?_
  refine tieLess_number (compared_int32 _ _) (compared_int32 _ _) ?_
  exact tieLess_number (compared_int32 _ _) (compared_int32 _ _) tieLess_nil

/-- The key separates details that differ in any field. -/
theorem normal_eq_of_navaidKey_eq {a b : Ident × NavaidDetailInfo} (keyed : a.1 = ⟨a.2.ident, a.2.arinc424IcaoCode⟩)
    (otherKeyed : b.1 = ⟨b.2.ident, b.2.arinc424IcaoCode⟩) (same : navaidKey a = navaidKey b) :
    a.2.normal = b.2.normal := by
  rcases a with ⟨ident, info⟩
  rcases b with ⟨other, otherInfo⟩
  dsimp only at keyed otherKeyed
  subst keyed otherKeyed
  simp only [navaidKey, Prod.mk.injEq, List.cons.injEq, and_true, Int.natCast_inj, UInt8.toNat_inj,
    Int32.toInt_inj] at same
  rcases same with ⟨identSame, codeSame, kindSame, freqSame, elevSame, rangeSame, headingSame⟩
  have kinds : info.kind = otherInfo.kind := by
    have found := congrArg NavDetailCodec.kindOfByte kindSame
    rw [NavDetailCodec.kindOfByte_toByte, NavDetailCodec.kindOfByte_toByte] at found
    exact Option.some.inj found
  simp only [NavaidDetailInfo.normal, identSame, codeSame, kinds, freqSame, elevSame,
    F64.normal_eq_of_key_eq rangeSame, F64.normal_eq_of_key_eq headingSame]

theorem normal_eq_of_holdKey_eq {a b : HoldInfo} (same : holdKey a = holdKey b) : a.normal = b.normal := by
  simp only [holdKey, Prod.mk.injEq, List.cons.injEq, and_true, Int8.toInt_inj, Int32.toInt_inj] at same
  rcases same with ⟨ident, code, airport, course, time, dist, turn, minAlt, maxAlt, speed⟩
  have turns : a.turnDir = b.turnDir := congrArg Int8.toUInt8 turn
  simp only [HoldInfo.normal, ident, code, airport, turns, minAlt, maxAlt, speed,
    F64.normal_eq_of_key_eq course, F64.normal_eq_of_key_eq time, F64.normal_eq_of_key_eq dist]

end NavDetailArchive
end BravoFinder
