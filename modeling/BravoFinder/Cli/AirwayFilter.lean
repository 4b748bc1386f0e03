import BravoFinder.Build.NameLookup
import BravoFinder.Core.Result
import BravoFinder.Core.RouteRequest
import BravoFinder.Mcp.JsonValue
import Mathlib.Order.Defs.LinearOrder

namespace BravoFinder

/-!
# Airway filters of the command line

A filter is written `<regions>:<designators>[=<action>[:<fraction>]]`.  Both fields
are lists, and a lone `*` stands for any entry.
-/

variable {R : Type}

/-- The arithmetic on `double`s that rules are read with. -/
structure RuleNumbers (R : Type) [LinearOrder R] [Zero R] where
  /-- `std::from_chars`, of a whole text. -/
  fromChars : Text -> Option R
  /-- `GetDouble`. -/
  getDouble : JsonNumber -> R
  isfinite : R -> Bool
  kDefaultPenaltyFraction : R
  fromChars_nil : fromChars [] = none
  default_isfinite : isfinite kDefaultPenaltyFraction = true
  default_nonneg : 0 ≤ kDefaultPenaltyFraction

def kActionBlock : Text := [98, 108, 111, 99, 107]
def kActionPenalize : Text := [112, 101, 110, 97, 108, 105, 122, 101]

/-- `SplitCsv`: no entry may be empty. -/
def splitCsv (field : Text) : Except Text (List Text) :=
  let items := field.splitOn 44
  if items.any List.isEmpty then .error (ofString "empty entry in '" ++ field ++ ofString "'")
  else .ok (items.map toUpper)

/-- The loop of `StripStarMarkers`. -/
def stripStars : List Text -> Except Text (List Text × Nat)
  | [] => .ok ([], 0)
  | item :: rest =>
      if item.getLast? = some 42 ∧ item.dropLast.isEmpty then
        .error (ofString "'*' cannot be combined with other entries; use a bare '*' alone")
      else do
        let stripped <- stripStars rest
        if item.getLast? = some 42 then return (item.dropLast :: stripped.1, stripped.2 + 1)
        else return (item :: stripped.1, stripped.2)

/-- `StripStarMarkers`: the entries, and how many had a marker. -/
def stripStarMarkers (items : List Text) : Except Text (List Text × Nat) :=
  if items = [[42]] then .ok ([], 0) else stripStars items

namespace AirwayFilter

/-- What stands before the first colon. -/
def regionsField (spec : Text) : Text :=
  spec.takeWhile (· != 58)

/-- What stands after it. -/
def rest (spec : Text) : Text :=
  (spec.dropWhile (· != 58)).drop 1

def designatorsField (spec : Text) : Text :=
  (rest spec).takeWhile (· != 61)

def actionField (spec : Text) : Text :=
  ((rest spec).dropWhile (· != 61)).drop 1

/-- The mode of a list of which some entries had a marker. -/
def matchModeOf (designators : List Text) (starred : Nat) : Except Text AirwayRuleMatch :=
  if designators.isEmpty then .ok .kPrefix
  else if starred = 0 then .ok .kExact
  else if starred = designators.length then .ok .kPrefix
  else .error (ofString "cannot mix prefix ('J*') and exact ('J60') designators in one filter; " ++
    ofString "pass them as two --airway-filter values")

section Fraction

variable [LinearOrder R] [Zero R] (numbers : RuleNumbers R)

/-- A fraction that is given. -/
def fractionOf (value : Text) : Except Text R :=
  let wrong := ofString "penalty fraction '" ++ value ++ ofString "' must be a number >= 0"
  match numbers.fromChars value with
  | none => .error wrong
  | some fraction => if !numbers.isfinite fraction ∨ fraction < 0 then .error wrong else .ok fraction

/-- The action, and the fraction of the rule. -/
def actionOf (field : Text) : Except Text (AirwayRuleAction × R) :=
  if field.isEmpty then .ok (.kPenalize, numbers.kDefaultPenaltyFraction)
  else
    let action := field.takeWhile (· != 58)
    let value := (field.dropWhile (· != 58)).drop 1
    if action = kActionBlock then
      if value.isEmpty then .ok (.kBlock, numbers.kDefaultPenaltyFraction)
      else .error (ofString "'" ++ kActionBlock ++ ofString "' takes no value (drop the ':" ++ value ++ ofString "')")
    else if action ≠ kActionPenalize then
      .error (ofString "unknown action '" ++ action ++ ofString "' (expected '" ++ kActionBlock ++ ofString "' or '" ++
        kActionPenalize ++ ofString "')")
    else if value.isEmpty then .ok (.kPenalize, numbers.kDefaultPenaltyFraction)
    else do
      let fraction <- fractionOf numbers value
      return (.kPenalize, fraction)

end Fraction

end AirwayFilter

open AirwayFilter

section Parse

variable [LinearOrder R] [Zero R] (numbers : RuleNumbers R)

/-- `ParseAirwayFilter`. -/
def parseAirwayFilter (spec : Text) : Except Text (AirwayRule R) :=
  if !spec.contains 58 then .error (ofString "expected '<regions>:<designators>[=<action>[:<fraction>]]'")
  else if (regionsField spec).isEmpty || (designatorsField spec).isEmpty then
    .error (ofString "region and designator fields must not be empty (use '*' for 'any')")
  else do
    let regions <- splitCsv (regionsField spec)
    let prefixes <- stripStarMarkers regions
    let items <- splitCsv (designatorsField spec)
    let designators <- stripStarMarkers items
    let matchMode <- matchModeOf designators.1 designators.2
    let action <- actionOf numbers (actionField spec)
    return ⟨prefixes.1, designators.1, matchMode, action.1, action.2⟩

end Parse

/-! ## What a filter is read as -/

theorem toUpper_getLast? (s : Text) : (toUpper s).getLast? = some 42 ↔ s.getLast? = some 42 := by
  have star (c : UInt8) : (if 97 ≤ c ∧ c ≤ 122 then c - 32 else c) = 42 ↔ c = 42 := by
    split
    next lower =>
      refine iff_of_false (fun same => ?_) fun same => ?_
      · have back : c = 42 + 32 := by rw [← same, UInt8.sub_add_cancel]
        rw [back] at lower
        exact absurd lower (by decide)
      · rw [same] at lower
        exact absurd lower (by decide)
    next => exact Iff.rfl
  rw [toUpper, List.getLast?_map, Option.map_eq_some_iff]
  constructor
  · rintro ⟨c, isLast, same⟩
    rw [isLast, (star c).mp same]
  · intro isLast
    exact ⟨42, isLast, (star 42).mpr rfl⟩

theorem toUpper_eq_star {s : Text} : toUpper s = [42] ↔ s = [42] := by
  constructor
  · intro same
    have isLast := (toUpper_getLast? s).mp (by rw [same]; rfl)
    have one : s.length = 1 := by
      have length := congrArg List.length same
      rwa [toUpper, List.length_map] at length
    rcases List.length_eq_one_iff.mp one with ⟨c, rfl⟩
    rw [List.getLast?_singleton, Option.some.injEq] at isLast
    rw [isLast]
  · intro same
    rw [same]
    rfl

/-- What comes out of the loop over the markers. -/
structure Stripped (items entries : List Text) (starred : Nat) : Prop where
  length : entries.length = items.length
  filled : (forall item, item ∈ items -> item ≠ []) -> forall entry, entry ∈ entries -> entry ≠ []
  few : starred ≤ items.length
  all : starred = items.length ↔ forall item, item ∈ items -> item.getLast? = some 42

theorem stripped_of_stripStars {items : List Text} {stripped : List Text × Nat}
    (strips : stripStars items = .ok stripped) : Stripped items stripped.1 stripped.2 := by
  induction items generalizing stripped with
  | nil =>
      rw [stripStars, Except.ok.injEq] at strips
      rw [← strips]
      exact ⟨rfl, fun filled => filled, Nat.le_refl _, iff_of_true rfl fun _ member => absurd member List.not_mem_nil⟩
  | cons item rest inductionHypothesis =>
      rw [stripStars] at strips
      rcases others : stripStars rest with error | inner
      · rw [others] at strips
        split_ifs at strips <;> cases strips
      have inside := inductionHypothesis others
      rw [others] at strips
      by_cases lone : item.getLast? = some 42 ∧ item.dropLast.isEmpty = true
      · rw [if_pos lone] at strips
        cases strips
      rw [if_neg lone] at strips
      dsimp only [bind, Except.bind, pure, Except.pure] at strips
      have later {head : Text} (isFilled : head ≠ []) (filled : forall item', item' ∈ item :: rest -> item' ≠ []) :
          forall entry, entry ∈ head :: inner.1 -> entry ≠ [] :=
        List.forall_mem_cons.mpr
          ⟨isFilled, inside.filled fun item member => filled item (List.mem_cons_of_mem _ member)⟩
      by_cases isStarred : item.getLast? = some 42
      · rw [if_pos isStarred, Except.ok.injEq] at strips
        rw [← strips]
        constructor
        case length => exact congrArg (· + 1) inside.length
        case filled => exact later fun empty => lone ⟨isStarred, by rw [empty]; rfl⟩
        case few => exact Nat.succ_le_succ inside.few
        case all =>
          rw [List.length_cons, Nat.add_right_cancel_iff, inside.all, List.forall_mem_cons]
          exact ⟨fun all => ⟨isStarred, all⟩, And.right⟩
      · rw [if_neg isStarred, Except.ok.injEq] at strips
        rw [← strips]
        constructor
        case length => exact congrArg (· + 1) inside.length
        case filled => exact fun filled => later (filled item List.mem_cons_self) filled
        case few => exact Nat.le_succ_of_le inside.few
        case all =>
          refine iff_of_false (fun same => ?_) fun all => isStarred (all item List.mem_cons_self)
          have few := inside.few
          dsimp only at same
          rw [List.length_cons] at same
          omega

/-- What an accepted field is read as. -/
structure FieldRead (field : Text) (entries : List Text) (starred : Nat) : Prop where
  filled : forall entry, entry ∈ entries -> entry ≠ []
  any : entries = [] -> field = [42]
  all : entries ≠ [] ->
    (starred = entries.length ↔ forall item, item ∈ field.splitOn 44 -> item.getLast? = some 42)

theorem fieldRead_of_splitCsv {field : Text} {items : List Text} {stripped : List Text × Nat}
    (splits : splitCsv field = .ok items) (strips : stripStarMarkers items = .ok stripped) :
    FieldRead field stripped.1 stripped.2 := by
  rw [splitCsv] at splits
  by_cases empty : (field.splitOn 44).any List.isEmpty = true
  · rw [if_pos empty] at splits
    cases splits
  rw [if_neg empty, Except.ok.injEq] at splits
  rw [stripStarMarkers] at strips
  by_cases alone : items = [[42]]
  · rw [if_pos alone, Except.ok.injEq] at strips
    rw [← strips]
    refine ⟨fun _ member => absurd member List.not_mem_nil, fun _ => ?_, fun filled => absurd rfl filled⟩
    rw [alone] at splits
    rcases List.map_eq_singleton_iff.mp splits with ⟨item, one, isStar⟩
    have whole : [44].intercalate (field.splitOn 44) = field := List.intercalate_splitOn 44
    rw [← whole, one, toUpper_eq_star.mp isStar]
    rfl
  · rw [if_neg alone] at strips
    have loop := stripped_of_stripStars strips
    constructor
    case filled =>
      refine loop.filled fun item member isEmpty => empty ?_
      rw [← splits] at member
      rcases List.mem_map.mp member with ⟨raw, isRaw, same⟩
      rw [isEmpty] at same
      exact List.any_eq_true.mpr ⟨raw, isRaw, List.isEmpty_iff.mpr (List.map_eq_nil_iff.mp same)⟩
    case any =>
      intro none
      have length := loop.length
      rw [none, ← splits, List.length_map] at length
      exact absurd (List.length_eq_zero_iff.mp length.symm) (List.splitOn_ne_nil 44 field)
    case all =>
      intro _
      rw [loop.length, loop.all, ← splits]
      constructor
      · intro all item member
        exact (toUpper_getLast? item).mp (all (toUpper item) (List.mem_map_of_mem member))
      · intro all item member
        rcases List.mem_map.mp member with ⟨raw, isRaw, rfl⟩
        exact (toUpper_getLast? raw).mpr (all raw isRaw)

section Read

variable [LinearOrder R] [Zero R] (numbers : RuleNumbers R)

/-- What the rule of an accepted filter is. -/
structure ReadsFilter (spec : Text) (rule : AirwayRule R) : Prop where
  filled : forall entry, entry ∈ rule.regionPrefixes ++ rule.designators -> entry ≠ []
  anyRegion : rule.regionPrefixes = [] -> regionsField spec = [42]
  anyDesignator : rule.designators = [] -> designatorsField spec = [42]
  matchMode : rule.matchMode = .kPrefix ↔ designatorsField spec = [42] ∨
    forall item, item ∈ (designatorsField spec).splitOn 44 -> item.getLast? = some 42
  fraction : numbers.isfinite rule.penaltyFraction = true ∧ 0 ≤ rule.penaltyFraction

end Read

theorem FieldRead.matchMode {field : Text} {entries : List Text} {starred : Nat} {mode : AirwayRuleMatch}
    (reads : FieldRead field entries starred) (decided : matchModeOf entries starred = .ok mode) :
    mode = .kPrefix ↔ field = [42] ∨ forall item, item ∈ field.splitOn 44 -> item.getLast? = some 42 := by
  have star : field = [42] -> forall item, item ∈ field.splitOn 44 -> item.getLast? = some 42 := by
    rintro rfl item member
    rw [List.mem_singleton.mp member]
    rfl
  rw [or_iff_right_of_imp star]
  rw [matchModeOf] at decided
  rcases entries with _ | ⟨entry, others⟩
  · rw [List.isEmpty_nil, if_pos rfl, Except.ok.injEq] at decided
    exact iff_of_true decided.symm (star (reads.any rfl))
  · have all := reads.all (List.cons_ne_nil _ _)
    rw [List.isEmpty_cons, if_neg Bool.false_ne_true] at decided
    rw [← all]
    split_ifs at decided with none whole
    · rw [Except.ok.injEq] at decided
      refine iff_of_false (fun same => AirwayRuleMatch.noConfusion (decided.trans same)) fun same => ?_
      rw [none] at same
      exact absurd same.symm (Nat.succ_ne_zero _)
    · rw [Except.ok.injEq] at decided
      exact iff_of_true decided.symm whole

theorem exists_of_bind_eq_ok {E A B : Type} {result : Except E A} {next : A -> Except E B} {value : B}
    (ran : result >>= next = .ok value) : exists middle, result = .ok middle ∧ next middle = .ok value := by
  rcases result with error | middle
  · cases ran
  · exact ⟨middle, rfl, ran⟩

section Accepted

variable [LinearOrder R] [Zero R] {numbers : RuleNumbers R}

theorem fraction_of_actionOf {field : Text} {action : AirwayRuleAction × R}
    (reads : actionOf numbers field = .ok action) : numbers.isfinite action.2 = true ∧ 0 ≤ action.2 := by
  have default := And.intro numbers.default_isfinite numbers.default_nonneg
  rw [actionOf] at reads
  dsimp only at reads
  split_ifs at reads
  · rw [Except.ok.injEq] at reads
    rwa [← reads]
  · rw [Except.ok.injEq] at reads
    rwa [← reads]
  · rw [Except.ok.injEq] at reads
    rwa [← reads]
  · rw [fractionOf] at reads
    rcases number : numbers.fromChars ((field.dropWhile (· != 58)).drop 1) with _ | fraction
    · rw [number] at reads
      cases reads
    · rw [number] at reads
      dsimp only at reads
      by_cases wrong : (!numbers.isfinite fraction) = true ∨ fraction < 0
      · rw [if_pos wrong] at reads
        cases reads
      · rw [if_neg wrong] at reads
        rw [not_or, Bool.not_eq_true', Bool.not_eq_false, not_lt] at wrong
        have same : (AirwayRuleAction.kPenalize, fraction) = action := Except.ok.inj reads
        rwa [← same]

/-- An accepted filter is no wider than it is written. -/
theorem readsFilter_of_parseAirwayFilter {spec : Text} {rule : AirwayRule R}
    (accepted : parseAirwayFilter numbers spec = .ok rule) : ReadsFilter numbers spec rule := by
  rw [parseAirwayFilter] at accepted
  split_ifs at accepted
  rcases exists_of_bind_eq_ok accepted with ⟨regionItems, regions, accepted⟩
  rcases exists_of_bind_eq_ok accepted with ⟨regionPrefixes, prefixes, accepted⟩
  rcases exists_of_bind_eq_ok accepted with ⟨designatorItems, items, accepted⟩
  rcases exists_of_bind_eq_ok accepted with ⟨designators, stripped, accepted⟩
  rcases exists_of_bind_eq_ok accepted with ⟨mode, decided, accepted⟩
  rcases exists_of_bind_eq_ok accepted with ⟨action, acted, accepted⟩
  have isRule : (⟨regionPrefixes.1, designators.1, mode, action.1, action.2⟩ : AirwayRule R) = rule :=
    Except.ok.inj accepted
  have regionRead := fieldRead_of_splitCsv regions prefixes
  have designatorRead := fieldRead_of_splitCsv items stripped
  rw [← isRule]
  exact
    { filled := fun entry member => (List.mem_append.mp member).elim (regionRead.filled entry) (designatorRead.filled entry)
      anyRegion := regionRead.any
      anyDesignator := designatorRead.any
      matchMode := designatorRead.matchMode decided
      fraction := fraction_of_actionOf acted }

end Accepted

end BravoFinder
