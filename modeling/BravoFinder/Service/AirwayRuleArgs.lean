import BravoFinder.Cli.AirwayFilter
import BravoFinder.Constraints.AirwayRule
import Mathlib.Algebra.Order.Ring.Rat
import Mathlib.Tactic.NormNum

namespace BravoFinder

open AirwayFilter

/-!
# Airway rules of a request

A request gives its rules as objects, and a filter of the command line gives the
same rule as a text.
-/

variable {R : Type}

def kMaxIdListSize : Nat := 256
def kMaxIdentStringLen : Nat := 32

def kKeyAirwayRules : Text := [97, 105, 114, 119, 97, 121, 95, 114, 117, 108, 101, 115]
def kKeyRegionPrefixes : Text := [114, 101, 103, 105, 111, 110, 95, 112, 114, 101, 102, 105, 120, 101, 115]
def kKeyDesignators : Text := [100, 101, 115, 105, 103, 110, 97, 116, 111, 114, 115]
def kKeyMatch : Text := [109, 97, 116, 99, 104]
def kKeyAction : Text := [97, 99, 116, 105, 111, 110]
def kKeyPenaltyFraction : Text :=
  [112, 101, 110, 97, 108, 116, 121, 95, 102, 114, 97, 99, 116, 105, 111, 110]
def kMatchExact : Text := [101, 120, 97, 99, 116]
def kMatchPrefix : Text := [112, 114, 101, 102, 105, 120]

/-- The entries of a list, as they are written. -/
def readRuleStrings (key : Text) : List Json -> Except Text (List Text)
  | [] => .ok []
  | .string s :: rest =>
      if s.isEmpty then .error (key ++ ofString " must not contain empty strings")
      else if kMaxIdentStringLen < s.length then
        .error (key ++ ofString " entries must be at most " ++ decimal kMaxIdentStringLen ++ ofString " characters")
      else do
        let items <- readRuleStrings key rest
        return s :: items
  | _ :: _ =>
      .error (key ++ ofString " must be an array of at most " ++ decimal kMaxIdListSize ++ ofString " strings")

/-- `ParseRuleStringList`. -/
def parseRuleStringList (rule : Json) (key : Text) : Except Text (List Text) :=
  let notAList := key ++ ofString " must be an array of at most " ++ decimal kMaxIdListSize ++ ofString " strings"
  match rule.member? key with
  | none => .error (key ++ ofString " is required (use [\"*\"] for any)")
  | some (.array elements) =>
      if kMaxIdListSize < elements.length then .error notAList
      else if elements.isEmpty then .error (key ++ ofString " must not be empty (use [\"*\"] for any)")
      else do
        let items <- readRuleStrings key elements
        if items.contains [42] then
          if items.length ≠ 1 then
            .error (key ++ ofString ": \"*\" cannot be mixed with other entries; use [\"*\"] alone for any")
          else return []
        else return items.map toUpper
  | some _ => .error notAList

/-- One of two names. -/
def oneOf {A : Type} (key first second : Text) (ofFirst ofSecond absent : A) : Option Json -> Except Text A
  | none => .ok absent
  | some (.string name) =>
      if name = first then .ok ofFirst
      else if name = second then .ok ofSecond
      else .error (key ++ ofString " must be \"" ++ first ++ ofString "\" or \"" ++ second ++ ofString "\"")
  | some _ => .error (key ++ ofString " must be \"" ++ first ++ ofString "\" or \"" ++ second ++ ofString "\"")

section Parse

variable [LinearOrder R] [Zero R] (numbers : RuleNumbers R)

def parsePenaltyFraction : Option Json -> Except Text R
  | none => .ok numbers.kDefaultPenaltyFraction
  | some (.number number) =>
      let fraction := numbers.getDouble number
      if !numbers.isfinite fraction ∨ fraction < 0 then
        .error (kKeyPenaltyFraction ++ ofString " must be a finite number >= 0")
      else .ok fraction
  | some _ => .error (kKeyPenaltyFraction ++ ofString " must be a number >= 0")

/-- One entry of the rules. -/
def parseAirwayRule (rule : Json) : Except Text (AirwayRule R) :=
  if !rule.isObject then .error (ofString "each " ++ kKeyAirwayRules ++ ofString " entry must be an object")
  else do
    let regionPrefixes <- parseRuleStringList rule kKeyRegionPrefixes
    let designators <- parseRuleStringList rule kKeyDesignators
    let matchMode <- oneOf kKeyMatch kMatchExact kMatchPrefix .kExact .kPrefix .kPrefix (rule.member? kKeyMatch)
    let action <- oneOf kKeyAction kActionBlock kActionPenalize .kBlock .kPenalize .kPenalize (rule.member? kKeyAction)
    let fraction <- parsePenaltyFraction numbers (rule.member? kKeyPenaltyFraction)
    return ⟨regionPrefixes, designators, matchMode, action, fraction⟩

/-- `ParseAirwayRules`. -/
def parseAirwayRules (args : Json) : Except Text (List (AirwayRule R)) :=
  match args.member? kKeyAirwayRules with
  | none => .ok []
  | some (.array rules) =>
      if kMaxRules < rules.length then
        .error (kKeyAirwayRules ++ ofString " must hold at most " ++ decimal kMaxRules ++
          ofString " rules (one rule may list any number of regions and designators)")
      else rules.mapM (parseAirwayRule numbers)
  | some _ => .error (kKeyAirwayRules ++ ofString " must be an array of rule objects")

end Parse

/-! ## The two spellings of a rule -/

/-- An upper-case letter or a digit. -/
def IsPlainByte (c : UInt8) : Prop :=
  48 ≤ c ∧ c ≤ 57 ∨ 65 ≤ c ∧ c ≤ 90

instance (c : UInt8) : Decidable (IsPlainByte c) :=
  inferInstanceAs (Decidable (_ ∨ _))

structure IsPlainEntry (entry : Text) : Prop where
  filled : entry ≠ []
  plain : forall c, c ∈ entry -> IsPlainByte c

namespace AirwayRule

/-- A field of the command line. -/
def fieldText (entries : List Text) (mark : Text) : Text :=
  if entries = [] then [42] else [44].intercalate (entries.map (· ++ mark))

/-- The designators carry a marker when they are prefixes. -/
def mark (rule : AirwayRule R) : Text :=
  match rule.matchMode with
  | .kExact => []
  | .kPrefix => [42]

def actionText (rule : AirwayRule R) (fraction : Text) : Text :=
  match rule.action with
  | .kBlock => kActionBlock
  | .kPenalize => kActionPenalize ++ [58] ++ fraction

/-- The rule as a filter, with the text of its fraction. -/
def toFilter (rule : AirwayRule R) (fraction : Text) : Text :=
  fieldText rule.regionPrefixes [] ++ [58] ++ fieldText rule.designators rule.mark ++ [61] ++ rule.actionText fraction

def fieldJson (entries : List Text) : Json :=
  .array ((if entries = [] then [[42]] else entries).map .string)

/-- The rule as an object, with the number of its fraction. -/
def toJson (rule : AirwayRule R) (fraction : JsonNumber) : Json :=
  .object
    ([(kKeyRegionPrefixes, fieldJson rule.regionPrefixes), (kKeyDesignators, fieldJson rule.designators),
      (kKeyMatch, .string (match rule.matchMode with
        | .kExact => kMatchExact
        | .kPrefix => kMatchPrefix))] ++
      match rule.action with
      | .kBlock => [(kKeyAction, .string kActionBlock)]
      | .kPenalize => [(kKeyAction, .string kActionPenalize), (kKeyPenaltyFraction, .number fraction)])

/-- The rules apply to the same edges in the same way, among whichever other rules. -/
def SameEffect [LinearOrder R] [Zero R] [Add R] [Mul R] (first second : AirwayRule R) : Prop :=
  forall (builder : GraphBuilder R) (before after : List (AirwayRule R)) (context : EdgeContext R),
    (resolveAirwayRules builder (before ++ first :: after)).evaluate context =
      (resolveAirwayRules builder (before ++ second :: after)).evaluate context

/-- The entries are plain, and a penalty is finite and no negative number. -/
structure IsPlain [LinearOrder R] [Zero R] (numbers : RuleNumbers R) (rule : AirwayRule R) : Prop where
  regionPrefixes : forall entry, entry ∈ rule.regionPrefixes -> IsPlainEntry entry
  designators : forall entry, entry ∈ rule.designators -> IsPlainEntry entry
  fraction : rule.action = .kPenalize -> numbers.isfinite rule.penaltyFraction = true ∧ 0 ≤ rule.penaltyFraction

/-- The lists are as short as a request may have them. -/
structure IsShort (entries : List Text) : Prop where
  length : entries.length ≤ kMaxIdListSize
  entry : forall entry, entry ∈ entries -> entry.length ≤ kMaxIdentStringLen

/-- A penalty is written as the text and as the number. -/
def IsSpelled [LinearOrder R] [Zero R] (numbers : RuleNumbers R) (rule : AirwayRule R) (text : Text)
    (number : JsonNumber) : Prop :=
  rule.action = .kPenalize ->
    numbers.fromChars text = some rule.penaltyFraction ∧ numbers.getDouble number = rule.penaltyFraction

end AirwayRule

/-! ## Fields of the command line -/

theorem toUpper_of_plain {entry : Text} (plain : forall c, c ∈ entry -> ¬ (97 ≤ c ∧ c ≤ 122)) :
    toUpper entry = entry := by
  rw [toUpper]
  refine (List.map_congr_left fun c member => ?_).trans (List.map_id entry)
  exact if_neg (plain c member)

theorem IsPlainByte.not_lower {c : UInt8} (plain : IsPlainByte c) : ¬ (97 ≤ c ∧ c ≤ 122) := by
  rintro ⟨lower, -⟩
  rcases plain with ⟨-, upper⟩ | ⟨-, upper⟩
  · exact absurd (UInt8.le_trans lower upper) (by decide)
  · exact absurd (UInt8.le_trans lower upper) (by decide)

theorem IsPlainEntry.toUpper {entry : Text} (plain : IsPlainEntry entry) : toUpper entry = entry :=
  toUpper_of_plain fun c member => (plain.plain c member).not_lower

theorem IsPlainEntry.not_mem {entry : Text} {c : UInt8} (plain : IsPlainEntry entry) (other : ¬ IsPlainByte c) :
    c ∉ entry :=
  fun member => other (plain.plain c member)

theorem not_mem_intercalate {c : UInt8} (other : c ≠ 44) {entries : List Text}
    (none : forall entry, entry ∈ entries -> c ∉ entry) : c ∉ [44].intercalate entries := by
  induction entries with
  | nil => exact List.not_mem_nil
  | cons entry rest inductionHypothesis =>
      rcases rest with _ | ⟨next, others⟩
      · rw [List.intercalate_singleton]
        exact none entry List.mem_cons_self
      · rw [List.intercalate_cons_cons]
        simp only [List.mem_append, List.mem_singleton, not_or]
        exact ⟨⟨none entry List.mem_cons_self, other⟩,
          inductionHypothesis fun entry member => none entry (List.mem_cons_of_mem _ member)⟩

namespace AirwayRule

theorem not_mem_fieldText {c : UInt8} {entries : List Text} {mark : Text}
    (plain : forall entry, entry ∈ entries -> IsPlainEntry entry) (isMark : mark = [] ∨ mark = [42])
    (other : ¬ IsPlainByte c ∧ c ≠ 42 ∧ c ≠ 44) : c ∉ fieldText entries mark := by
  have notMarked : c ∉ mark := by
    rcases isMark with rfl | rfl
    · exact List.not_mem_nil
    · exact fun member => other.2.1 (List.mem_singleton.mp member)
  rw [fieldText]
  split_ifs
  · exact fun member => other.2.1 (List.mem_singleton.mp member)
  · refine not_mem_intercalate other.2.2 fun item member => ?_
    rcases List.mem_map.mp member with ⟨entry, listed, rfl⟩
    rw [List.mem_append, not_or]
    exact ⟨(plain entry listed).not_mem other.1, notMarked⟩

/-- A field is split into its marked entries. -/
theorem splitCsv_fieldText {entries : List Text} {mark : Text} (plain : forall entry, entry ∈ entries -> IsPlainEntry entry)
    (isMark : mark = [] ∨ mark = [42]) :
    splitCsv (fieldText entries mark) = .ok (if entries = [] then [[42]] else entries.map (· ++ mark)) := by
  rw [fieldText]
  by_cases any : entries = []
  · rw [if_pos any, if_pos any]
    rfl
  · have noComma : forall item, item ∈ entries.map (· ++ mark) -> (44 : UInt8) ∉ item := by
      intro item member
      rcases List.mem_map.mp member with ⟨entry, listed, rfl⟩
      rw [List.mem_append, not_or]
      refine ⟨(plain entry listed).not_mem (by decide), ?_⟩
      rcases isMark with rfl | rfl <;> decide
    have filled : ¬ (entries.map (· ++ mark)).any List.isEmpty = true := by
      intro empty
      rcases List.any_eq_true.mp empty with ⟨item, member, isEmpty⟩
      rcases List.mem_map.mp member with ⟨entry, listed, rfl⟩
      exact (plain entry listed).filled (List.append_eq_nil_iff.mp (List.isEmpty_iff.mp isEmpty)).1
    rw [if_neg any, if_neg any, splitCsv, List.splitOn_intercalate 44 noComma (by simpa using any), if_neg filled]
    congr 1
    refine (List.map_congr_left fun item member => ?_).trans (List.map_id _)
    rcases List.mem_map.mp member with ⟨entry, listed, rfl⟩
    rw [toUpper, List.map_append, ← toUpper, ← toUpper, (plain entry listed).toUpper]
    rcases isMark with rfl | rfl <;> rfl

theorem stripStars_unmarked {entries : List Text} (plain : forall entry, entry ∈ entries -> IsPlainEntry entry) :
    stripStars (entries.map (· ++ [])) = .ok (entries, 0) := by
  induction entries with
  | nil => rfl
  | cons entry rest inductionHypothesis =>
      have unmarked : ¬ entry.getLast? = some 42 := fun isLast =>
        (plain entry List.mem_cons_self).not_mem (by decide) (List.mem_of_getLast? isLast)
      rw [List.map_cons, List.append_nil, stripStars, if_neg fun lone => unmarked lone.1,
        inductionHypothesis fun entry member => plain entry (List.mem_cons_of_mem _ member)]
      exact if_neg unmarked

theorem stripStars_marked {entries : List Text} (plain : forall entry, entry ∈ entries -> IsPlainEntry entry) :
    stripStars (entries.map (· ++ [42])) = .ok (entries, entries.length) := by
  induction entries with
  | nil => rfl
  | cons entry rest inductionHypothesis =>
      have filled : ¬ entry.isEmpty = true := fun empty =>
        (plain entry List.mem_cons_self).filled (List.isEmpty_iff.mp empty)
      rw [List.map_cons, stripStars, List.dropLast_concat, if_neg fun lone => filled lone.2,
        inductionHypothesis fun entry member => plain entry (List.mem_cons_of_mem _ member)]
      exact if_pos List.getLast?_concat

/-- No field of plain entries is a lone marker. -/
theorem map_mark_ne_star {entries : List Text} {mark : Text} (plain : forall entry, entry ∈ entries -> IsPlainEntry entry) :
    entries.map (· ++ mark) ≠ [[42]] := by
  intro lone
  rcases List.map_eq_singleton_iff.mp lone with ⟨entry, rfl, isStar⟩
  have ofEntry := plain entry (List.mem_singleton_self _)
  rcases entry with _ | ⟨c, others⟩
  · exact ofEntry.filled rfl
  · rw [List.cons_append, List.cons.injEq] at isStar
    refine ofEntry.not_mem (c := 42) (by decide) ?_
    rw [isStar.1]
    exact List.mem_cons_self

theorem stripStarMarkers_regions {entries : List Text} (plain : forall entry, entry ∈ entries -> IsPlainEntry entry) :
    stripStarMarkers (if entries = [] then [[42]] else entries.map (· ++ [])) = .ok (entries, 0) := by
  split_ifs with any
  · rw [any]
    rfl
  · rw [stripStarMarkers, if_neg (map_mark_ne_star plain), stripStars_unmarked plain]

/-- The mode that the markers of the designators tell. -/
theorem stripStarMarkers_designators (rule : AirwayRule R)
    (plain : forall entry, entry ∈ rule.designators -> IsPlainEntry entry) :
    exists starred, stripStarMarkers (if rule.designators = [] then [[42]] else rule.designators.map (· ++ rule.mark)) =
        .ok (rule.designators, starred) ∧
      matchModeOf rule.designators starred = .ok (if rule.designators = [] then .kPrefix else rule.matchMode) := by
  by_cases any : rule.designators = []
  · rw [if_pos any, if_pos any, any]
    exact ⟨0, rfl, rfl⟩
  · have filled : ¬ rule.designators.isEmpty = true := fun empty => any (List.isEmpty_iff.mp empty)
    rw [if_neg any, if_neg any, stripStarMarkers, if_neg (map_mark_ne_star plain)]
    rcases mode : rule.matchMode with _ | _
    · rw [mark, mode]
      exact ⟨0, stripStars_unmarked plain, by rw [matchModeOf, if_neg filled, if_pos rfl]⟩
    · rw [mark, mode]
      refine ⟨rule.designators.length, stripStars_marked plain, ?_⟩
      rw [matchModeOf, if_neg filled, if_neg fun none => any (List.length_eq_zero_iff.mp none), if_pos rfl]

end AirwayRule

/-! ## Cutting a filter -/

theorem takeWhile_append_separator {front rest : Text} {c : UInt8} (none : c ∉ front) :
    (front ++ [c] ++ rest).takeWhile (· != c) = front := by
  rw [List.append_assoc, List.takeWhile_append_of_pos]
  · rw [List.singleton_append, List.takeWhile_cons_of_neg (by simp), List.append_nil]
  · intro other member
    rw [bne_iff_ne]
    exact fun same => none (same ▸ member)

theorem drop_dropWhile_separator {front rest : Text} {c : UInt8} (none : c ∉ front) :
    ((front ++ [c] ++ rest).dropWhile (· != c)).drop 1 = rest := by
  rw [List.append_assoc, List.dropWhile_append_of_pos]
  · rw [List.singleton_append, List.dropWhile_cons_of_neg (by simp)]
    rfl
  · intro other member
    rw [bne_iff_ne]
    exact fun same => none (same ▸ member)

namespace AirwayRule

theorem isEmpty_fieldText {entries : List Text} {mark : Text} (plain : forall entry, entry ∈ entries -> IsPlainEntry entry) :
    (fieldText entries mark).isEmpty = false := by
  rw [fieldText, List.isEmpty_eq_false_iff]
  split_ifs with any
  · exact List.cons_ne_nil _ _
  · rcases entries with _ | ⟨entry, rest⟩
    · exact absurd rfl any
    · have filled : entry ++ mark ≠ [] := List.append_ne_nil_of_left_ne_nil (plain entry List.mem_cons_self).filled _
      rw [List.map_cons]
      rcases rest.map (· ++ mark) with _ | ⟨next, others⟩
      · rwa [List.intercalate_singleton]
      · rw [List.intercalate_cons_cons, List.append_assoc]
        exact List.append_ne_nil_of_left_ne_nil filled _

section Filter

variable [LinearOrder R] [Zero R] {numbers : RuleNumbers R} {rule : AirwayRule R} {text : Text} {number : JsonNumber}

/-- The fraction that is read, which a blocking rule does not give. -/
def readFraction (numbers : RuleNumbers R) (rule : AirwayRule R) : R :=
  match rule.action with
  | .kBlock => numbers.kDefaultPenaltyFraction
  | .kPenalize => rule.penaltyFraction

/-- The rule that is read. -/
def readRule (numbers : RuleNumbers R) (rule : AirwayRule R) (mode : AirwayRuleMatch) : AirwayRule R :=
  ⟨rule.regionPrefixes, rule.designators, mode, rule.action, readFraction numbers rule⟩

theorem actionOf_actionText (plain : rule.IsPlain numbers) (spelled : rule.IsSpelled numbers text number) :
    actionOf numbers (rule.actionText text) = .ok (rule.action, readFraction numbers rule) := by
  rw [actionText, readFraction]
  rcases action : rule.action with _ | _
  · rcases spelled action with ⟨reads, -⟩
    rcases plain.fraction action with ⟨finite, nonneg⟩
    have given : ¬ text.isEmpty = true := by
      intro empty
      rw [List.isEmpty_iff.mp empty, numbers.fromChars_nil] at reads
      cases reads
    have right : ¬ ((!numbers.isfinite rule.penaltyFraction) = true ∨ rule.penaltyFraction < 0) := by
      rw [finite, not_or, not_lt]
      exact ⟨Bool.false_ne_true, nonneg⟩
    have noColon : (58 : UInt8) ∉ kActionPenalize := by decide
    have named : ¬ (kActionPenalize ++ [58] ++ text).isEmpty = true := Bool.false_ne_true
    rw [actionOf]
    dsimp only
    rw [takeWhile_append_separator noColon, drop_dropWhile_separator noColon, if_neg named, if_neg (by decide),
      if_neg (by decide), if_neg given, fractionOf, reads]
    dsimp only
    rw [if_neg right]
    rfl
  · rfl

/-- The filter of a rule is accepted. -/
theorem parseAirwayFilter_toFilter (plain : rule.IsPlain numbers) (spelled : rule.IsSpelled numbers text number) :
    parseAirwayFilter numbers (rule.toFilter text) =
      .ok (readRule numbers rule (if rule.designators = [] then .kPrefix else rule.matchMode)) := by
  have isMark : rule.mark = [] ∨ rule.mark = [42] := by
    rw [mark]
    cases rule.matchMode
    exacts [.inl rfl, .inr rfl]
  have noColon := not_mem_fieldText (c := 58) plain.regionPrefixes (.inl rfl) (by decide)
  have noEquals := not_mem_fieldText (c := 61) plain.designators isMark (by decide)
  have parts : rule.toFilter text = fieldText rule.regionPrefixes [] ++ [58] ++
      (fieldText rule.designators rule.mark ++ [61] ++ rule.actionText text) := by
    rw [toFilter]
    simp only [List.append_assoc]
  have hasColon : (rule.toFilter text).contains 58 = true := by
    rw [parts, List.contains_iff_mem]
    exact List.mem_append_left _ (List.mem_append_right _ (List.mem_singleton_self _))
  have regions : regionsField (rule.toFilter text) = fieldText rule.regionPrefixes [] := by
    rw [regionsField, parts, takeWhile_append_separator noColon]
  have others : AirwayFilter.rest (rule.toFilter text) =
      fieldText rule.designators rule.mark ++ [61] ++ rule.actionText text := by
    rw [AirwayFilter.rest, parts, drop_dropWhile_separator noColon]
  have designators : designatorsField (rule.toFilter text) = fieldText rule.designators rule.mark := by
    rw [designatorsField, others, takeWhile_append_separator noEquals]
  have action : actionField (rule.toFilter text) = rule.actionText text := by
    rw [actionField, others, drop_dropWhile_separator noEquals]
  rcases rule.stripStarMarkers_designators plain.designators with ⟨starred, strips, decided⟩
  rw [parseAirwayFilter, hasColon, regions, designators, action, isEmpty_fieldText plain.regionPrefixes,
    isEmpty_fieldText plain.designators, if_neg (by decide), if_neg (by decide),
    splitCsv_fieldText plain.regionPrefixes (.inl rfl), splitCsv_fieldText plain.designators isMark]
  dsimp only [bind, Except.bind]
  rw [stripStarMarkers_regions plain.regionPrefixes, strips]
  dsimp only
  rw [decided, actionOf_actionText plain spelled]
  rfl

end Filter

/-! ## Objects -/

section Object

variable [LinearOrder R] [Zero R] {numbers : RuleNumbers R} {rule : AirwayRule R} {text : Text} {number : JsonNumber}

theorem readRuleStrings_map {key : Text} {entries : List Text} (filled : forall entry, entry ∈ entries -> entry ≠ [])
    (short : forall entry, entry ∈ entries -> entry.length ≤ kMaxIdentStringLen) :
    readRuleStrings key (entries.map .string) = .ok entries := by
  induction entries with
  | nil => rfl
  | cons entry rest inductionHypothesis =>
      have notEmpty : ¬ entry.isEmpty = true := fun empty =>
        filled entry List.mem_cons_self (List.isEmpty_iff.mp empty)
      rw [List.map_cons, readRuleStrings, if_neg notEmpty,
        if_neg (Nat.not_lt.mpr (short entry List.mem_cons_self)),
        inductionHypothesis (fun entry member => filled entry (List.mem_cons_of_mem _ member))
          fun entry member => short entry (List.mem_cons_of_mem _ member)]
      rfl

/-- A list of an object is read as its entries. -/
theorem parseRuleStringList_fieldJson {object : Json} {key : Text} {entries : List Text}
    (isField : object.member? key = some (fieldJson entries))
    (plain : forall entry, entry ∈ entries -> IsPlainEntry entry) (short : IsShort entries) :
    parseRuleStringList object key = .ok entries := by
  rw [parseRuleStringList, isField, fieldJson]
  dsimp only
  by_cases any : entries = []
  · rw [if_pos any, any]
    rfl
  · have notEmpty : ¬ (entries.map Json.string).isEmpty = true := by
      rw [List.isEmpty_map]
      exact fun empty => any (List.isEmpty_iff.mp empty)
    have noStar : ¬ entries.contains [42] = true := by
      rw [List.contains_iff_mem]
      exact fun listed => (plain [42] listed).not_mem (c := 42) (by decide) List.mem_cons_self
    rw [if_neg any, List.length_map, if_neg (Nat.not_lt.mpr short.length), if_neg notEmpty,
      readRuleStrings_map (fun entry listed => (plain entry listed).filled) short.entry]
    dsimp only [bind, Except.bind, pure, Except.pure]
    rw [if_neg noStar]
    congr 1
    exact (List.map_congr_left fun entry listed => (plain entry listed).toUpper).trans (List.map_id _)

/-- The object of a rule is accepted. -/
theorem parseAirwayRule_toJson (plain : rule.IsPlain numbers) (shortRegions : IsShort rule.regionPrefixes)
    (shortDesignators : IsShort rule.designators) (spelled : rule.IsSpelled numbers text number) :
    parseAirwayRule numbers (rule.toJson number) = .ok (readRule numbers rule rule.matchMode) := by
  have regionsField : (rule.toJson number).member? kKeyRegionPrefixes = some (fieldJson rule.regionPrefixes) := rfl
  have regions := parseRuleStringList_fieldJson regionsField plain.regionPrefixes shortRegions
  have designatorsField : (rule.toJson number).member? kKeyDesignators = some (fieldJson rule.designators) := rfl
  have designators := parseRuleStringList_fieldJson designatorsField plain.designators shortDesignators
  have mode : oneOf kKeyMatch kMatchExact kMatchPrefix .kExact .kPrefix .kPrefix ((rule.toJson number).member? kKeyMatch) =
      .ok rule.matchMode := by
    have isMember : (rule.toJson number).member? kKeyMatch = some (.string (match rule.matchMode with
        | .kExact => kMatchExact
        | .kPrefix => kMatchPrefix)) := rfl
    rw [isMember]
    cases rule.matchMode <;> rfl
  have action : oneOf kKeyAction kActionBlock kActionPenalize .kBlock .kPenalize .kPenalize
      ((rule.toJson number).member? kKeyAction) = .ok rule.action := by
    rw [toJson]
    cases rule.action <;> rfl
  have fraction : parsePenaltyFraction numbers ((rule.toJson number).member? kKeyPenaltyFraction) =
      .ok (readFraction numbers rule) := by
    rw [toJson, readFraction]
    rcases isAction : rule.action with _ | _
    · rcases plain.fraction isAction with ⟨finite, nonneg⟩
      have right : ¬ ((!numbers.isfinite rule.penaltyFraction) = true ∨ rule.penaltyFraction < 0) := by
        rw [finite, not_or, not_lt]
        exact ⟨Bool.false_ne_true, nonneg⟩
      have reads : parsePenaltyFraction numbers (some (.number number)) = .ok rule.penaltyFraction := by
        rw [parsePenaltyFraction, (spelled isAction).2]
        exact if_neg right
      exact reads
    · rfl
  have isObject : ¬ (!(rule.toJson number).isObject) = true := Bool.false_ne_true
  rw [parseAirwayRule, if_neg isObject, regions, designators, mode, action, fraction]
  rfl

end Object

/-! ## Effect -/

section Effect

/-- A rule among others may be replaced by one that applies where it does. -/
theorem setRuleBits_replace {applies : AirwayRule R -> Bool} {first second : AirwayRule R}
    (same : applies first = applies second) (before after : List (AirwayRule R)) (i : Nat) (mask : BitVec 32) :
    setRuleBits applies i (before ++ first :: after) mask = setRuleBits applies i (before ++ second :: after) mask := by
  induction before generalizing i mask with
  | nil => rw [List.nil_append, List.nil_append, setRuleBits, setRuleBits, same]
  | cons rule before inductionHypothesis =>
      rw [List.cons_append, List.cons_append, setRuleBits, setRuleBits, inductionHypothesis]

variable [LinearOrder R] [Zero R] [Add R] [Mul R] {numbers : RuleNumbers R} {rule : AirwayRule R}

/-- The rule that is read has the effect of the rule. -/
theorem sameEffect_readRule {mode : AirwayRuleMatch} (sameMode : rule.designators = [] ∨ mode = rule.matchMode) :
    SameEffect (readRule numbers rule mode) rule := by
  intro builder before after context
  have regions (region : Text) : regionMask (before ++ readRule numbers rule mode :: after) region =
      regionMask (before ++ rule :: after) region := by
    refine setRuleBits_replace ?_ before after 0 0
    rfl
  have designators (name : Text) : designatorMask (before ++ readRule numbers rule mode :: after) name =
      designatorMask (before ++ rule :: after) name := by
    rw [designatorMask, designatorMask]
    congr 1
    funext mask designator
    refine setRuleBits_replace ?_ before after 0 mask
    rcases sameMode with any | same
    · rw [readRule, any]
      rfl
    · rw [readRule, same]
  have blocks : setRuleBits (fun rule : AirwayRule R => decide (rule.action = .kBlock)) 0
      (before ++ readRule numbers rule mode :: after) 0 =
        setRuleBits (fun rule => decide (rule.action = .kBlock)) 0 (before ++ rule :: after) 0 := by
    refine setRuleBits_replace ?_ before after 0 0
    rfl
  have fraction : ruleFraction (readRule numbers rule mode) = ruleFraction rule := by
    rw [ruleFraction, ruleFraction, readRule, readFraction]
    cases rule.action <;> rfl
  have resolved : resolveAirwayRules builder (before ++ readRule numbers rule mode :: after) =
      resolveAirwayRules builder (before ++ rule :: after) := by
    rw [resolveAirwayRules, resolveAirwayRules, vertexMasks_eq _ _ _ (fun _ _ none => by cases none),
      vertexMasks_eq _ _ _ (fun _ _ none => by cases none), funext regions, List.map_append, List.map_append,
      List.map_cons, List.map_cons, fraction, blocks]
    congr 1
    rcases builder.airwayNames with _ | ⟨dct, names⟩
    · rfl
    · rw [airwayMasks, airwayMasks, funext designators]
  rw [resolved]

end Effect

end AirwayRule

/-- An accepted filter is no wider than it is written, and both spellings of a rule are
accepted and have its effect, if its lists are as short as a request may have them. -/
theorem airway_filters [LinearOrder R] [Zero R] [Add R] [Mul R] (numbers : RuleNumbers R) :
    (forall spec rule, parseAirwayFilter numbers spec = .ok rule -> ReadsFilter numbers spec rule) ∧
      forall (rule : AirwayRule R) text number, rule.IsPlain numbers -> rule.IsSpelled numbers text number ->
        AirwayRule.IsShort rule.regionPrefixes -> AirwayRule.IsShort rule.designators ->
          exists first second, parseAirwayFilter numbers (rule.toFilter text) = .ok first ∧
            parseAirwayRules numbers (.object [(kKeyAirwayRules, .array [rule.toJson number])]) = .ok [second] ∧
              first.SameEffect rule ∧ second.SameEffect rule ∧ first.SameEffect second := by
  refine ⟨fun spec rule => readsFilter_of_parseAirwayFilter, ?_⟩
  intro rule text number plain spelled shortRegions shortDesignators
  have firstEffect : (AirwayRule.readRule numbers rule
      (if rule.designators = [] then .kPrefix else rule.matchMode)).SameEffect rule := by
    refine AirwayRule.sameEffect_readRule ?_
    split_ifs with any
    exacts [.inl any, .inr rfl]
  have secondEffect : (AirwayRule.readRule numbers rule rule.matchMode).SameEffect rule :=
    AirwayRule.sameEffect_readRule (.inr rfl)
  refine ⟨_, _, AirwayRule.parseAirwayFilter_toFilter plain spelled, ?_, firstEffect, secondEffect,
    fun builder before after context =>
      (firstEffect builder before after context).trans (secondEffect builder before after context).symm⟩
  have rules : (Json.object [(kKeyAirwayRules, .array [rule.toJson number])]).member? kKeyAirwayRules =
      some (.array [rule.toJson number]) := rfl
  rw [parseAirwayRules, rules]
  dsimp only
  have few : ¬ kMaxRules < [rule.toJson number].length := Nat.not_lt.mpr (Nat.le_of_ble_eq_true rfl)
  rw [if_neg few, List.mapM_cons, AirwayRule.parseAirwayRule_toJson plain shortRegions shortDesignators spelled]
  rfl

theorem half_nonneg : (0 : ℚ) ≤ 1 / 2 := by
  norm_num

/-- Fractions of one digit. -/
def digitNumbers : RuleNumbers ℚ where
  fromChars text :=
    match text with
    | [c] => if 48 ≤ c ∧ c ≤ 57 then some ((c.toNat - 48 : Nat) : ℚ) else none
    | _ => none
  getDouble number :=
    match number with
    | .int value => value
    | .double _ => 0
  isfinite _ := true
  kDefaultPenaltyFraction := 1 / 2
  fromChars_nil := rfl
  default_isfinite := rfl
  default_nonneg := half_nonneg

/-- All airways of the regions that start with `Z`, at twice their length. -/
def doubleRule : AirwayRule ℚ := ⟨[[90]], [], .kExact, .kPenalize, 1⟩

theorem doubleRule_isPlain : doubleRule.IsPlain digitNumbers where
  regionPrefixes entry member := by
    rw [List.mem_singleton.mp member]
    refine ⟨List.cons_ne_nil _ _, fun c inEntry => ?_⟩
    rw [List.mem_singleton.mp inEntry]
    decide
  designators entry member := absurd member List.not_mem_nil
  fraction _ := ⟨rfl, zero_le_one⟩

theorem airway_filters_doubleRule :
    exists first second, parseAirwayFilter digitNumbers (doubleRule.toFilter [49]) = .ok first ∧
      parseAirwayRules digitNumbers (.object [(kKeyAirwayRules, .array [doubleRule.toJson (.int 1)])]) = .ok [second] ∧
        ReadsFilter digitNumbers (doubleRule.toFilter [49]) first ∧ first.SameEffect second := by
  rcases airway_filters digitNumbers with ⟨reads, agree⟩
  have spelled : doubleRule.IsSpelled digitNumbers [49] (.int 1) := fun _ =>
    ⟨congrArg some Nat.cast_one, Int.cast_one⟩
  have shortRegions : AirwayRule.IsShort doubleRule.regionPrefixes := ⟨by decide, by decide⟩
  have shortDesignators : AirwayRule.IsShort doubleRule.designators := ⟨by decide, by decide⟩
  rcases agree doubleRule [49] (.int 1) doubleRule_isPlain spelled shortRegions shortDesignators with
    ⟨first, second, filter, request, -, -, same⟩
  exact ⟨first, second, filter, request, reads _ _ filter, same⟩

/-- All airways, by a name longer than a request may have. -/
def longRule : AirwayRule ℚ := ⟨[], [List.replicate 33 65], .kExact, .kBlock, 0⟩

/-- A request may not have a rule that a filter may. -/
theorem not_both_accepted :
    ¬ forall (rule : AirwayRule ℚ) text number, rule.IsPlain digitNumbers -> rule.IsSpelled digitNumbers text number ->
      exists first second, parseAirwayFilter digitNumbers (rule.toFilter text) = .ok first ∧
        parseAirwayRules digitNumbers (.object [(kKeyAirwayRules, .array [rule.toJson number])]) = .ok [second] ∧
          first.SameEffect second := by
  intro both
  have plain : longRule.IsPlain digitNumbers := by
    refine ⟨fun entry member => absurd member List.not_mem_nil, fun entry member => ?_, fun penalize => ?_⟩
    · rw [List.mem_singleton.mp member]
      refine ⟨List.cons_ne_nil _ _, fun c inEntry => ?_⟩
      rw [List.eq_of_mem_replicate inEntry]
      decide
    · cases penalize
  have spelled : longRule.IsSpelled digitNumbers [] (.int 0) := fun penalize => nomatch penalize
  rcases both longRule [] (.int 0) plain spelled with ⟨first, second, -, request, -⟩
  cases request

end BravoFinder
