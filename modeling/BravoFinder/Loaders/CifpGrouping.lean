import BravoFinder.Loaders.CifpParser

namespace BravoFinder
namespace Cifp

/-!
# The procedures of CIFP rows

A run of rows with one key makes a procedure of the rows that are accepted, if
there are any.
-/

/-- The line has the tag and the length of a leg. -/
def IsLegLine (raw : Text) : Prop :=
  (exists tag, tagOf raw = some tag ∧ (tag = kSidToken ∨ tag = kStarToken ∨ tag = kAppchToken)) ∧
    kMinLegFields ≤ ((raw.takeWhile (· != 59)).splitOn 44).length

theorem legRow_isSome {raw : Text} : (legRow raw).isSome = true ↔ IsLegLine raw := by
  rw [legRow]
  constructor
  · intro isRow
    rcases tagged : (tagOf raw).bind typeFromTag with _ | type
    · rw [tagged] at isRow
      exact absurd isRow Bool.false_ne_true
    · rw [tagged] at isRow
      rcases Option.bind_eq_some_iff.mp tagged with ⟨tag, isTag, named⟩
      refine ⟨⟨tag, isTag, ?_⟩, ?_⟩
      · rw [typeFromTag] at named
        split_ifs at named with sid star appch
        exacts [.inl sid, .inr (.inl star), .inr (.inr appch)]
      · by_contra short
        dsimp only at isRow
        rw [if_pos (Nat.lt_of_not_le short)] at isRow
        exact Bool.false_ne_true isRow
  · rintro ⟨⟨tag, isTag, named⟩, long⟩
    rw [isTag, Option.bind_some]
    rcases named with rfl | rfl | rfl <;>
      · dsimp only [typeFromTag]
        refine congrArg Option.isSome (if_neg (Nat.not_lt.mpr long))

instance (raw : Text) : Decidable (IsLegLine raw) :=
  decidable_of_iff _ legRow_isSome

theorem legRow_eq_none {raw : Text} (other : ¬ IsLegLine raw) : legRow raw = none := by
  rwa [← Option.not_isSome_iff_eq_none, legRow_isSome]

theorem legRow_runway {raw : Text} (isRunway : tagOf raw = some kRunwayTag) : legRow raw = none := by
  rw [legRow, isRunway]
  rfl

/-- The fix of a row is within the caps of an identifier. -/
def LegRow.FixFits (row : LegRow) : Prop :=
  (fieldStr row.fields kFixIdent).length ≤ FixedIdent.kIdentCap ∧
    (fieldStr row.fields kFixRegion).length ≤ FixedIdent.kArinc424IcaoCodeCap

theorem decodeLeg_isSome {conversions : Conversions} {locate : Option FixLocator} {row : LegRow} :
    (decodeLeg conversions locate row).isSome = true ↔ row.FixFits := by
  rw [decodeLeg, FixedIdent.fromParts]
  dsimp only
  by_cases identFits : (fieldStr row.fields kFixIdent).length ≤ 7
  · by_cases codeFits : (fieldStr row.fields kFixRegion).length ≤ 3
    · rw [dif_pos identFits, dif_pos codeFits]
      exact iff_of_true rfl ⟨identFits, codeFits⟩
    · rw [dif_pos identFits, dif_neg codeFits]
      exact iff_of_false Bool.false_ne_true fun fits => codeFits fits.2
  · rw [dif_neg identFits]
    exact iff_of_false Bool.false_ne_true fun fits => identFits fits.1

/-- The number of its procedure, for each leg. -/
def legOwners (procedures : List Procedure) : List Nat :=
  procedures.zipIdx.flatMap fun entry => entry.1.legs.map fun _ => entry.2

theorem length_flatMap_zipIdx (procedures : List Procedure) (start : Nat) :
    ((procedures.zipIdx start).flatMap fun entry => entry.1.legs.map fun _ => entry.2).length =
      (procedures.flatMap Procedure.legs).length := by
  induction procedures generalizing start with
  | nil => rfl
  | cons procedure rest inductionHypothesis =>
      rw [List.zipIdx_cons, List.flatMap_cons, List.flatMap_cons, List.length_append, List.length_append,
        List.length_map, inductionHypothesis]

/-- The legs of a procedure have its number. -/
theorem legOwners_append_cons (before : List Procedure) (procedure : Procedure) (after : List Procedure) {j : Nat}
    (within : j < procedure.legs.length) :
    (legOwners (before ++ procedure :: after))[(before.flatMap Procedure.legs).length + j]? = some before.length := by
  rw [legOwners, List.zipIdx_append, List.flatMap_append, Nat.zero_add,
    List.getElem?_append_right (by rw [length_flatMap_zipIdx]; exact Nat.le_add_right _ _), length_flatMap_zipIdx,
    Nat.add_sub_cancel_left, List.zipIdx_cons, List.flatMap_cons,
    List.getElem?_append_left (by rwa [List.length_map]), List.getElem?_map, List.getElem?_eq_getElem within]
  rfl

section Grouping

variable (conversions : Conversions) (locate : Option FixLocator)

/-- The legs of the rows that are accepted. -/
def accepted (rows : List LegRow) : List ProcedureLeg :=
  rows.filterMap (decodeLeg conversions locate)

/-- The procedure of a run. -/
def procedureOf (group : ProcKey × List LegRow) : Procedure :=
  { startProcedure group.1 with legs := accepted conversions locate group.2 }

def proceduresOf (groups : List (ProcKey × List LegRow)) : List Procedure :=
  (groups.map (procedureOf conversions locate)).filter fun procedure => !procedure.legs.isEmpty

/-- What a list of procedures is to the rows of legs it was read from. -/
structure Partitions (rows : List LegRow) (procedures : List Procedure) : Prop where
  legs : procedures.flatMap Procedure.legs = accepted conversions locate rows
  filled : forall procedure, procedure ∈ procedures -> procedure.legs ≠ []
  /-- The leg of a row is in a procedure with the key of the row. -/
  keyed : forall front row rest, rows = front ++ row :: rest -> (decodeLeg conversions locate row).isSome = true ->
    exists number procedure, (legOwners procedures)[(accepted conversions locate front).length]? = some number ∧
      procedures[number]? = some procedure ∧ ProcKey.ofProcedure procedure = row.key
  /-- Two legs are in one procedure exactly if all rows from one to the other have one key. -/
  together : forall front first middle last rest, rows = front ++ first :: (middle ++ last :: rest) ->
    (decodeLeg conversions locate first).isSome = true -> (decodeLeg conversions locate last).isSome = true ->
      ((legOwners procedures)[(accepted conversions locate front).length]? =
          (legOwners procedures)[(accepted conversions locate (front ++ first :: middle)).length]? ↔
        forall row, row ∈ middle ++ [last] -> row.key = first.key)

variable {conversions locate}

theorem accepted_append (front rest : List LegRow) :
    accepted conversions locate (front ++ rest) = accepted conversions locate front ++ accepted conversions locate rest :=
  List.filterMap_append

theorem length_accepted_cons {row : LegRow} (decodes : (decodeLeg conversions locate row).isSome = true)
    (rest : List LegRow) :
    (accepted conversions locate (row :: rest)).length = (accepted conversions locate rest).length + 1 := by
  rcases Option.isSome_iff_exists.mp decodes with ⟨leg, isLeg⟩
  rw [accepted, List.filterMap_cons_some isLeg]
  rfl

theorem proceduresOf_append (front rest : List (ProcKey × List LegRow)) :
    proceduresOf conversions locate (front ++ rest) =
      proceduresOf conversions locate front ++ proceduresOf conversions locate rest := by
  rw [proceduresOf, List.map_append, List.filter_append]
  rfl

/-- A run with an accepted row makes a procedure. -/
theorem proceduresOf_cons {name : ProcKey} {before after : List LegRow} {row : LegRow}
    (decodes : (decodeLeg conversions locate row).isSome = true) (rest : List (ProcKey × List LegRow)) :
    proceduresOf conversions locate ((name, before ++ row :: after) :: rest) =
      procedureOf conversions locate (name, before ++ row :: after) :: proceduresOf conversions locate rest := by
  have filled : accepted conversions locate (before ++ row :: after) ≠ [] := by
    intro empty
    have length := congrArg List.length empty
    rw [accepted_append, List.length_append, length_accepted_cons decodes, List.length_nil] at length
    omega
  refine List.filter_cons_of_pos ?_
  rw [Bool.not_eq_true', List.isEmpty_eq_false_iff]
  exact filled

theorem legs_proceduresOf (groups : List (ProcKey × List LegRow)) :
    (proceduresOf conversions locate groups).flatMap Procedure.legs =
      accepted conversions locate (groups.flatMap Prod.snd) := by
  induction groups with
  | nil => rfl
  | cons group rest inductionHypothesis =>
      rw [List.flatMap_cons, accepted_append, ← inductionHypothesis]
      rcases legs : accepted conversions locate group.2 with _ | ⟨leg, others⟩
      · have dropped : proceduresOf conversions locate (group :: rest) = proceduresOf conversions locate rest :=
          List.filter_cons_of_neg (by rw [procedureOf, legs]; exact Bool.false_ne_true)
        rw [dropped]
        rfl
      · have kept : proceduresOf conversions locate (group :: rest) =
            procedureOf conversions locate group :: proceduresOf conversions locate rest :=
          List.filter_cons_of_pos (by rw [procedureOf, legs]; rfl)
        rw [kept, List.flatMap_cons, procedureOf, legs]

/-- The owner of the leg of an accepted row. -/
theorem legOwners_proceduresOf (earlier later : List (ProcKey × List LegRow)) (name : ProcKey)
    (before after : List LegRow) {row : LegRow} (decodes : (decodeLeg conversions locate row).isSome = true) :
    (legOwners (proceduresOf conversions locate (earlier ++ (name, before ++ row :: after) :: later)))[
        (accepted conversions locate (earlier.flatMap Prod.snd ++ before)).length]? =
      some (proceduresOf conversions locate earlier).length := by
  rw [proceduresOf_append, proceduresOf_cons decodes, accepted_append, List.length_append, ← legs_proceduresOf]
  refine legOwners_append_cons _ _ _ ?_
  rw [procedureOf, accepted_append, List.length_append, length_accepted_cons decodes]
  omega

/-- The procedures of the runs partition the rows. -/
theorem partitions_proceduresOf {rows : List LegRow} {groups : List (ProcKey × List LegRow)}
    (areRuns : KeyRuns.AreRuns LegRow.key rows groups) :
    Partitions conversions locate rows (proceduresOf conversions locate groups) := by
  constructor
  case legs => rw [legs_proceduresOf, areRuns.flatten]
  case filled =>
    intro procedure member empty
    have kept := (List.mem_filter.mp member).2
    rw [empty] at kept
    exact Bool.false_ne_true kept
  case keyed =>
    intro front row rest whole decodes
    rcases KeyRuns.exists_of_flatMap_eq (areRuns.flatten.trans whole) with
      ⟨earlier, name, before, after, later, parts, frontEq, -⟩
    refine ⟨_, procedureOf conversions locate (name, before ++ row :: after), by
      rw [parts, frontEq, legOwners_proceduresOf _ _ _ _ _ decodes], ?_, ?_⟩
    · rw [parts, proceduresOf_append, proceduresOf_cons decodes, List.getElem?_append_right (Nat.le_refl _),
        Nat.sub_self]
      rfl
    · refine Eq.symm (areRuns.keyed (name, before ++ row :: after) ?_ row ?_)
      · rw [parts]
        exact List.mem_append_right _ List.mem_cons_self
      · exact List.mem_append_right _ List.mem_cons_self
  case together =>
    intro front first middle last rest whole firstDecodes lastDecodes
    rcases areRuns.same_or_other whole with ⟨⟨earlier, name, before, after, later, parts, frontEq⟩, same⟩ |
      ⟨⟨earlier, name, before, after, between, other, start, ending, later, parts, frontEq, middleEq⟩, differs⟩
    · refine iff_of_true ?_ same
      have lastOwner := legOwners_proceduresOf earlier later name (before ++ first :: middle) after lastDecodes
      rw [List.append_assoc before, List.cons_append, ← List.append_assoc] at lastOwner
      rw [parts, frontEq, legOwners_proceduresOf _ _ _ _ _ firstDecodes, lastOwner]
    · rcases differs with ⟨row, member, differs⟩
      refine iff_of_false (fun alike => ?_) fun same => differs (same row member)
      have again : earlier ++ (name, before ++ first :: after) :: (between ++ (other, start ++ last :: ending) :: later) =
          (earlier ++ (name, before ++ first :: after) :: between) ++ (other, start ++ last :: ending) :: later := by
        rw [List.append_assoc, List.cons_append]
      have upTo : front ++ first :: middle =
          (earlier ++ (name, before ++ first :: after) :: between).flatMap Prod.snd ++ start := by
        rw [frontEq, middleEq, List.flatMap_append, List.flatMap_cons]
        simp only [List.append_assoc, List.cons_append]
      have firstOwner := legOwners_proceduresOf earlier (between ++ (other, start ++ last :: ending) :: later) name before
        after firstDecodes
      rw [upTo, parts, frontEq, firstOwner, again, legOwners_proceduresOf _ _ _ _ _ lastDecodes, Option.some.injEq,
        proceduresOf_append, proceduresOf_cons firstDecodes, List.length_append, List.length_cons] at alike
      omega

/-! ## The loop -/

/-- What the loop has after some runs. -/
structure Grouped (conversions : Conversions) (locate : Option FixLocator) (groups : List (ProcKey × List LegRow))
    (scan : LineScan) : Prop where
  procedures : scan.data.procedures = proceduresOf conversions locate groups.dropLast
  current : scan.current = groups.getLast?.map fun group => (group.1, procedureOf conversions locate group)

theorem Grouped.flush {groups : List (ProcKey × List LegRow)} {scan : LineScan}
    (grouped : Grouped conversions locate groups scan) : scan.flush = proceduresOf conversions locate groups := by
  rw [LineScan.flush, grouped.procedures, grouped.current]
  rcases List.eq_nil_or_concat groups with rfl | ⟨front, last, rfl⟩
  · rfl
  · rw [List.concat_eq_append, List.dropLast_concat, List.getLast?_concat, proceduresOf_append]
    rfl

/-- A row extends the last run or starts one, as the loop does. -/
theorem Grouped.takeRow {rows : List LegRow} {scan : LineScan} (row : LegRow)
    (grouped : Grouped conversions locate (KeyRuns.runs LegRow.key rows) scan) :
    Grouped conversions locate (KeyRuns.runs LegRow.key (rows ++ [row])) (scan.takeRow conversions locate row) := by
  have legs (group : List LegRow) : accepted conversions locate group ++ (decodeLeg conversions locate row).toList =
      accepted conversions locate (group ++ [row]) := by
    rw [accepted_append]
    rcases decoded : decodeLeg conversions locate row with _ | leg <;>
      simp only [accepted, List.filterMap_cons, List.filterMap_nil, decoded] <;> rfl
  rcases KeyRuns.runs_append LegRow.key rows row with ⟨front, group, before, after⟩ | ⟨other, after⟩
  · have current : scan.current = some (row.key, procedureOf conversions locate (row.key, group)) := by
      rw [grouped.current, before, List.getLast?_concat]
      rfl
    rw [after]
    constructor
    case procedures =>
      rw [LineScan.takeRow, current]
      dsimp only
      rw [if_pos rfl, grouped.procedures, before, List.dropLast_concat, List.dropLast_concat]
    case current =>
      rw [LineScan.takeRow, current]
      dsimp only
      rw [if_pos rfl, current, List.getLast?_concat, Option.map_some, Option.map_some]
      dsimp only
      rw [procedureOf, legs]
      rfl
  · have started : scan.takeRow conversions locate row =
        ⟨some (row.key, procedureOf conversions locate (row.key, [row])),
          { scan.data with procedures := proceduresOf conversions locate (KeyRuns.runs LegRow.key rows) }⟩ := by
      have leg : { startProcedure row.key with
          legs := (startProcedure row.key).legs ++ (decodeLeg conversions locate row).toList } =
            procedureOf conversions locate (row.key, [row]) := by
        rw [procedureOf, ← List.nil_append [row], ← legs]
        rfl
      rw [LineScan.takeRow]
      rcases List.eq_nil_or_concat (KeyRuns.runs LegRow.key rows) with empty | ⟨front, last, whole⟩
      · have current : scan.current = none := by rw [grouped.current, empty]; rfl
        rw [← grouped.flush, ← leg, current]
        rfl
      · rw [List.concat_eq_append] at whole
        have current : scan.current = some (last.1, procedureOf conversions locate last) := by
          rw [grouped.current, whole, List.getLast?_concat]
          rfl
        rw [← grouped.flush, ← leg, current]
        dsimp only
        rw [if_neg (other front last whole)]
        rfl
    rw [after, started]
    constructor
    case procedures => rw [List.dropLast_concat]
    case current => rw [List.getLast?_concat]; rfl

/-- The loop keeps the runs of the rows it has read. -/
theorem grouped_foldl (lines : List Text) :
    Grouped conversions locate (KeyRuns.runs LegRow.key (lines.filterMap legRow))
      (lines.foldl (LineScan.takeLine conversions locate) ⟨none, ⟨[], []⟩⟩) := by
  induction lines using List.reverseRecOn with
  | nil => exact ⟨rfl, rfl⟩
  | append_singleton lines line inductionHypothesis =>
      rw [List.foldl_append, List.foldl_cons, List.foldl_nil, List.filterMap_append, LineScan.takeLine]
      split_ifs with isRunway
      · rw [List.filterMap_cons_none (legRow_runway isRunway), List.filterMap_nil, List.append_nil]
        exact ⟨inductionHypothesis.procedures, inductionHypothesis.current⟩
      · rcases isRow : legRow line with _ | row
        · rw [List.filterMap_cons_none isRow, List.filterMap_nil, List.append_nil]
          exact inductionHypothesis
        · rw [List.filterMap_cons_some isRow, List.filterMap_nil]
          exact inductionHypothesis.takeRow row

/-- The procedures are those of the runs. -/
theorem parseLines_procedures (lines : List Text) :
    (parseLines conversions locate lines).procedures =
      proceduresOf conversions locate (KeyRuns.runs LegRow.key (lines.filterMap legRow)) :=
  (grouped_foldl lines).flush

end Grouping

/-- The procedures of some lines partition the rows of legs, of which those with a fix that
fits are accepted, and no other line changes them. -/
theorem parseLines_partitions (conversions : Conversions) (locate : Option FixLocator) :
    (forall lines, Partitions conversions locate (lines.filterMap legRow) (parseLines conversions locate lines).procedures) ∧
      (forall line, (legRow line).isSome = true ↔ IsLegLine line) ∧
      (forall row, (decodeLeg conversions locate row).isSome = true ↔ row.FixFits) ∧
      forall before line after, ¬ IsLegLine line ->
        (parseLines conversions locate (before ++ line :: after)).procedures =
          (parseLines conversions locate (before ++ after)).procedures := by
  refine ⟨fun lines => ?_, fun line => legRow_isSome, fun row => decodeLeg_isSome, ?_⟩
  · rw [parseLines_procedures]
    exact partitions_proceduresOf (KeyRuns.areRuns LegRow.key _)
  · intro before line after other
    rw [parseLines_procedures, parseLines_procedures, List.filterMap_append, List.filterMap_append,
      List.filterMap_cons_none (legRow_eq_none other)]

/-- `SID:`, a route type and a name, and nothing else. -/
def bareSid (name : UInt8) : Text :=
  [83, 73, 68, 58, 44, 52, 44, name] ++ List.replicate 22 44 ++ [59]

/-- `PRDAT:`. -/
def prdatLine : Text := [80, 82, 68, 65, 84, 58]

theorem parseLines_partitions_bareSid :
    let procedures := (parseLines blankConversions none [bareSid 65, prdatLine, bareSid 65]).procedures
    procedures = (parseLines blankConversions none [bareSid 65, bareSid 65]).procedures ∧
      (legOwners procedures)[0]? = (legOwners procedures)[1]? := by
  rcases parseLines_partitions blankConversions none with ⟨partitions, -, -, unchanged⟩
  refine ⟨unchanged [bareSid 65] prdatLine [bareSid 65] (by decide), ?_⟩
  refine ((partitions [bareSid 65, prdatLine, bareSid 65]).together [] _ [] _ [] rfl rfl rfl).mpr ?_
  intro row member
  rw [List.mem_singleton.mp member]

end Cifp
end BravoFinder
