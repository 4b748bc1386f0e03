import BravoFinder.Loaders.FenixProcedures

namespace BravoFinder
namespace Fenix

/-!
# The two loads of the Fenix database

Both loads go through one core.  Terminals and legs of an airport come in the
same order from either query, and so do its groups.  Runways do not: for one
airport they are sorted by ident, for all they stay as the table has them.  And the
query for one airport compares the id that is stored, while the load of all goes
by the id that is read: a null id, or one beyond 32 bits, is another airport's to
the code.
-/

/-- What the loaders are given: ICAO codes that are unique and have no blanks
around them. -/
structure Tables.Keyed (tables : Tables) : Prop where
  airportIcaos : (tables.airports.map fun airport => nullableText airport.icao).Nodup
  unpadded : forall airport code, airport ∈ tables.airports -> airport.icao = some code -> columnText code = code

/-! ## When the loads agree -/

section Conditions

variable (conversions : Conversions) (tables : Tables)

/-- A leg of the terminal is read. -/
def HasLegs (tid : Int) : Prop :=
  exists item, item ∈ readLegs conversions tables none ∧ item.terminalId = tid

/-- Something is read under the id of an airport. -/
def HasData (aid : Int) : Prop :=
  (exists runway, runway ∈ tables.runways ∧ runway.aid = aid) ∨
    exists terminal, terminal ∈ tables.terminals ∧ terminal.aid = aid ∧ HasLegs conversions tables terminal.tid

/-- Something is stored under the id of an airport. -/
def HasStoredData (aid : Int) : Prop :=
  (exists runway, runway ∈ tables.runways ∧ runway.airportId = some aid) ∨
    exists terminal, terminal ∈ tables.terminals ∧ terminal.airportId = some aid ∧
      HasLegs conversions tables terminal.tid

/-- The code is read from the airport that is read under an id: the last, if there
are several. -/
def Names (icao : Text) (aid : Int) : Prop :=
  exists airport, (tables.airports.filter fun row => row.aid = aid).getLast? = some airport ∧
    nullableText airport.icao = icao

/-- The code, up to its first NUL, is stored for an airport whose id is read, and
is not negative. -/
def Finds (icao : Text) (aid : Int) : Prop :=
  exists airport, airport ∈ tables.airports ∧ airport.icao = some (icao.takeWhile (· != 0)) ∧ airport.aid = aid ∧ 0 ≤ aid

/-- The terminal that is read under an id: the last row of a scan. -/
def lastRead (rows : List TerminalRow) (tid : Int) : Option TerminalRow :=
  (rows.filter fun row => row.tid = tid).getLast?

/-- The terminals with legs that are read under the id of an airport are stored
under it, and no later row takes their place under their own id. -/
structure TerminalsAlike (aid : Int) : Prop where
  stored : forall row, row ∈ tables.terminals -> row.aid = aid -> HasLegs conversions tables row.tid ->
    row.airportId = some aid
  kept : forall row, row ∈ tables.terminals -> row.airportId = some aid -> HasLegs conversions tables row.tid ->
    (lastRead (orderBy2 TerminalRow.airportId TerminalRow.id tables.terminals) row.tid).map terminalProcedure =
      (lastRead (orderBy TerminalRow.id (tables.terminals.filter fun row => row.airportId = some aid)) row.tid).map
        terminalProcedure

/-- The runways stored under the id of an airport, by ident, are those read under
it, by stored id. -/
def RunwaysAlike (aid : Int) : Prop :=
  (orderBy RunwayRow.ident (tables.runways.filter fun row => row.airportId = some aid)).map readRunway =
    (orderBy RunwayRow.airportId (tables.runways.filter fun row => row.aid = aid)).map readRunway

/-- When the loads agree on an ICAO code: an airport it names or finds, with
something to load, is both named and found by it, and its terminals and runways are
alike in both queries. -/
def LoadsAlike (icao : Text) : Prop :=
  forall aid, Names tables icao aid ∧ HasData conversions tables aid ∨
      Finds tables icao aid ∧ HasStoredData conversions tables aid ->
    Names tables icao aid ∧ Finds tables icao aid ∧ TerminalsAlike conversions tables aid ∧ RunwaysAlike tables aid

end Conditions

/-! ## Maps from ids -/

theorem folded_assignMerge (tid : Int) (items : List (Int × Procedure))
    (same : forall item, item ∈ items -> item.1 = tid) : assignMerge.folded items = items.getLast? := by
  induction items using List.reverseRecOn with
  | nil => rfl
  | append_singleton items item inductionHypothesis =>
      rw [KeyedMerge.folded_append, inductionHypothesis fun other member => same other (List.mem_append_left _ member),
        List.getLast?_concat]
      cases last : items.getLast? with
      | none => rfl
      | some before =>
          have own : before.1 = tid := same before (List.mem_append_left _ (List.mem_of_getLast? last))
          have own' : item.1 = tid := same item (List.mem_append_right _ List.mem_cons_self)
          rw [Option.map_some, Option.getD_some]
          exact congrArg some (Prod.ext (own.trans own'.symm) rfl)

/-- Under an id stands the last row of the scan that has it. -/
theorem atKey_assignMerge (rows : List TerminalRow) (tid : Int) :
    assignMerge.atKey tid (assignMerge.collect (rows.map fun row => (row.tid, terminalProcedure row))) =
      (lastRead rows tid).map fun row => (row.tid, terminalProcedure row) := by
  rw [KeyedMerge.atKey_collect, folded_assignMerge tid]
  · rw [KeyedMerge.group, List.filter_map, List.getLast?_map, lastRead]
    rfl
  · exact fun item member => of_decide_eq_true (List.mem_filter.mp member).2

theorem exists_lastRead {rows : List TerminalRow} {row : TerminalRow} (member : row ∈ rows) :
    exists last, lastRead rows row.tid = some last := by
  have listed : row ∈ rows.filter fun other => other.tid = row.tid := List.mem_filter.mpr ⟨member, decide_eq_true rfl⟩
  exact Option.isSome_iff_exists.mp (List.getLast?_isSome.mpr (List.ne_nil_of_mem listed))

/-! ## Legs -/

section Legs

variable {conversions : Conversions} {tables : Tables}

/-- The legs of an allowed terminal are all read. -/
theorem group_readLegs {tid : Int} {tids : List Int} (allowed : tid ∈ tids) :
    terminalMerge.group tid (readLegs conversions tables (some tids)) =
      terminalMerge.group tid (readLegs conversions tables none) := by
  rw [KeyedMerge.group, KeyedMerge.group, readLegs, readLegs, List.filter_filterMap, List.filter_filterMap]
  refine congrArg (List.filterMap · (legRows tables)) (funext fun row => ?_)
  by_cases here : row.1.tid = tid
  · rw [Option.any_some, here, List.contains_iff_mem.mpr allowed]
    rfl
  · -- A leg of another terminal is left out either way.
    have other : forall leg : Option ProcedureLeg, (leg.map fun leg =>
        (⟨row.1.tid, nullableText row.1.transition, parseRouteTypeToken (nullableText row.1.type), leg⟩ :
          ReadLeg)).filter
          (fun item => decide (terminalMerge.slot item = tid)) = none := by
      rintro (_ | leg)
      · rfl
      · exact if_neg (by rw [decide_eq_true_iff]; exact here)
    rw [Option.any_none, if_neg Bool.false_ne_true, other]
    split_ifs
    · rfl
    · exact other _

theorem folded_terminalMerge (tid : Int) (items : List ReadLeg)
    (same : forall item, item ∈ items -> item.terminalId = tid) :
    terminalMerge.folded items = if items = [] then none else some (tid, groupMerge.collect items) := by
  induction items using List.reverseRecOn with
  | nil => rfl
  | append_singleton items item inductionHypothesis =>
      rw [KeyedMerge.folded_append, inductionHypothesis fun other member => same other (List.mem_append_left _ member),
        if_neg (List.concat_ne_nil item items), KeyedMerge.collect_append]
      split_ifs with nothing
      · rw [nothing, ← same item (List.mem_append_right _ List.mem_cons_self)]
        rfl
      · rfl

/-- The legs of a terminal, in the order of the scan. -/
def legsOf (conversions : Conversions) (tables : Tables) (tid : Int) : List ReadLeg :=
  terminalMerge.group tid (readLegs conversions tables none)

/-- The groups of a terminal, when its legs are read. -/
theorem atKey_buildLegGroups {allowedTids : Option (List Int)} {tid : Int}
    (allowed : forall tids, tids ∈ allowedTids -> tid ∈ tids) :
    terminalMerge.atKey tid (buildLegGroups conversions tables allowedTids) =
      if legsOf conversions tables tid = [] then none
      else some (tid, groupMerge.collect (legsOf conversions tables tid)) := by
  have same : terminalMerge.group tid (readLegs conversions tables allowedTids) = legsOf conversions tables tid := by
    rcases allowedTids with _ | tids
    · rfl
    · exact group_readLegs (allowed tids rfl)
  rw [buildLegGroups, KeyedMerge.atKey_collect, same, folded_terminalMerge tid]
  exact fun item member => of_decide_eq_true (List.mem_filter.mp member).2

/-- The procedures of a terminal: one for each of its groups. -/
def terminalProcedures (conversions : Conversions) (tables : Tables) (base : Procedure) (tid : Int) : List Procedure :=
  (groupMerge.collect (legsOf conversions tables tid)).map fun group =>
    { base with
      transitionIdent := group.transition
      routeType := group.routeType
      runway := if base.type ≠ .kApproach then group.runway else base.runway
      legs := group.legs }

theorem terminalProcedures_ne_nil_iff (base : Procedure) (tid : Int) :
    terminalProcedures conversions tables base tid ≠ [] ↔ HasLegs conversions tables tid := by
  have groups : groupMerge.collect (legsOf conversions tables tid) = [] ↔ legsOf conversions tables tid = [] := by
    constructor
    · intro empty
      refine List.eq_nil_iff_forall_not_mem.mpr fun item member => ?_
      have listed := (groupMerge.mem_keys_collect _ _).mpr (List.mem_map_of_mem (f := groupMerge.slot) member)
      rw [empty] at listed
      exact List.not_mem_nil listed
    · intro empty
      rw [empty]
      rfl
  rw [terminalProcedures, Ne, List.map_eq_nil_iff, groups, legsOf, KeyedMerge.group, List.filter_eq_nil_iff,
    not_forall, HasLegs]
  simp only [not_forall, not_not, decide_eq_true_iff, exists_prop]
  rfl

/-- Only an approach has a runway of its own. -/
theorem runway_terminalProcedure {row : TerminalRow} (other : (terminalProcedure row).type ≠ .kApproach) :
    (terminalProcedure row).runway = [] :=
  if_neg other

/-- Terminals that differ give different procedures, if they give any. -/
theorem terminalProcedure_inj {tid : Int} (legs : HasLegs conversions tables tid) {first second : TerminalRow}
    (same : terminalProcedures conversions tables (terminalProcedure first) tid =
      terminalProcedures conversions tables (terminalProcedure second) tid) :
    terminalProcedure first = terminalProcedure second := by
  have some := (terminalProcedures_ne_nil_iff (terminalProcedure first) tid).mpr legs
  rw [terminalProcedures, terminalProcedures] at same
  rw [terminalProcedures] at some
  cases groups : groupMerge.collect (legsOf conversions tables tid) with
  | nil =>
      rw [groups] at some
      exact absurd rfl some
  | cons group rest =>
      rw [groups, List.map_cons, List.map_cons, List.cons.injEq, Procedure.mk.injEq] at same
      rcases same.1 with ⟨type, name, _, runway, _⟩
      have runways : (terminalProcedure first).runway = (terminalProcedure second).runway := by
        by_cases approach : (terminalProcedure first).type = .kApproach
        · rwa [if_neg (not_not.mpr approach), if_neg (not_not.mpr (type.symm.trans approach))] at runway
        · rw [runway_terminalProcedure approach, runway_terminalProcedure (type ▸ approach)]
      calc terminalProcedure first
          = ⟨(terminalProcedure first).type, (terminalProcedure first).name, [], (terminalProcedure first).runway, 0,
              []⟩ := rfl
        _ = terminalProcedure second := by
            rw [type, name, runways]
            rfl

/-- What is emitted for the terminals of a scan that are read under an id. -/
def emitted (conversions : Conversions) (tables : Tables) (rows : List TerminalRow) (tid : Int) : List Procedure :=
  match (lastRead rows tid).map terminalProcedure with
  | none => []
  | some base => terminalProcedures conversions tables base tid

theorem emitTerminalProcedure_eq {rows : List TerminalRow} {allowedTids : Option (List Int)} {tid : Int}
    (allowed : forall tids, tids ∈ allowedTids -> tid ∈ tids) :
    emitTerminalProcedure tid (assignMerge.collect (rows.map fun row => (row.tid, terminalProcedure row)))
        (buildLegGroups conversions tables allowedTids) = emitted conversions tables rows tid := by
  rw [emitTerminalProcedure, atKey_assignMerge, atKey_buildLegGroups allowed, emitted]
  cases lastRead rows tid with
  | none => rfl
  | some row =>
      split_ifs with nothing
      · have none : terminalProcedures conversions tables (terminalProcedure row) tid = [] := by
          rw [terminalProcedures, nothing]
          rfl
        exact none.symm
      · rfl

variable (conversions tables) in
theorem emitted_of_mem {rows : List TerminalRow} {row : TerminalRow} (member : row ∈ rows) :
    exists last, (lastRead rows row.tid).map terminalProcedure = some (terminalProcedure last) ∧
      emitted conversions tables rows row.tid =
        terminalProcedures conversions tables (terminalProcedure last) row.tid := by
  rcases exists_lastRead member with ⟨last, read⟩
  refine ⟨last, by rw [read]; rfl, ?_⟩
  rw [emitted, read]
  rfl

theorem emitted_ne_nil_iff {rows : List TerminalRow} {row : TerminalRow} (member : row ∈ rows) :
    emitted conversions tables rows row.tid ≠ [] ↔ HasLegs conversions tables row.tid := by
  rcases emitted_of_mem conversions tables member with ⟨last, _, given⟩
  rw [given]
  exact terminalProcedures_ne_nil_iff _ _

/-- A terminal gives as many procedures in either query. -/
theorem length_emitted {rows others : List TerminalRow} {row : TerminalRow} (member : row ∈ rows)
    (memberOther : row ∈ others) :
    (emitted conversions tables rows row.tid).length = (emitted conversions tables others row.tid).length := by
  rcases emitted_of_mem conversions tables member with ⟨last, _, given⟩
  rcases emitted_of_mem conversions tables memberOther with ⟨other, _, givenOther⟩
  rw [given, givenOther, terminalProcedures, terminalProcedures, List.length_map, List.length_map]

end Legs

/-! ## One airport -/

section Scans

variable {tables : Tables}

theorem terminalScan_none : terminalScan tables none = orderBy2 TerminalRow.airportId TerminalRow.id tables.terminals :=
  List.filter_eq_self.mpr fun _ _ => rfl

theorem mem_terminalScan_none {row : TerminalRow} : row ∈ terminalScan tables none ↔ row ∈ tables.terminals := by
  rw [terminalScan_none]
  exact (SortedIndex.perm_sort _).mem_iff

theorem mem_terminalScan_single {aid : Int} {row : TerminalRow} :
    row ∈ terminalScan tables (some [aid]) ↔ row ∈ tables.terminals ∧ row.airportId = some aid := by
  have sorted : row ∈ terminalScan tables (some [aid]) ↔ row ∈ tables.terminals.filter fun row => row.airportId = some aid :=
    (SortedIndex.perm_sort _).mem_iff
  rw [sorted, List.mem_filter, decide_eq_true_iff]

/-- Within one stored id the two orders of the terminals are the same. -/
theorem filter_terminalScan (aid : Int) :
    (terminalScan tables none).filter (fun row => row.airportId = some aid) = terminalScan tables (some [aid]) := by
  have own : forall row, row ∈ tables.terminals.filter (fun row => row.airportId = some aid) -> row.airportId = some aid :=
    fun row member => of_decide_eq_true (List.mem_filter.mp member).2
  have sorted : (orderBy2 TerminalRow.airportId TerminalRow.id tables.terminals).filter
      (fun row => row.airportId = some aid) = orderBy2 TerminalRow.airportId TerminalRow.id
        (tables.terminals.filter fun row => row.airportId = some aid) :=
    SortedIndex.filter_sort tables.terminals _
  rw [terminalScan_none, sorted]
  -- Airport ids that are all the same leave the comparison to the second column.
  refine SortedIndex.sort_congr fun first firstMember second secondMember => ?_
  rw [Prod.lex_iff, own first firstMember, own second secondMember, or_iff_right (SortedIndex.irrefl (some aid)),
    and_iff_right rfl]

/-- The runways that are read under an id, by stored id. -/
theorem filter_runwayScan_none (aid : Int) :
    (runwayScan tables none).filter (fun row => row.aid = aid) =
      orderBy RunwayRow.airportId (tables.runways.filter fun row => row.aid = aid) := by
  have all : runwayScan tables none = orderBy RunwayRow.airportId tables.runways :=
    List.filter_eq_self.mpr fun row member => rfl
  rw [all]
  exact SortedIndex.filter_sort tables.runways _

theorem filter_runwayScan_single {aid : Int} (isRead : columnInt (some aid) = aid) :
    (runwayScan tables (some [aid])).filter (fun row => row.aid = aid) =
      orderBy RunwayRow.ident (tables.runways.filter fun row => row.airportId = some aid) := by
  refine List.filter_eq_self.mpr fun row member => ?_
  have stored := of_decide_eq_true (List.mem_filter.mp ((SortedIndex.perm_sort _).mem_iff.mp member)).2
  rw [decide_eq_true_iff, RunwayRow.aid, stored, isRead]

end Scans

section Lists

variable {A B : Type}

theorem flatMap_filter_of_nil {f : A -> List B} {kept : A -> Bool} {xs : List A}
    (nothing : forall x, x ∈ xs -> kept x = false -> f x = []) : (xs.filter kept).flatMap f = xs.flatMap f := by
  induction xs with
  | nil => rfl
  | cons x rest inductionHypothesis =>
      have after := inductionHypothesis fun other member => nothing other (List.mem_cons_of_mem _ member)
      cases keeps : kept x with
      | true => rw [List.filter_cons_of_pos keeps, List.flatMap_cons, List.flatMap_cons, after]
      | false =>
          rw [List.filter_cons_of_neg (by rw [keeps]; decide), List.flatMap_cons,
            nothing x List.mem_cons_self keeps, List.nil_append, after]

theorem length_flatMap_filter (f : A -> List B) (kept : A -> Bool) (xs : List A) :
    (xs.flatMap f).length =
      ((xs.filter kept).flatMap f).length + ((xs.filter fun x => !kept x).flatMap f).length := by
  induction xs with
  | nil => rfl
  | cons x rest inductionHypothesis =>
      cases keeps : kept x <;> simp [keeps, inductionHypothesis] <;> omega

/-- Lists of lists that are joined alike, and of the same lengths, are the same. -/
theorem eq_of_flatMap_eq {f g : A -> List B} {xs : List A} (lengths : forall x, x ∈ xs -> (f x).length = (g x).length)
    (joined : xs.flatMap f = xs.flatMap g) : forall x, x ∈ xs -> f x = g x := by
  induction xs with
  | nil => exact fun x member => absurd member List.not_mem_nil
  | cons x rest inductionHypothesis =>
      rw [List.forall_mem_cons] at lengths ⊢
      rw [List.flatMap_cons, List.flatMap_cons] at joined
      rcases List.append_inj joined lengths.1 with ⟨first, others⟩
      exact ⟨first, inductionHypothesis lengths.2 others⟩

end Lists

section Airports

variable {conversions : Conversions} {tables : Tables}

/-- The procedures of an airport. -/
def proceduresOf (conversions : Conversions) (tables : Tables) (airportIds : Option (List Int)) (aid : Int) :
    List Procedure :=
  ((terminalScan tables airportIds).filter fun row => row.aid = aid).flatMap fun row =>
    emitted conversions tables (terminalScan tables airportIds) row.tid

/-- The runways of an airport, in the order they are read in. -/
def runwaysOf (tables : Tables) (airportIds : Option (List Int)) (aid : Int) : List Runway :=
  ((runwayScan tables airportIds).filter fun row => row.aid = aid).map readRunway

/-- The single query gives nothing of other airports. -/
theorem filter_terminalScan_single {aid : Int} (isRead : columnInt (some aid) = aid) :
    (terminalScan tables (some [aid])).filter (fun row => row.aid = aid) = terminalScan tables (some [aid]) := by
  refine List.filter_eq_self.mpr fun row member => ?_
  rw [decide_eq_true_iff, TerminalRow.aid, (mem_terminalScan_single.mp member).2, isRead]

/-- Both loads give an airport the same procedures exactly when its terminals are
alike in both queries. -/
theorem proceduresOf_eq_iff {aid : Int} (isRead : columnInt (some aid) = aid) :
    proceduresOf conversions tables none aid = proceduresOf conversions tables (some [aid]) aid ↔
      TerminalsAlike conversions tables aid := by
  rw [proceduresOf, proceduresOf, filter_terminalScan_single isRead]
  generalize read : (terminalScan tables none).filter (fun row => row.aid = aid) = rows
  have mem_rows : forall row, row ∈ rows ↔ row ∈ tables.terminals ∧ row.aid = aid := by
    intro row
    rw [← read, List.mem_filter, mem_terminalScan_none, decide_eq_true_iff]
  have single : rows.filter (fun row => row.airportId = some aid) = terminalScan tables (some [aid]) := by
    rw [← read, List.filter_filter, ← filter_terminalScan]
    refine List.filter_congr fun row _ => ?_
    by_cases stored : row.airportId = some aid
    · simp [TerminalRow.aid, stored, isRead]
    · simp [stored]
  have inBoth : forall row, row ∈ terminalScan tables (some [aid]) -> row ∈ terminalScan tables none :=
    fun row member => mem_terminalScan_none.mpr (mem_terminalScan_single.mp member).1
  -- Terminals that are read but not stored under the id give nothing, if they have no legs.
  have joined : (forall row, row ∈ tables.terminals -> row.aid = aid -> HasLegs conversions tables row.tid ->
      row.airportId = some aid) ->
        rows.flatMap (fun row => emitted conversions tables (terminalScan tables none) row.tid) =
          (terminalScan tables (some [aid])).flatMap fun row =>
            emitted conversions tables (terminalScan tables none) row.tid := by
    intro stored
    rw [← single]
    refine (flatMap_filter_of_nil fun row member other => ?_).symm
    rcases (mem_rows row).mp member with ⟨listed, own⟩
    by_contra filled
    exact of_decide_eq_false other
      (stored row listed own ((emitted_ne_nil_iff (mem_terminalScan_none.mpr listed)).mp filled))
  constructor
  · intro same
    have stored : forall row, row ∈ tables.terminals -> row.aid = aid -> HasLegs conversions tables row.tid ->
        row.airportId = some aid := by
      intro row member own legs
      by_contra other
      have lengths := congrArg List.length same
      have count : ((terminalScan tables (some [aid])).flatMap fun row =>
          emitted conversions tables (terminalScan tables none) row.tid).length =
            ((terminalScan tables (some [aid])).flatMap fun row =>
              emitted conversions tables (terminalScan tables (some [aid])) row.tid).length := by
        rw [List.length_flatMap, List.length_flatMap]
        exact congrArg List.sum (List.map_congr_left fun row member => length_emitted (inBoth row member) member)
      rw [length_flatMap_filter _ (fun row => row.airportId = some aid), single, count] at lengths
      have nothing := List.eq_nil_of_length_eq_zero (Nat.add_eq_left.mp lengths)
      refine (emitted_ne_nil_iff (mem_terminalScan_none.mpr member)).mpr legs
        (List.flatMap_eq_nil_iff.mp nothing row (List.mem_filter.mpr ⟨(mem_rows row).mpr ⟨member, own⟩, ?_⟩))
      rw [decide_eq_false other]
      rfl
    refine ⟨stored, fun row member own legs => ?_⟩
    rw [joined stored] at same
    have scanned := mem_terminalScan_single.mpr ⟨member, own⟩
    have given := eq_of_flatMap_eq (fun row member => length_emitted (inBoth row member) member) same row scanned
    rcases emitted_of_mem conversions tables (inBoth row scanned) with
      ⟨last, read, procedures⟩
    rcases emitted_of_mem conversions tables scanned with
      ⟨other, readOther, proceduresOther⟩
    rw [procedures, proceduresOther] at given
    have scan : terminalScan tables (some [aid]) =
        orderBy TerminalRow.id (tables.terminals.filter fun row => row.airportId = some aid) := rfl
    rw [← terminalScan_none, ← scan, read, readOther, terminalProcedure_inj legs given]
  · intro alike
    rw [joined alike.stored]
    refine List.flatMap_congr fun row member => ?_
    rcases mem_terminalScan_single.mp member with ⟨listed, own⟩
    by_cases legs : HasLegs conversions tables row.tid
    · rw [emitted, emitted, terminalScan_none, alike.kept row listed own legs]
      rfl
    · rw [not_not.mp (mt (emitted_ne_nil_iff (inBoth row member)).mp legs),
        not_not.mp (mt (emitted_ne_nil_iff member).mp legs)]

theorem pushedAt_terminals (airportIds : Option (List Int)) (aid : Int) :
    KeyedMerge.pushedAt aid ((terminalScan tables airportIds).map fun row => (row.aid, row.tid)) =
      ((terminalScan tables airportIds).filter fun row => row.aid = aid).map TerminalRow.tid := by
  rw [KeyedMerge.pushedAt, List.filter_map, List.map_map]
  rfl

theorem pushedAt_runways (airportIds : Option (List Int)) (aid : Int) :
    KeyedMerge.pushedAt aid ((runwayScan tables airportIds).map fun row => (row.aid, readRunway row)) =
      runwaysOf tables airportIds aid := by
  rw [KeyedMerge.pushedAt, List.filter_map, List.map_map, runwaysOf]
  rfl

/-- What is emitted for the terminals of an airport. -/
theorem emitted_eq (airportIds : Option (List Int)) (aid : Int) :
    let terminals := terminalScan tables airportIds
    let airportTids := (KeyedMerge.pushBack Int Int).collect (terminals.map fun row => (row.aid, row.tid))
    (KeyedMerge.pushedAt aid (terminals.map fun row => (row.aid, row.tid))).flatMap (fun tid => emitTerminalProcedure tid
        (assignMerge.collect (terminals.map fun row => (row.tid, terminalProcedure row)))
        (buildLegGroups conversions tables (airportIds.map fun _ => airportTids.flatMap Prod.snd))) =
      proceduresOf conversions tables airportIds aid := by
  intro terminals airportTids
  have tidsOf : KeyedMerge.pushedAt aid (terminals.map fun row => (row.aid, row.tid)) =
      (terminals.filter fun row => row.aid = aid).map TerminalRow.tid := pushedAt_terminals airportIds aid
  rw [tidsOf, List.flatMap_map, proceduresOf]
  refine List.flatMap_congr fun row member => emitTerminalProcedure_eq fun tids asks => ?_
  -- The terminals of the airport are among the allowed ones.
  rcases Option.map_eq_some_iff.mp asks with ⟨ids, _, rfl⟩
  have listed : row.tid ∈ KeyedMerge.pushedAt aid (terminals.map fun row => (row.aid, row.tid)) := by
    rw [tidsOf]
    exact List.mem_map_of_mem member
  refine List.mem_flatMap.mpr ⟨(aid, _), (KeyedMerge.mem_collect_pushBack _ _).mpr ⟨rfl, List.ne_nil_of_mem listed⟩, listed⟩

/-- The airports with procedures, and then those with runways only. -/
theorem mem_assembled (emit : Int -> List Procedure) (terminals : List (Int × Int))
    (runwayItems : List (Int × Runway)) (aid : Int) (data : CifpData) :
    let airportTids := (KeyedMerge.pushBack Int Int).collect terminals
    let runwaysByAirport := (KeyedMerge.pushBack Int Runway).collect runwayItems
    let withProcedures := airportTids.filterMap fun (aid, tids) =>
      let procedures := tids.flatMap emit
      let runways := (((KeyedMerge.pushBack Int Runway).atKey aid runwaysByAirport).map Prod.snd).getD []
      if !procedures.isEmpty || !runways.isEmpty then some (aid, (⟨procedures, runways⟩ : CifpData)) else none
    let runwaysOnly := (runwaysByAirport.filter fun entry => !withProcedures.any fun built => built.1 == entry.1).map
      fun entry => (entry.1, (⟨[], entry.2⟩ : CifpData))
    (aid, data) ∈ withProcedures ++ runwaysOnly ↔
      data = ⟨(KeyedMerge.pushedAt aid terminals).flatMap emit, KeyedMerge.pushedAt aid runwayItems⟩ ∧
        ((KeyedMerge.pushedAt aid terminals).flatMap emit ≠ [] ∨ KeyedMerge.pushedAt aid runwayItems ≠ []) := by
  intro airportTids runwaysByAirport withProcedures runwaysOnly
  have runwaysAt : forall key, (((KeyedMerge.pushBack Int Runway).atKey key runwaysByAirport).map Prod.snd).getD [] =
      KeyedMerge.pushedAt key runwayItems := by
    intro key
    rw [KeyedMerge.atKey_pushBack]
    split_ifs with nothing
    · exact nothing.symm
    · rfl
  have first : forall key data, (key, data) ∈ withProcedures ↔ KeyedMerge.pushedAt key terminals ≠ [] ∧
      data = ⟨(KeyedMerge.pushedAt key terminals).flatMap emit, KeyedMerge.pushedAt key runwayItems⟩ ∧
        ((KeyedMerge.pushedAt key terminals).flatMap emit ≠ [] ∨ KeyedMerge.pushedAt key runwayItems ≠ []) := by
    intro key data
    rw [List.mem_filterMap]
    constructor
    · rintro ⟨⟨aid, tids⟩, member, kept⟩
      rcases (KeyedMerge.mem_collect_pushBack _ _).mp member with ⟨values, filled⟩
      simp only at values
      simp only [runwaysAt] at kept
      split_ifs at kept with some
      cases kept
      subst values
      exact ⟨filled, rfl, by simpa using some⟩
    · rintro ⟨filled, rfl, some⟩
      refine ⟨(key, KeyedMerge.pushedAt key terminals), (KeyedMerge.mem_collect_pushBack _ _).mpr ⟨rfl, filled⟩, ?_⟩
      simp only [runwaysAt]
      exact if_pos (by simpa using some)
  rw [List.mem_append, first]
  constructor
  · rintro (⟨_, whole⟩ | only)
    · exact whole
    · rcases List.mem_map.mp only with ⟨entry, member, same⟩
      cases same
      rcases List.mem_filter.mp member with ⟨listed, absent⟩
      rcases (KeyedMerge.mem_collect_pushBack _ _).mp listed with ⟨values, filled⟩
      -- With terminals, the runways would have been built already.
      have noTerminals : KeyedMerge.pushedAt entry.1 terminals = [] := by
        by_contra filledTerminals
        rw [Bool.not_eq_true', List.any_eq_false] at absent
        exact absent _ ((first entry.1 _).mpr ⟨filledTerminals, rfl, Or.inr filled⟩) (beq_self_eq_true _)
      rw [noTerminals, values]
      exact ⟨rfl, Or.inr filled⟩
  · rintro ⟨rfl, some⟩
    by_cases filled : KeyedMerge.pushedAt aid terminals = []
    · right
      rw [filled, List.flatMap_nil] at some ⊢
      have runwaysFilled := some.resolve_left (fun differs => differs rfl)
      refine List.mem_map.mpr ⟨(aid, KeyedMerge.pushedAt aid runwayItems),
        List.mem_filter.mpr ⟨(KeyedMerge.mem_collect_pushBack _ _).mpr ⟨rfl, runwaysFilled⟩, ?_⟩, rfl⟩
      rw [Bool.not_eq_true', List.any_eq_false]
      rintro ⟨key, data⟩ member same
      cases beq_iff_eq.mp same
      exact ((first _ _).mp member).1 filled
    · exact Or.inl ⟨filled, rfl, some⟩

/-- What is built for an airport. -/
theorem mem_buildAirportProcedures (airportIds : Option (List Int)) (aid : Int) (data : CifpData) :
    (aid, data) ∈ buildAirportProcedures conversions tables airportIds ↔
      data = ⟨proceduresOf conversions tables airportIds aid, runwaysOf tables airportIds aid⟩ ∧
        (proceduresOf conversions tables airportIds aid ≠ [] ∨ runwaysOf tables airportIds aid ≠ []) := by
  have assembled := mem_assembled (fun tid => emitTerminalProcedure tid
    (assignMerge.collect ((terminalScan tables airportIds).map fun row => (row.tid, terminalProcedure row)))
    (buildLegGroups conversions tables (airportIds.map fun _ =>
      ((KeyedMerge.pushBack Int Int).collect ((terminalScan tables airportIds).map fun row => (row.aid, row.tid))).flatMap Prod.snd)))
    ((terminalScan tables airportIds).map fun row => (row.aid, row.tid))
    ((runwayScan tables airportIds).map fun row => (row.aid, readRunway row)) aid data
  rw [emitted_eq airportIds aid, pushedAt_runways] at assembled
  exact assembled

theorem proceduresOf_ne_nil_iff (airportIds : Option (List Int)) (aid : Int) :
    proceduresOf conversions tables airportIds aid ≠ [] ↔
      exists row, row ∈ terminalScan tables airportIds ∧ row.aid = aid ∧ HasLegs conversions tables row.tid := by
  rw [proceduresOf, Ne, List.flatMap_eq_nil_iff]
  simp only [not_forall, exists_prop]
  refine exists_congr fun row => ?_
  rw [List.mem_filter, decide_eq_true_iff, and_assoc]
  exact and_congr_right fun member => and_congr_right fun _ => emitted_ne_nil_iff member

theorem runwaysOf_ne_nil_iff (airportIds : Option (List Int)) (aid : Int) :
    runwaysOf tables airportIds aid ≠ [] ↔ exists row, row ∈ runwayScan tables airportIds ∧ row.aid = aid := by
  rw [runwaysOf, Ne, List.map_eq_nil_iff, List.filter_eq_nil_iff]
  simp only [not_forall, not_not, decide_eq_true_iff, exists_prop]

theorem mem_runwayScan_none {row : RunwayRow} : row ∈ runwayScan tables none ↔ row ∈ tables.runways := by
  have all : runwayScan tables none = orderBy RunwayRow.airportId tables.runways :=
    List.filter_eq_self.mpr fun row member => rfl
  rw [all]
  exact (SortedIndex.perm_sort _).mem_iff

theorem mem_runwayScan_single {aid : Int} {row : RunwayRow} :
    row ∈ runwayScan tables (some [aid]) ↔ row ∈ tables.runways ∧ row.airportId = some aid := by
  have sorted : row ∈ runwayScan tables (some [aid]) ↔ row ∈ tables.runways.filter fun row => row.airportId = some aid :=
    (SortedIndex.perm_sort _).mem_iff
  rw [sorted, List.mem_filter, decide_eq_true_iff]

/-- The core builds something for an airport if something is read under its id. -/
theorem hasData_iff (aid : Int) :
    (proceduresOf conversions tables none aid ≠ [] ∨ runwaysOf tables none aid ≠ []) ↔
      HasData conversions tables aid := by
  rw [or_comm, proceduresOf_ne_nil_iff, runwaysOf_ne_nil_iff, HasData]
  simp only [mem_terminalScan_none, mem_runwayScan_none]

/-- For one airport, if something is stored under its id. -/
theorem hasStoredData_iff {aid : Int} (isRead : columnInt (some aid) = aid) :
    (proceduresOf conversions tables (some [aid]) aid ≠ [] ∨ runwaysOf tables (some [aid]) aid ≠ []) ↔
      HasStoredData conversions tables aid := by
  have terminalRead : forall row : TerminalRow, row.airportId = some aid -> row.aid = aid := fun row own => by
    rw [TerminalRow.aid, own, isRead]
  have runwayRead : forall row : RunwayRow, row.airportId = some aid -> row.aid = aid := fun row own => by
    rw [RunwayRow.aid, own, isRead]
  rw [or_comm, proceduresOf_ne_nil_iff, runwaysOf_ne_nil_iff, HasStoredData]
  refine or_congr (exists_congr fun row => ?_) (exists_congr fun row => ?_)
  · rw [mem_runwayScan_single, and_assoc]
    exact and_congr_right fun _ => and_iff_left_of_imp (runwayRead row)
  · rw [mem_terminalScan_single, and_assoc]
    exact and_congr_right fun _ => and_congr_right fun own => and_iff_right (terminalRead row own)

theorem runwaysOf_eq_iff {aid : Int} (isRead : columnInt (some aid) = aid) :
    runwaysOf tables none aid = runwaysOf tables (some [aid]) aid ↔ RunwaysAlike tables aid := by
  rw [RunwaysAlike, runwaysOf, runwaysOf, filter_runwayScan_single isRead, filter_runwayScan_none]
  exact eq_comm

theorem loadAirportIcaoMap_eq_some_iff (aid : Int) (icao : Text) :
    loadAirportIcaoMap tables aid = some icao ↔ Names tables icao aid := by
  rw [loadAirportIcaoMap, Option.map_eq_some_iff, Names, ← List.head?_reverse, ← List.filter_reverse,
    List.head?_filter]

/-- The entries of the load of all. -/
theorem mem_loadProcedures (icao : Text) (data : CifpData) :
    (icao, data) ∈ loadProcedures conversions tables ↔
      exists aid, Names tables icao aid ∧ HasData conversions tables aid ∧
        data = ⟨proceduresOf conversions tables none aid, runwaysOf tables none aid⟩ := by
  have built : forall aid, (aid, data) ∈ buildAirportProcedures conversions tables none ↔
      data = ⟨proceduresOf conversions tables none aid, runwaysOf tables none aid⟩ ∧ HasData conversions tables aid :=
    fun aid => by rw [mem_buildAirportProcedures, hasData_iff]
  rw [loadProcedures, List.mem_filterMap]
  constructor
  · rintro ⟨⟨aid, built'⟩, member, entry⟩
    rcases Option.map_eq_some_iff.mp entry with ⟨code, known, same⟩
    cases same
    rcases (built aid).mp ((SortedIndex.perm_sort _).mem_iff.mp member) with ⟨value, filled⟩
    exact ⟨aid, (loadAirportIcaoMap_eq_some_iff aid icao).mp known, filled, value⟩
  · rintro ⟨aid, names, filled, value⟩
    exact ⟨(aid, data), (SortedIndex.perm_sort _).mem_iff.mpr ((built aid).mpr ⟨value, filled⟩),
      Option.map_eq_some_iff.mpr ⟨icao, (loadAirportIcaoMap_eq_some_iff aid icao).mpr names, rfl⟩⟩

theorem Tables.Keyed.eq_of_reads_same (keyed : tables.Keyed) {first second : AirportRow}
    (firstMember : first ∈ tables.airports) (secondMember : second ∈ tables.airports)
    (same : nullableText first.icao = nullableText second.icao) : first = second :=
  List.inj_on_of_nodup_map keyed.airportIcaos firstMember secondMember same

theorem Finds.isRead {icao : Text} {aid : Int} (finds : Finds tables icao aid) : columnInt (some aid) = aid := by
  rcases finds with ⟨airport, _, _, rfl, _⟩
  exact columnInt_columnInt airport.id

/-- The load of one. -/
theorem loadProcedure_eq_some_iff (keyed : tables.Keyed) (icao : Text) (data : CifpData) :
    loadProcedure conversions tables icao = some data ↔
      exists aid, Finds tables icao aid ∧ HasStoredData conversions tables aid ∧
        data = ⟨proceduresOf conversions tables (some [aid]) aid, runwaysOf tables (some [aid]) aid⟩ := by
  rw [loadProcedure]
  split
  next absent =>
    refine iff_of_false (by simp) ?_
    rintro ⟨aid, ⟨airport, member, hasIcao, _⟩, _⟩
    exact List.find?_eq_none.mp absent airport member (decide_eq_true hasIcao)
  next airport found =>
    have member := List.mem_of_find?_eq_some found
    have hasIcao : airport.icao = some (icao.takeWhile (· != 0)) := of_decide_eq_true
      (List.find?_some (p := fun row : AirportRow => decide (row.icao = some (icao.takeWhile (· != 0)))) found)
    -- An airport that is found is the one the query gave.
    have only : forall aid, Finds tables icao aid ↔ airport.aid = aid ∧ 0 ≤ aid := by
      intro aid
      constructor
      · rintro ⟨other, otherMember, otherIcao, own, id⟩
        rw [keyed.eq_of_reads_same member otherMember (by rw [hasIcao, otherIcao])]
        exact ⟨own, id⟩
      · rintro ⟨own, id⟩
        exact ⟨airport, member, hasIcao, own, id⟩
    have isRead : columnInt (some airport.aid) = airport.aid := columnInt_columnInt airport.id
    have built : forall data, (airport.aid, data) ∈ buildAirportProcedures conversions tables (some [airport.aid]) ↔
        data = ⟨proceduresOf conversions tables (some [airport.aid]) airport.aid,
          runwaysOf tables (some [airport.aid]) airport.aid⟩ ∧ HasStoredData conversions tables airport.aid :=
      fun data => by rw [mem_buildAirportProcedures, hasStoredData_iff isRead]
    simp only [only]
    constructor
    · intro loaded
      split_ifs at loaded with negative
      rcases List.lookup_eq_some_iff.mp loaded with ⟨before, after, whole, _⟩
      have listed : (airport.aid, data) ∈ buildAirportProcedures conversions tables (some [airport.aid]) :=
        whole ▸ List.mem_append_right _ List.mem_cons_self
      rcases (built data).mp listed with ⟨value, filled⟩
      exact ⟨airport.aid, ⟨rfl, not_lt.mp negative⟩, filled, value⟩
    · rintro ⟨aid, ⟨rfl, id⟩, filled, value⟩
      rw [if_neg (not_lt.mpr id)]
      have listed := (built data).mpr ⟨value, filled⟩
      rcases looked : (buildAirportProcedures conversions tables (some [airport.aid])).lookup airport.aid with _ | other
      · exact absurd (List.lookup_eq_none_iff.mp looked _ listed) (by simp)
      · rcases List.lookup_eq_some_iff.mp looked with ⟨before, after, whole, _⟩
        have otherListed : (airport.aid, other) ∈ buildAirportProcedures conversions tables (some [airport.aid]) :=
          whole ▸ List.mem_append_right _ List.mem_cons_self
        rw [((built other).mp otherListed).1, value]

/-- An airport that is named and one that is found by a code are read under one id. -/
theorem Names.eq_of_finds (keyed : tables.Keyed) {icao : Text} {named found : Int} (names : Names tables icao named)
    (finds : Finds tables icao found) : named = found := by
  rcases names with ⟨airport, last, reads⟩
  rcases finds with ⟨other, otherMember, otherIcao, rfl, _⟩
  rcases List.mem_filter.mp (List.mem_of_getLast? last) with ⟨member, own⟩
  -- What is read has no NUL, so the code is bound whole.
  have whole : nullableText other.icao = nullableText airport.icao := by
    rw [otherIcao, nullableText, Option.getD_some, keyed.unpadded other _ otherMember otherIcao, ← reads]
    exact takeWhile_columnText _
  rw [← of_decide_eq_true own, keyed.eq_of_reads_same otherMember member whole]

end Airports

/-! ## Agreement -/

/-- The loads agree on an ICAO code exactly when the airport it names is the one it
finds, with the same terminals and runways in both queries, or there is nothing to
load. -/
theorem loadProcedures_iff_loadProcedure (conversions : Conversions) {tables : Tables} (keyed : tables.Keyed)
    (icao : Text) :
    (forall data, (icao, data) ∈ loadProcedures conversions tables ↔
      loadProcedure conversions tables icao = some data) ↔ LoadsAlike conversions tables icao := by
  simp only [mem_loadProcedures, loadProcedure_eq_some_iff keyed]
  constructor
  · intro agree
    -- What one load gives the other gives too, of the same airport.
    have both : forall aid, Names tables icao aid -> Finds tables icao aid ->
        (⟨proceduresOf conversions tables none aid, runwaysOf tables none aid⟩ : CifpData) =
          ⟨proceduresOf conversions tables (some [aid]) aid, runwaysOf tables (some [aid]) aid⟩ ->
        Names tables icao aid ∧ Finds tables icao aid ∧ TerminalsAlike conversions tables aid ∧
          RunwaysAlike tables aid := by
      intro aid names finds same
      rcases CifpData.mk.inj same with ⟨procedures, runways⟩
      exact ⟨names, finds, (proceduresOf_eq_iff finds.isRead).mp procedures, (runwaysOf_eq_iff finds.isRead).mp runways⟩
    rintro aid (⟨names, filled⟩ | ⟨finds, filled⟩)
    · rcases (agree _).mp ⟨aid, names, filled, rfl⟩ with ⟨found, finds, _, same⟩
      cases names.eq_of_finds keyed finds
      exact both aid names finds same
    · rcases (agree _).mpr ⟨aid, finds, filled, rfl⟩ with ⟨named, names, _, same⟩
      cases names.eq_of_finds keyed finds
      exact both aid names finds same.symm
  · intro alike data
    have same : forall aid, Finds tables icao aid -> TerminalsAlike conversions tables aid -> RunwaysAlike tables aid ->
        proceduresOf conversions tables none aid = proceduresOf conversions tables (some [aid]) aid ∧
          runwaysOf tables none aid = runwaysOf tables (some [aid]) aid := fun aid finds terminals runways =>
      ⟨(proceduresOf_eq_iff finds.isRead).mpr terminals, (runwaysOf_eq_iff finds.isRead).mpr runways⟩
    constructor
    · rintro ⟨aid, names, filled, value⟩
      rcases alike aid (Or.inl ⟨names, filled⟩) with ⟨_, finds, terminals, runways⟩
      rcases same aid finds terminals runways with ⟨procedures, read⟩
      refine ⟨aid, finds, (hasStoredData_iff finds.isRead).mp ?_, by rw [value, procedures, read]⟩
      rw [← procedures, ← read]
      exact (hasData_iff aid).mpr filled
    · rintro ⟨aid, finds, filled, value⟩
      rcases alike aid (Or.inr ⟨finds, filled⟩) with ⟨names, _, terminals, runways⟩
      rcases same aid finds terminals runways with ⟨procedures, read⟩
      refine ⟨aid, names, (hasData_iff aid).mp ?_, by rw [value, procedures, read]⟩
      rw [procedures, read]
      exact (hasStoredData_iff finds.isRead).mpr filled

/-! One airport with two runways, not in the order of their idents. -/

def plainConversions : Conversions where
  toFloat _ := 0
  toSpeed _ := 0

def kaaa : AirportRow :=
  ⟨some 1, some (ofString "KAAA")⟩

def runwayRow (ident : String) : RunwayRow :=
  ⟨some 1, some (ofString ident), some 0, some 0, some 0⟩

def tablesOf (runways : List RunwayRow) : Tables :=
  ⟨[kaaa], [], [], [], [], [], runways⟩

theorem keyed_tablesOf (runways : List RunwayRow) : (tablesOf runways).Keyed where
  airportIcaos := List.nodup_singleton _
  unpadded airport code member stored := by
    cases List.mem_singleton.mp member
    cases stored
    decide +kernel

/-- The loads of an airport with two runways differ. -/
theorem not_loadProcedures_iff_twoRunways :
    (tablesOf [runwayRow "36", runwayRow "18"]).Keyed ∧
      ¬ forall data, (ofString "KAAA", data) ∈ loadProcedures plainConversions (tablesOf [runwayRow "36", runwayRow "18"]) ↔
        loadProcedure plainConversions (tablesOf [runwayRow "36", runwayRow "18"]) (ofString "KAAA") = some data := by
  refine ⟨keyed_tablesOf _, fun agree => ?_⟩
  have all : (loadProcedures plainConversions (tablesOf [runwayRow "36", runwayRow "18"])).map
      (fun entry => (entry.1, entry.2.runways.map Runway.ident)) =
        [(ofString "KAAA", [ofString "RW36", ofString "RW18"])] := by
    decide +kernel
  have one : (loadProcedure plainConversions (tablesOf [runwayRow "36", runwayRow "18"]) (ofString "KAAA")).map
      (fun data => data.runways.map Runway.ident) = some [ofString "RW18", ofString "RW36"] := by
    decide +kernel
  rcases List.mem_map.mp (all ▸ List.mem_cons_self) with ⟨⟨icao, data⟩, member, entry⟩
  rcases Prod.mk.inj entry with ⟨code, idents⟩
  simp only at code idents
  rw [code] at member
  rw [(agree data).mp member, Option.map_some, idents] at one
  revert one
  decide +kernel

/-! Two airports, rows woven together: the runways of each are in order, and the
legs of a departure alternate between its transitions. -/

def wovenLeg (id tid : Int) (transition : String) (wptId : Int) : TerminalLegRow where
  id := some id
  terminalId := some tid
  transition := some (ofString transition)
  trackCode := some (ofString "TF")
  course := none
  distance := none
  alt := none
  turnDir := none
  wptId := some wptId
  wptDescCode := none
  type := none

def wovenTables : Tables where
  airports := [⟨some 2, some (ofString "KBBB")⟩, kaaa]
  terminals := [⟨some 12, some 2, some (ofString "1"), some (ofString "ARR1"), none⟩,
    ⟨some 11, some 1, some (ofString "2"), some (ofString "DEP1"), none⟩,
    ⟨some 10, some 1, some (ofString "3"), some (ofString "R18"), some (ofString "18")⟩]
  terminalLegs := [wovenLeg 5 11 "RW18" 3, wovenLeg 1 11 "RW18" 1, wovenLeg 4 12 "" 1, wovenLeg 2 11 "RW36" 2,
    wovenLeg 3 10 "" 2]
  speedLimits := []
  waypoints := [⟨some 1, some (ofString "ONE"), some 0, some 0⟩, ⟨some 2, some (ofString "TWO"), some 0, some 0⟩,
    ⟨some 3, some (ofString "THREE"), some 0, some 0⟩]
  countries := []
  runways := [runwayRow "18", ⟨some 2, some (ofString "09"), some 0, some 0, some 0⟩, runwayRow "36"]

theorem keyed_wovenTables : wovenTables.Keyed where
  airportIcaos := by decide +kernel
  unpadded airport code member stored := by
    rcases List.mem_pair.mp member with rfl | rfl
    all_goals
      cases stored
      decide +kernel

/-- The approach of the airport, then its departure from each runway: the fixes of their legs. -/
example : ((loadProcedure plainConversions wovenTables (ofString "KAAA")).map CifpData.procedures).map
    (List.map fun procedure => procedure.legs.map fun leg => leg.fix.ident) =
      some [[ofString "TWO"], [ofString "ONE", ofString "THREE"], [ofString "TWO"]] := by
  decide +kernel

theorem loadProcedures_wovenTables :
    loadProcedures plainConversions wovenTables =
      [(ofString "KAAA", (loadProcedure plainConversions wovenTables (ofString "KAAA")).getD ⟨[], []⟩),
        (ofString "KBBB", (loadProcedure plainConversions wovenTables (ofString "KBBB")).getD ⟨[], []⟩)] := by
  decide +kernel

theorem loadProcedures_iff_woven :
    LoadsAlike plainConversions wovenTables (ofString "KAAA") ∧
      (loadProcedure plainConversions wovenTables (ofString "KAAA")).isSome = true := by
  have loaded : (loadProcedure plainConversions wovenTables (ofString "KAAA")).isSome = true := by decide +kernel
  refine ⟨(loadProcedures_iff_loadProcedure plainConversions keyed_wovenTables (ofString "KAAA")).mp fun data => ?_,
    loaded⟩
  rcases Option.isSome_iff_exists.mp loaded with ⟨one, given⟩
  have other : ofString "KAAA" ≠ ofString "KBBB" := by decide +kernel
  rw [loadProcedures_wovenTables, given, List.mem_cons, List.mem_singleton]
  simp [other, eq_comm]

end Fenix
end BravoFinder
