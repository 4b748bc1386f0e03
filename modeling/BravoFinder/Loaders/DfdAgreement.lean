import BravoFinder.Loaders.DfdProcedures

namespace BravoFinder
namespace Dfd

/-!
# The two loads of the DFD databases

Every table is read in the same order for an airport by either load, so each of
its scans gives the procedures that the query of the airport gives.  The airports
of the scans are merged under their idents, and then take their runways.  Only the
order of the types among the procedures of an airport is left open.
-/

/-- Airport idents have no blanks around them. -/
structure Tables.Unpadded (tables : Tables) : Prop where
  procedures : forall type row, row ∈ tables.procTable type -> columnText row.airport = row.airport
  runways : forall row, row ∈ tables.runways -> columnText row.airport = row.airport

/-- The same runways and, for each type, the same procedures, in the same order. -/
structure SameData (one all : CifpData) : Prop where
  runways : one.runways = all.runways
  procedures : forall type, (one.procedures.filter fun procedure => procedure.type = type) =
    all.procedures.filter fun procedure => procedure.type = type

/-! ## Rows -/

instance strictTotalOrder_procedureBefore : IsStrictTotalOrder _ procedureBefore :=
  inferInstanceAs (IsStrictTotalOrder _ (Prod.Lex _ _))

instance strictTotalOrder_airportBefore : IsStrictTotalOrder _ airportBefore :=
  inferInstanceAs (IsStrictTotalOrder _ (Prod.Lex _ _))

/-- The rows of an airport in the scan are those of its query. -/
theorem filter_sort_airport (version : Version) (airport : Text) (rows : List ProcRow) :
    (SortedIndex.sort (fun row => (row.airport, byProcedure row)) airportBefore rows).filter
      (fun row => row.airport = airport) = airportRows version airport rows := by
  rw [SortedIndex.filter_sort]
  cases version
  · rw [airportRows]
    refine SortedIndex.sort_congr fun first firstMember second secondMember => ?_
    rw [airportBefore, Prod.lex_iff, of_decide_eq_true (List.mem_filter.mp firstMember).2,
      of_decide_eq_true (List.mem_filter.mp secondMember).2, or_iff_right (List.lt_irrefl airport), and_iff_right rfl]
  · rfl

/-- The runways of an airport. -/
def runwaysOf (tables : Tables) (airport : Text) : List Runway :=
  (SortedIndex.sort RunwayRow.ident (Option.lt (· < ·))
    (tables.runways.filter fun row => row.airport = airport)).map readRunway

theorem pushedAt_runways {tables : Tables} (unpadded : tables.Unpadded) (airport : Text) :
    KeyedMerge.pushedAt airport ((SortedIndex.sort (fun row : RunwayRow => (row.airport, row.ident))
      (Prod.Lex (· < ·) (Option.lt (· < ·))) tables.runways).map fun row => (columnText row.airport, readRunway row)) =
        runwaysOf tables airport := by
  have own : forall row, row ∈ SortedIndex.sort (fun row : RunwayRow => (row.airport, row.ident))
      (Prod.Lex (· < ·) (Option.lt (· < ·))) tables.runways -> columnText row.airport = row.airport :=
    fun row member => unpadded.runways row ((SortedIndex.perm_sort _).mem_iff.mp member)
  rw [KeyedMerge.pushedAt, List.filter_map, List.map_map]
  have filtered : (SortedIndex.sort (fun row : RunwayRow => (row.airport, row.ident))
      (Prod.Lex (· < ·) (Option.lt (· < ·))) tables.runways).filter
        ((fun item : Text × Runway => decide (item.1 = airport)) ∘ fun row => (columnText row.airport, readRunway row)) =
      SortedIndex.sort RunwayRow.ident (Option.lt (· < ·)) (tables.runways.filter fun row => row.airport = airport) := by
    rw [List.filter_congr fun row member => by rw [Function.comp_apply, own row member],
      SortedIndex.filter_sort tables.runways]
    refine SortedIndex.sort_congr fun first firstMember second secondMember => ?_
    rw [Prod.lex_iff, of_decide_eq_true (List.mem_filter.mp firstMember).2,
      of_decide_eq_true (List.mem_filter.mp secondMember).2, or_iff_right (List.lt_irrefl airport), and_iff_right rfl]
  rw [filtered]
  rfl

/-! ## Procedures of one table -/

section Scans

variable {version : Version} {conversions : Conversions} {type : ProcedureType}

/-- The procedures that are done stay in front. -/
theorem foldl_takeRow_append (rows : List ProcRow) (done : List Procedure) (current : Option OpenProcedure)
    (procedures : List Procedure) :
    (flushProc (rows.foldl (takeRow version conversions type) ⟨current, done ++ procedures⟩)).procedures =
      done ++ (flushProc (rows.foldl (takeRow version conversions type) ⟨current, procedures⟩)).procedures := by
  induction rows generalizing current procedures with
  | nil => exact List.append_assoc _ _ _
  | cons row rest inductionHypothesis =>
      rw [List.foldl_cons, List.foldl_cons, takeRow, takeRow]
      split_ifs with changed
      · rw [flushProc, flushProc, List.append_assoc]
        exact inductionHypothesis _ _
      · exact inductionHypothesis _ _

/-- All procedures of a scan are of the type of its table. -/
structure OfType (type : ProcedureType) (scan : ProcScan) : Prop where
  done : forall procedure, procedure ∈ scan.procedures -> procedure.type = type
  current : forall current, current ∈ scan.current -> current.procedure.type = type

theorem OfType.flushProc {scan : ProcScan} (ofType : OfType type scan) : OfType type (flushProc scan) where
  done procedure member := by
    rcases List.mem_append.mp member with done | flushed
    · exact ofType.done procedure done
    · rcases List.mem_map.mp (List.mem_of_mem_filter flushed) with ⟨current, isCurrent, rfl⟩
      exact ofType.current current (Option.mem_toList.mp isCurrent)
  current _ absurdity := nomatch absurdity

theorem OfType.takeRow {scan : ProcScan} (ofType : OfType type scan) (row : ProcRow) :
    OfType type (takeRow version conversions type scan row) := by
  have appended : forall {scan : ProcScan}, OfType type scan -> OfType type (appendLeg version conversions type row scan) := by
    rintro ⟨_ | open', procedures⟩ ofType
    · exact ⟨ofType.done, fun current isCurrent => (Option.some.inj isCurrent) ▸ rfl⟩
    · exact ⟨ofType.done, fun current isCurrent => (Option.some.inj isCurrent) ▸ ofType.current open' rfl⟩
  rw [Dfd.takeRow]
  split_ifs with changed
  · exact appended ofType.flushProc
  · exact appended ofType

/-- The procedures that a table has of an airport. -/
def proceduresOf (version : Version) (conversions : Conversions) (type : ProcedureType) (rows : List ProcRow)
    (airport : Text) : List Procedure :=
  (flushProc ((airportRows version airport rows).foldl (Dfd.takeRow version conversions type) ⟨none, []⟩)).procedures

theorem type_of_mem_proceduresOf {rows : List ProcRow} {airport : Text} {procedure : Procedure}
    (member : procedure ∈ proceduresOf version conversions type rows airport) : procedure.type = type := by
  have scanned : forall (rows : List ProcRow) (scan : ProcScan), OfType type scan ->
      OfType type (rows.foldl (Dfd.takeRow version conversions type) scan) := by
    intro rows
    induction rows with
    | nil => exact fun scan ofType => ofType
    | cons row rest inductionHypothesis => exact fun scan ofType => inductionHypothesis _ (ofType.takeRow row)
  have nothing : OfType type ⟨none, []⟩ :=
    ⟨fun procedure absurdity => absurd absurdity List.not_mem_nil, fun current absurdity => by simp at absurdity⟩
  exact (scanned _ _ nothing).flushProc.done procedure member

/-- A sorted table is sorted by its airports. -/
theorem sorted_airports {rows : List ProcRow}
    (unpadded : forall row, row ∈ rows -> columnText row.airport = row.airport) :
    SortedIndex.Sorted (tableScan version conversions type).key (· < ·)
      (SortedIndex.sort (fun row => (row.airport, byProcedure row)) airportBefore rows) := by
  refine List.Pairwise.imp_of_mem ?_ (SortedIndex.sorted_sort rows)
  intro first second firstMember secondMember notBefore before
  refine notBefore (Prod.lex_iff.mpr (Or.inl ?_))
  have firstUnpadded := unpadded first ((SortedIndex.perm_sort _).mem_iff.mp firstMember)
  have secondUnpadded := unpadded second ((SortedIndex.perm_sort _).mem_iff.mp secondMember)
  have idents : columnText second.airport < columnText first.airport := before
  rwa [firstUnpadded, secondUnpadded] at idents

/-- The airports of a table that have procedures. -/
theorem mem_loadProcTable {rows : List ProcRow}
    (unpadded : forall row, row ∈ rows -> columnText row.airport = row.airport) (airport : Text) (data : CifpData) :
    (airport, data) ∈ loadProcTable version conversions type rows ↔
      data = ⟨proceduresOf version conversions type rows airport, []⟩ ∧
        proceduresOf version conversions type rows airport ≠ [] := by
  have own : (SortedIndex.sort (fun row => (row.airport, byProcedure row)) airportBefore rows).filter
      (fun row => columnText row.airport = airport) = airportRows version airport rows := by
    rw [← filter_sort_airport version]
    refine List.filter_congr fun row member => ?_
    rw [unpadded row ((SortedIndex.perm_sort _).mem_iff.mp member)]
  have emitted : (tableScan version conversions type).emit ((tableScan version conversions type).made airport
      (SortedIndex.sort (fun row => (row.airport, byProcedure row)) airportBefore rows)) =
        if proceduresOf version conversions type rows airport = [] then none
        else some ⟨proceduresOf version conversions type rows airport, []⟩ := by
    rw [FlushScan.made, show (fun row => decide ((tableScan version conversions type).key row = airport)) =
      fun row : ProcRow => decide (columnText row.airport = airport) from rfl, own]
    rfl
  rw [loadProcTable, FlushScan.mem_run (sorted_airports unpadded), emitted]
  split_ifs with nothing
  · exact iff_of_false (by simp) fun both => both.2 nothing
  · rw [Option.some.injEq, and_iff_left nothing, eq_comm]

theorem pairwise_loadProcTable {rows : List ProcRow}
    (unpadded : forall row, row ∈ rows -> columnText row.airport = row.airport) :
    ((loadProcTable version conversions type rows).map Prod.fst).Pairwise (· < ·) :=
  FlushScan.pairwise_run (sorted_airports unpadded)

end Scans

/-! ## Merging the airports -/

/-- What a table puts out for an airport. -/
def entryOf (airport : Text) (procedures : List Procedure) : List (Text × CifpData) :=
  if procedures = [] then [] else [(airport, ⟨procedures, []⟩)]

theorem eq_entryOf_of_perm {airport : Text} {procedures : List Procedure} {entries : List (Text × CifpData)}
    (perm : List.Perm entries (entryOf airport procedures)) : entries = entryOf airport procedures := by
  rw [entryOf] at perm ⊢
  split_ifs at perm ⊢
  · exact perm.eq_nil
  · exact List.perm_singleton.mp perm

theorem group_loadProcTable {version : Version} {conversions : Conversions} {type : ProcedureType} {rows : List ProcRow}
    (unpadded : forall row, row ∈ rows -> columnText row.airport = row.airport) (airport : Text) :
    airportMerge.group airport (loadProcTable version conversions type rows) =
      entryOf airport (proceduresOf version conversions type rows airport) := by
  have distinct : (airportMerge.group airport (loadProcTable version conversions type rows)).Nodup := by
    refine List.Nodup.filter _ (List.Nodup.of_map Prod.fst ?_)
    refine (pairwise_loadProcTable unpadded).imp ?_
    rintro first second step rfl
    exact List.lt_irrefl _ step
  have members : forall entry, entry ∈ airportMerge.group airport (loadProcTable version conversions type rows) ↔
      entry ∈ entryOf airport (proceduresOf version conversions type rows airport) := by
    rintro ⟨ident, data⟩
    rw [KeyedMerge.group, List.mem_filter, decide_eq_true_iff, mem_loadProcTable unpadded, entryOf]
    split_ifs with nothing
    · refine iff_of_false ?_ List.not_mem_nil
      rintro ⟨⟨_, filled⟩, rfl⟩
      exact filled nothing
    · rw [List.mem_singleton, Prod.mk.injEq]
      constructor
      · rintro ⟨⟨rfl, _⟩, rfl⟩
        exact ⟨rfl, rfl⟩
      · rintro ⟨rfl, rfl⟩
        exact ⟨⟨rfl, nothing⟩, rfl⟩
  have single : (entryOf airport (proceduresOf version conversions type rows airport)).Nodup := by
    rw [entryOf]
    split_ifs
    · exact List.nodup_nil
    · exact List.nodup_singleton _
  exact eq_entryOf_of_perm ((List.perm_ext_iff_of_nodup distinct single).mpr members)

/-- Airports that are merged keep their procedures in order. -/
theorem folded_airportMerge (airport : Text) (entries : List (Text × CifpData))
    (own : forall entry, entry ∈ entries -> entry.1 = airport ∧ entry.2.runways = []) :
    airportMerge.folded entries =
      if entries = [] then none else some (airport, ⟨entries.flatMap fun entry => entry.2.procedures, []⟩) := by
  induction entries using List.reverseRecOn with
  | nil => rfl
  | append_singleton entries entry inductionHypothesis =>
      rcases own entry (List.mem_append_right _ List.mem_cons_self) with ⟨hasIdent, noRunways⟩
      rw [KeyedMerge.folded_append, inductionHypothesis fun other member => own other (List.mem_append_left _ member),
        if_neg (List.concat_ne_nil entry entries), List.flatMap_append]
      rcases entry with ⟨ident, procedures, runways⟩
      simp only at hasIdent noRunways
      subst hasIdent noRunways
      split_ifs with nothing
      · subst nothing
        rw [List.flatMap_nil, List.nil_append, List.flatMap_singleton]
        rfl
      · rw [List.flatMap_singleton]
        rfl

section Merged

variable {version : Version} {conversions : Conversions} {tables : Tables}

/-- What the three scans put out. -/
def scanned (version : Version) (conversions : Conversions) (tables : Tables) : List (Text × CifpData) :=
  loadProcTable version conversions .kSid tables.sids ++ loadProcTable version conversions .kStar tables.stars ++
    loadProcTable version conversions .kApproach tables.iaps

/-- The procedures of an airport and a type. -/
def airportProcedures (version : Version) (conversions : Conversions) (tables : Tables) (airport : Text)
    (type : ProcedureType) : List Procedure :=
  proceduresOf version conversions type (tables.procTable type) airport

theorem group_scanned (unpadded : tables.Unpadded) (airport : Text) :
    airportMerge.group airport (scanned version conversions tables) =
      [ProcedureType.kSid, .kStar, .kApproach].flatMap fun type =>
        entryOf airport (airportProcedures version conversions tables airport type) := by
  have sids : airportMerge.group airport (loadProcTable version conversions .kSid tables.sids) =
      entryOf airport (airportProcedures version conversions tables airport .kSid) :=
    group_loadProcTable (unpadded.procedures .kSid) airport
  have stars : airportMerge.group airport (loadProcTable version conversions .kStar tables.stars) =
      entryOf airport (airportProcedures version conversions tables airport .kStar) :=
    group_loadProcTable (unpadded.procedures .kStar) airport
  have iaps : airportMerge.group airport (loadProcTable version conversions .kApproach tables.iaps) =
      entryOf airport (airportProcedures version conversions tables airport .kApproach) :=
    group_loadProcTable (unpadded.procedures .kApproach) airport
  rw [KeyedMerge.group] at sids stars iaps ⊢
  rw [scanned, List.filter_append, List.filter_append, sids, stars, iaps]
  simp only [List.flatMap_cons, List.flatMap_nil, List.append_nil, List.append_assoc]

/-- Of the entries of an airport, only that of a type has procedures of the type. -/
theorem filter_entryOf (airport : Text) (kind type : ProcedureType) :
    (entryOf airport (airportProcedures version conversions tables airport kind)).filter
        (fun entry => entry.2.procedures.any fun procedure => procedure.type = type) =
      if kind = type then entryOf airport (airportProcedures version conversions tables airport kind) else [] := by
  have ofKind : forall procedure, procedure ∈ airportProcedures version conversions tables airport kind ->
      procedure.type = kind := fun procedure member => type_of_mem_proceduresOf member
  rw [entryOf]
  split_ifs with nothing same same
  · rfl
  · rfl
  · rcases List.exists_mem_of_ne_nil _ nothing with ⟨procedure, member⟩
    rw [List.filter_singleton, List.any_eq_true.mpr ⟨procedure, member, decide_eq_true ((ofKind procedure member).trans same)⟩]
    rfl
  · rw [List.filter_singleton, List.any_eq_false.mpr fun procedure member => by
      rw [decide_eq_true_iff, ofKind procedure member]
      exact same]
    rfl

/-- In whatever order the entries of an airport are, the procedures of a type are in
the order of their table. -/
theorem filter_type_of_perm {airport : Text} {entries : List (Text × CifpData)}
    (perm : List.Perm entries ([ProcedureType.kSid, .kStar, .kApproach].flatMap fun type =>
      entryOf airport (airportProcedures version conversions tables airport type))) (type : ProcedureType) :
    ((entries.flatMap fun entry => entry.2.procedures).filter fun procedure => procedure.type = type) =
      airportProcedures version conversions tables airport type := by
  have relevant : forall entries : List (Text × CifpData),
      ((entries.flatMap fun entry => entry.2.procedures).filter fun procedure => procedure.type = type) =
        (entries.filter fun entry => entry.2.procedures.any fun procedure => procedure.type = type).flatMap
          fun entry => entry.2.procedures.filter fun procedure => procedure.type = type := by
    intro entries
    induction entries with
    | nil => rfl
    | cons entry rest inductionHypothesis =>
        rw [List.flatMap_cons, List.filter_append, inductionHypothesis, List.filter_cons]
        split_ifs with some
        · rw [List.flatMap_cons]
        · rw [List.filter_eq_nil_iff.mpr fun procedure member isType => some (List.any_eq_true.mpr ⟨procedure, member, isType⟩),
            List.nil_append]
  have kept := perm.filter fun entry => entry.2.procedures.any fun procedure => decide (procedure.type = type)
  have only : ([ProcedureType.kSid, .kStar, .kApproach].flatMap fun type =>
      entryOf airport (airportProcedures version conversions tables airport type)).filter
        (fun entry => entry.2.procedures.any fun procedure => procedure.type = type) =
      entryOf airport (airportProcedures version conversions tables airport type) := by
    simp only [List.flatMap_cons, List.flatMap_nil, List.filter_append, filter_entryOf]
    cases type <;> simp
  rw [only] at kept
  rw [relevant, eq_entryOf_of_perm kept, entryOf]
  split_ifs with nothing
  · exact nothing.symm
  · rw [List.flatMap_singleton]
    exact List.filter_eq_self.mpr fun procedure member => decide_eq_true (type_of_mem_proceduresOf member)

/-- The airports with procedures. -/
def mergedAirports (version : Version) (conversions : Conversions) (orders : Orders) (tables : Tables) :
    List (Text × CifpData) :=
  airportMerge.collectBack (orders.airports.sort (scanned version conversions tables))

theorem mergedAirports_eq (orders : Orders) :
    mergedAirports version conversions orders tables =
      airportMerge.collect (orders.airports.sort (scanned version conversions tables)) :=
  airportMerge.collectBack_eq_collect (orders.airports.sorted _)

/-- The entries of an airport, however the scans are sorted. -/
theorem perm_group_sort (orders : Orders) (unpadded : tables.Unpadded) (airport : Text) :
    List.Perm (airportMerge.group airport (orders.airports.sort (scanned version conversions tables)))
      ([ProcedureType.kSid, .kStar, .kApproach].flatMap fun type =>
        entryOf airport (airportProcedures version conversions tables airport type)) := by
  rw [← group_scanned unpadded]
  exact (orders.airports.perm _).filter _

theorem of_mem_entryOf {airport : Text} {procedures : List Procedure} {entry : Text × CifpData}
    (member : entry ∈ entryOf airport procedures) : entry = (airport, ⟨procedures, []⟩) ∧ procedures ≠ [] := by
  rw [entryOf] at member
  split_ifs at member with nothing
  · exact absurd member List.not_mem_nil
  · exact ⟨List.mem_singleton.mp member, nothing⟩

/-- An airport that is merged has the procedures of each type, in order. -/
theorem of_mem_mergedAirports {orders : Orders} (unpadded : tables.Unpadded) {airport : Text} {data : CifpData}
    (member : (airport, data) ∈ mergedAirports version conversions orders tables) :
    data.runways = [] ∧ data.procedures ≠ [] ∧ forall type,
      (data.procedures.filter fun procedure => procedure.type = type) =
        airportProcedures version conversions tables airport type := by
  rw [mergedAirports_eq] at member
  have perm : List.Perm (airportMerge.group airport (orders.airports.sort (scanned version conversions tables))) _ :=
    perm_group_sort orders unpadded airport
  have whole := airportMerge.folded_of_mem_collect member
  rw [show airportMerge.key (airport, data) = airport from rfl] at whole
  generalize airportMerge.group airport (orders.airports.sort (scanned version conversions tables)) = entries
    at perm whole
  have shape : forall entry, entry ∈ entries -> exists procedures,
      entry = (airport, ⟨procedures, []⟩) ∧ procedures ≠ [] := by
    intro entry listed
    rcases List.mem_flatMap.mp (perm.mem_iff.mp listed) with ⟨type, _, inEntry⟩
    exact ⟨_, of_mem_entryOf inEntry⟩
  rw [folded_airportMerge airport entries fun entry listed => by
    rcases shape entry listed with ⟨procedures, rfl, _⟩
    exact ⟨rfl, rfl⟩] at whole
  split_ifs at whole with nothing
  cases whole
  refine ⟨rfl, ?_, filter_type_of_perm perm⟩
  rcases List.exists_mem_of_ne_nil _ nothing with ⟨entry, listed⟩
  rcases shape entry listed with ⟨procedures, rfl, filled⟩
  exact fun empty => filled (List.flatMap_eq_nil_iff.mp empty _ listed)

/-- An airport with procedures is merged. -/
theorem exists_mem_mergedAirports (orders : Orders) (unpadded : tables.Unpadded) {airport : Text} {type : ProcedureType}
    (filled : airportProcedures version conversions tables airport type ≠ []) :
    exists data, (airport, data) ∈ mergedAirports version conversions orders tables := by
  have listed : (airport, (⟨airportProcedures version conversions tables airport type, []⟩ : CifpData)) ∈
      [ProcedureType.kSid, .kStar, .kApproach].flatMap fun type =>
        entryOf airport (airportProcedures version conversions tables airport type) := by
    refine List.mem_flatMap.mpr ⟨type, by cases type <;> simp, ?_⟩
    rw [entryOf, if_neg filled]
    exact List.mem_cons_self
  have inGroup := (perm_group_sort orders unpadded airport).mem_iff.mpr listed
  have hasKey := (airportMerge.mem_keys_collect _ airport).mpr
    (List.mem_map_of_mem (f := airportMerge.slot) (List.mem_of_mem_filter inGroup))
  rcases List.mem_map.mp hasKey with ⟨⟨ident, data⟩, member, rfl⟩
  rw [mergedAirports_eq]
  exact ⟨data, member⟩

theorem nodup_mergedAirports (orders : Orders) :
    ((mergedAirports version conversions orders tables).map Prod.fst).Nodup := by
  rw [mergedAirports_eq]
  exact airportMerge.nodup_keys_collect _

end Merged

/-! ## Taking the runways -/

/-- An airport with the runways that are found for it. -/
def withRunways (runways : List (Text × List Runway)) (entry : Text × CifpData) : Text × CifpData :=
  match (KeyedMerge.pushBack Text Runway).atKey entry.1 runways with
  | some found => (entry.1, { entry.2 with runways := found.2 })
  | none => entry

theorem withRunways_fst (runways : List (Text × List Runway)) (entry : Text × CifpData) :
    (withRunways runways entry).1 = entry.1 := by
  rw [withRunways]
  split <;> rfl

/-- Runways of one airport do not matter to another. -/
theorem withRunways_filter {runways : List (Text × List Runway)} {ident : Text} {entry : Text × CifpData}
    (other : entry.1 ≠ ident) :
    withRunways (runways.filter fun item => item.1 ≠ ident) entry = withRunways runways entry := by
  rw [withRunways, withRunways, KeyedMerge.atKey, KeyedMerge.atKey, List.find?_filter]
  have same : (fun item : Text × List Runway => decide (decide (item.1 ≠ ident) = true ∧
      decide ((KeyedMerge.pushBack Text Runway).key item = entry.1) = true)) =
        fun item => decide ((KeyedMerge.pushBack Text Runway).key item = entry.1) := by
    funext item
    rw [decide_eq_decide, decide_eq_true_iff, decide_eq_true_iff]
    exact and_iff_right_of_imp fun here isOther => other (here.symm.trans isOther)
  rw [same]

theorem foldl_takeRunways {out : List (Text × CifpData)} (distinct : (out.map Prod.fst).Nodup)
    (done : List (Text × CifpData)) (runways : List (Text × List Runway)) :
    out.foldl takeRunways (done, runways) =
      (done ++ out.map (withRunways runways), runways.filter fun entry => entry.1 ∉ out.map Prod.fst) := by
  induction out generalizing done runways with
  | nil => simp
  | cons entry rest inductionHypothesis =>
      rcases List.nodup_cons.mp distinct with ⟨absent, distinctRest⟩
      -- Whether it has runways or not, none under its ident are left.
      have taken : takeRunways (done, runways) entry =
          (done ++ [withRunways runways entry], runways.filter fun other => other.1 ≠ entry.1) := by
        rw [takeRunways, withRunways]
        rcases found : (KeyedMerge.pushBack Text Runway).atKey entry.1 runways with _ | runway
        · have unlisted := List.find?_eq_none.mp found
          refine Prod.ext rfl (List.filter_eq_self.mpr fun other member => ?_).symm
          exact decide_eq_true fun same => unlisted other member (decide_eq_true same)
        · rfl
      rw [List.foldl_cons, taken, inductionHypothesis distinctRest, List.map_cons, List.append_assoc, List.filter_filter]
      refine Prod.ext ?_ ?_
      · refine congrArg (fun others => done ++ ([withRunways runways entry] ++ others)) ?_
        refine List.map_congr_left fun other member => withRunways_filter fun same => ?_
        exact absent (same ▸ List.mem_map_of_mem member)
      · refine List.filter_congr fun other _ => ?_
        rw [← Bool.decide_and, decide_eq_decide, List.map_cons, List.mem_cons, not_or, and_comm]

/-- Each airport takes its runways, and the runways of other airports are left. -/
theorem mergeRunways_eq {hashOrder : List (Text × List Runway) -> List (Text × List Runway)}
    {out : List (Text × CifpData)} (distinct : (out.map Prod.fst).Nodup) (runways : List (Text × List Runway)) :
    mergeRunways hashOrder out runways = out.map (withRunways runways) ++
      ((hashOrder (runways.filter fun entry => entry.1 ∉ out.map Prod.fst)).filter fun entry => !entry.2.isEmpty).map
        fun entry => (entry.1, ⟨[], entry.2⟩) := by
  rw [mergeRunways, foldl_takeRunways distinct]
  rfl

/-! ## Agreement -/

section Agreement

variable {version : Version} {conversions : Conversions} {orders : Orders} {tables : Tables}

theorem atKey_loadAllRunways (unpadded : tables.Unpadded) (airport : Text) :
    (KeyedMerge.pushBack Text Runway).atKey airport (loadAllRunways tables.runways) =
      if runwaysOf tables airport = [] then none else some (airport, runwaysOf tables airport) := by
  rw [loadAllRunways, KeyedMerge.atKey_pushBack, pushedAt_runways unpadded]

theorem loadProcedures_eq (version : Version) (conversions : Conversions) (orders : Orders) (tables : Tables) :
    loadProcedures version conversions orders tables =
      orders.airports.sort ((mergedAirports version conversions orders tables).map
        (withRunways (loadAllRunways tables.runways)) ++
          ((orders.hash ((loadAllRunways tables.runways).filter fun entry =>
            entry.1 ∉ (mergedAirports version conversions orders tables).map Prod.fst)).filter
              fun entry => !entry.2.isEmpty).map fun entry => (entry.1, ⟨[], entry.2⟩)) := by
  rw [← mergeRunways_eq (nodup_mergedAirports orders)]
  rfl

/-- What an airport with runways and without procedures adds. -/
theorem mem_left_iff (unpadded : tables.Unpadded) (orders : Orders) (airport : Text) (data : CifpData) :
    (airport, data) ∈ ((orders.hash ((loadAllRunways tables.runways).filter fun entry =>
        entry.1 ∉ (mergedAirports version conversions orders tables).map Prod.fst)).filter
          fun entry => !entry.2.isEmpty).map (fun entry => (entry.1, (⟨[], entry.2⟩ : CifpData))) ↔
      airport ∉ (mergedAirports version conversions orders tables).map Prod.fst ∧
        data = ⟨[], runwaysOf tables airport⟩ ∧ runwaysOf tables airport ≠ [] := by
  have listed : forall entry, entry ∈ loadAllRunways tables.runways ↔
      entry.2 = runwaysOf tables entry.1 ∧ runwaysOf tables entry.1 ≠ [] := fun entry => by
    rw [loadAllRunways, KeyedMerge.mem_collect_pushBack, pushedAt_runways unpadded]
  rw [List.mem_map]
  constructor
  · rintro ⟨entry, member, same⟩
    rcases List.mem_filter.mp ((orders.hash_perm _).mem_iff.mp (List.mem_of_mem_filter member)) with ⟨inAll, absent⟩
    cases same
    rcases (listed entry).mp inAll with ⟨values, filled⟩
    exact ⟨of_decide_eq_true absent, by rw [values], filled⟩
  · rintro ⟨absent, rfl, filled⟩
    refine ⟨(airport, runwaysOf tables airport), List.mem_filter.mpr ⟨(orders.hash_perm _).mem_iff.mpr
      (List.mem_filter.mpr ⟨(listed _).mpr ⟨rfl, filled⟩, decide_eq_true absent⟩), ?_⟩, rfl⟩
    simpa using filled

/-- What an entry of the load of all holds. -/
theorem of_mem_loadProcedures (unpadded : tables.Unpadded) {airport : Text} {data : CifpData}
    (member : (airport, data) ∈ loadProcedures version conversions orders tables) :
    data.runways = runwaysOf tables airport ∧ (data.procedures ≠ [] ∨ data.runways ≠ []) ∧ forall type,
      (data.procedures.filter fun procedure => procedure.type = type) =
        airportProcedures version conversions tables airport type := by
  rw [loadProcedures_eq, (orders.airports.perm _).mem_iff, List.mem_append, mem_left_iff unpadded] at member
  rcases member with hasProcedures | ⟨absent, rfl, filled⟩
  · rcases List.mem_map.mp hasProcedures with ⟨⟨ident, own⟩, merged, same⟩
    have sameIdent : ident = airport := (withRunways_fst _ _).symm.trans (congrArg Prod.fst same)
    subst sameIdent
    rcases of_mem_mergedAirports unpadded merged with ⟨noRunways, filled, procedures⟩
    rw [withRunways, atKey_loadAllRunways unpadded] at same
    split_ifs at same with nothing
    · cases same
      exact ⟨noRunways.trans nothing.symm, Or.inl filled, procedures⟩
    · cases same
      exact ⟨rfl, Or.inl filled, procedures⟩
  · refine ⟨rfl, Or.inr filled, fun type => ?_⟩
    by_contra different
    rcases exists_mem_mergedAirports orders unpadded (Ne.symm different) with ⟨data, merged⟩
    exact absent (List.mem_map_of_mem merged)

/-- Airports with anything to load have an entry. -/
theorem exists_mem_loadProcedures (unpadded : tables.Unpadded) {airport : Text}
    (some : (exists type, airportProcedures version conversions tables airport type ≠ []) ∨
      runwaysOf tables airport ≠ []) :
    exists data, (airport, data) ∈ loadProcedures version conversions orders tables := by
  simp only [loadProcedures_eq, (orders.airports.perm _).mem_iff, List.mem_append, mem_left_iff unpadded]
  by_cases merged : airport ∈ (mergedAirports version conversions orders tables).map Prod.fst
  · rcases List.mem_map.mp merged with ⟨entry, listed, rfl⟩
    exact ⟨(withRunways (loadAllRunways tables.runways) entry).2, Or.inl (List.mem_map.mpr
      ⟨entry, listed, Prod.ext (withRunways_fst _ _) rfl⟩)⟩
  · rcases some with ⟨type, filled⟩ | filled
    · rcases exists_mem_mergedAirports orders unpadded filled with ⟨data, listed⟩
      exact absurd (List.mem_map_of_mem listed) merged
    · exact ⟨_, Or.inr ⟨merged, rfl, filled⟩⟩

theorem pairwise_loadProcedures (version : Version) (conversions : Conversions) (orders : Orders) (tables : Tables) :
    ((loadProcedures version conversions orders tables).map Prod.fst).Pairwise (· < ·) := by
  have distinct : ((loadProcedures version conversions orders tables).map Prod.fst).Nodup := by
    rw [loadProcedures_eq, ((orders.airports.perm _).map _).nodup_iff, List.map_append, List.map_map, List.map_map]
    refine List.nodup_append.mpr ⟨?_, ?_, ?_⟩
    · rw [show Prod.fst ∘ withRunways (loadAllRunways tables.runways) = Prod.fst from
        funext fun entry => withRunways_fst _ entry]
      exact nodup_mergedAirports orders
    · refine List.Nodup.sublist (List.Sublist.map _ List.filter_sublist) ?_
      rw [((orders.hash_perm _).map _).nodup_iff]
      exact ((KeyedMerge.pushBack Text Runway).nodup_keys_collect _).sublist (List.Sublist.map _ List.filter_sublist)
    · intro ident isMerged other isLeft same
      subst same
      rcases List.mem_map.mp isMerged with ⟨entry, merged, rfl⟩
      rcases List.mem_map.mp isLeft with ⟨runway, left, sameIdent⟩
      have absent := (List.mem_filter.mp ((orders.hash_perm _).mem_iff.mp (List.mem_of_mem_filter left))).2
      refine of_decide_eq_true absent ?_
      have idents : runway.1 = entry.1 := sameIdent.trans (withRunways_fst _ _)
      rw [idents]
      exact List.mem_map_of_mem merged
  have sorted : ((loadProcedures version conversions orders tables).map Prod.fst).Pairwise
      fun first second => ¬ second < first := List.pairwise_map.mpr (orders.airports.sorted _)
  refine (sorted.and distinct).imp ?_
  rintro first second ⟨notBefore, different⟩
  by_contra away
  exact different (SortedIndex.eq_of_not_before away notBefore)

/-- The load of one airport. -/
theorem loadAirportProcedures_eq (airport : Text) :
    loadAirportProcedures version conversions tables airport =
      if [ProcedureType.kSid, .kStar, .kApproach].flatMap (airportProcedures version conversions tables airport) = [] ∧
        runwaysOf tables airport = [] then none
      else some ⟨[ProcedureType.kSid, .kStar, .kApproach].flatMap (airportProcedures version conversions tables airport),
        runwaysOf tables airport⟩ := by
  have loaded : forall (procedures : List Procedure) (type : ProcedureType),
      (flushProc ((airportRows version airport (tables.procTable type)).foldl (takeRow version conversions type)
        ⟨none, procedures⟩)).procedures = procedures ++ airportProcedures version conversions tables airport type := by
    intro procedures type
    rw [airportProcedures, proceduresOf, ← foldl_takeRow_append, List.append_nil]
  simp only [loadAirportProcedures, List.foldl_cons, List.foldl_nil, loaded, List.nil_append, List.append_assoc,
    List.flatMap_cons, List.flatMap_nil, List.append_nil, Bool.and_eq_true, List.isEmpty_iff]
  rfl

/-- Both loads agree on every airport, and the load of all is in order. -/
theorem loadProcedures_agrees (version : Version) (conversions : Conversions) (orders : Orders) {tables : Tables}
    (unpadded : tables.Unpadded) :
    ((loadProcedures version conversions orders tables).map Prod.fst).Pairwise (· < ·) ∧
      forall icao : Text,
        (loadProcedure version conversions tables icao = none ↔
          forall data, (icao.takeWhile (· != 0), data) ∉ loadProcedures version conversions orders tables) ∧
        forall one all, loadProcedure version conversions tables icao = some one ->
          (icao.takeWhile (· != 0), all) ∈ loadProcedures version conversions orders tables -> SameData one all := by
  refine ⟨pairwise_loadProcedures version conversions orders tables, fun icao => ?_⟩
  rw [loadProcedure, loadAirportProcedures_eq]
  generalize icao.takeWhile (· != 0) = airport
  have nothing : [ProcedureType.kSid, .kStar, .kApproach].flatMap
      (airportProcedures version conversions tables airport) = [] ↔
        forall type, airportProcedures version conversions tables airport type = [] := by
    rw [List.flatMap_eq_nil_iff]
    exact ⟨fun empty type => empty type (by cases type <;> simp), fun empty type _ => empty type⟩
  constructor
  · split_ifs with empty
    · refine iff_of_true rfl fun data member => ?_
      rcases of_mem_loadProcedures unpadded member with ⟨runways, filled, procedures⟩
      rcases filled with someProcedure | someRunway
      · rcases List.exists_mem_of_ne_nil _ someProcedure with ⟨procedure, listed⟩
        have ofType := procedures procedure.type
        rw [nothing.mp empty.1] at ofType
        exact List.filter_eq_nil_iff.mp ofType procedure listed (decide_eq_true rfl)
      · exact someRunway (runways.trans empty.2)
    · refine iff_of_false (by simp) fun absent => ?_
      have filled : (exists type, airportProcedures version conversions tables airport type ≠ []) ∨
          runwaysOf tables airport ≠ [] := by
        rw [not_and_or, nothing, not_forall] at empty
        exact empty
      have entry : exists data, (airport, data) ∈ loadProcedures version conversions orders tables :=
        exists_mem_loadProcedures unpadded filled
      exact absent entry.choose entry.choose_spec
  · intro one all loaded member
    split_ifs at loaded with empty
    cases loaded
    rcases of_mem_loadProcedures unpadded member with ⟨runways, _, procedures⟩
    refine ⟨runways.symm, fun type => ?_⟩
    rw [procedures]
    -- Each table has procedures of its own type only.
    have own : forall kind, (airportProcedures version conversions tables airport kind).filter
        (fun procedure => procedure.type = type) =
          if kind = type then airportProcedures version conversions tables airport kind else [] := by
      intro kind
      split_ifs with same
      · exact List.filter_eq_self.mpr fun procedure listed =>
          decide_eq_true ((type_of_mem_proceduresOf listed).trans same)
      · refine List.filter_eq_nil_iff.mpr fun procedure listed isType => same ?_
        exact (type_of_mem_proceduresOf listed).symm.trans (of_decide_eq_true isType)
    simp only [List.flatMap_cons, List.flatMap_nil, List.filter_append, own]
    cases type <;> simp

end Agreement

/-! Two airports with runways: one has two departures, the other a departure and an
arrival.  So a scan changes both the procedure and the airport. -/

def zeroConversions : Conversions where
  toFloat _ := 0
  toCenti _ := 0

def stableOrders : Orders where
  airports := SortedIndex.AnySort.stable
  hash := id
  hash_perm _ := List.Perm.refl _

def legRow (airport proc transition : String) (seqno : Int) (fix : String) : ProcRow where
  airport := ofString airport
  proc := some (ofString proc)
  routeType := none
  transition := some (ofString transition)
  seqno := some seqno
  wpIdent := some (ofString fix)
  wpIcao := none
  pathTerm := some (ofString "TF")
  course := 0
  courseFlag := none
  distValue := 0
  distFlag := none
  altDesc := none
  alt1 := 0
  alt2 := 0
  rnp := 0
  turnDir := none
  speedLimit := 0
  wptDesc := none
  wpLat := none
  wpLon := none

def twoAirports : Tables where
  sids := [legRow "KBBB" "DEP3" "RW09" 10 "SIX", legRow "KAAA" "DEP1" "RW18 " 20 "TWO",
    legRow "KAAA" "DEP2" "RW36" 10 "THREE", legRow "KAAA" "DEP1" "RW18 " 10 "ONE"]
  stars := [legRow "KBBB" "ARR1" "" 10 "SEVEN"]
  iaps := []
  runways := [⟨ofString "KBBB", some (ofString "RW09"), 0, 0, 0⟩, ⟨ofString "KAAA", some (ofString "RW36"), 0, 0, 0⟩,
    ⟨ofString "KAAA", some (ofString "RW18"), 0, 0, 0⟩]

theorem unpadded_twoAirports : twoAirports.Unpadded where
  procedures type row member := by
    have all : forall row, row ∈ twoAirports.sids ++ twoAirports.stars -> columnText row.airport = row.airport := by
      decide +kernel
    cases type
    · exact all row (List.mem_append_left _ member)
    · exact all row (List.mem_append_right _ member)
    · exact absurd member List.not_mem_nil
  runways := by decide +kernel

example : (loadProcedure .dfd1 zeroConversions twoAirports (ofString "KAAA")).map (fun data =>
    (data.procedures.map fun procedure => procedure.legs.map fun leg => leg.fix.ident, data.runways.map Runway.ident)) =
      some ([[ofString "ONE", ofString "TWO"], [ofString "THREE"]], [ofString "RW18", ofString "RW36"]) := by
  decide +kernel

example : (loadProcedures .dfd1 zeroConversions stableOrders twoAirports).map (fun entry =>
    (entry.2.procedures.map Procedure.type, entry.2.runways.map Runway.ident)) =
      [([.kSid, .kSid], [ofString "RW18", ofString "RW36"]), ([.kSid, .kStar], [ofString "RW09"])] := by
  decide +kernel

theorem loadProcedures_agrees_twoAirports :
    ((loadProcedures .dfd2 zeroConversions stableOrders twoAirports).map Prod.fst).Pairwise (· < ·) ∧
      forall icao : Text,
        (loadProcedure .dfd2 zeroConversions twoAirports icao = none ↔ forall data,
          (icao.takeWhile (· != 0), data) ∉ loadProcedures .dfd2 zeroConversions stableOrders twoAirports) ∧
        forall one all, loadProcedure .dfd2 zeroConversions twoAirports icao = some one ->
          (icao.takeWhile (· != 0), all) ∈ loadProcedures .dfd2 zeroConversions stableOrders twoAirports ->
            SameData one all :=
  loadProcedures_agrees .dfd2 zeroConversions stableOrders unpadded_twoAirports

end Dfd
end BravoFinder
