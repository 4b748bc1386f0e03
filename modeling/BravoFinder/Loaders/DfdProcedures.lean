import BravoFinder.Core.ProcedureText
import BravoFinder.Library.FlushScan
import BravoFinder.Library.KeyedMerge
import BravoFinder.Loaders.SqliteRows

namespace BravoFinder
namespace Dfd

/-!
# Procedures of the DFD databases

Procedures come from a table of legs for each of their types.  All of them are
loaded in one scan of each table, and the airports of the scans are merged; those
of one airport are loaded by queries that ask for its rows.  Versions 1 and 2 of
the database differ in columns only.
-/

inductive Version where
  | dfd1
  | dfd2
deriving DecidableEq

/-- A row of a procedure table.  Version 1 has no `courseFlag`. -/
structure ProcRow where
  airport : Text
  proc : Option Text
  routeType : Option Text
  transition : Option Text
  seqno : Option Int
  wpIdent : Option Text
  wpIcao : Option Text
  pathTerm : Option Text
  course : F64
  courseFlag : Option Text
  distValue : F64
  distFlag : Option Text
  altDesc : Option Text
  alt1 : Int32
  alt2 : Int32
  rnp : F64
  turnDir : Option Text
  speedLimit : Int32
  wptDesc : Option Text
  wpLat : Option F64
  wpLon : Option F64

structure RunwayRow where
  airport : Text
  ident : Option Text
  latitude : F64
  longitude : F64
  elevation : Int32

structure Tables where
  sids : List ProcRow
  stars : List ProcRow
  iaps : List ProcRow
  runways : List RunwayRow

/-- The table of a type. -/
def Tables.procTable (tables : Tables) : ProcedureType -> List ProcRow
  | .kSid => tables.sids
  | .kStar => tables.stars
  | .kApproach => tables.iaps

/-- The conversions of a `double`: to a `float`, and to hundredths, rounded and
clamped to an unsigned `short`. -/
structure Conversions where
  toFloat : F64 -> F32
  toCenti : F64 -> UInt16

/-! ## Legs and procedures -/

section Legs

variable (version : Version) (conversions : Conversions)

/-- `AppendLeg`: the leg of a row, unless its fix does not fit an identifier. -/
def readLeg (row : ProcRow) : Option ProcedureLeg :=
  match FixedIdent.fromParts (nullableText row.wpIdent) (nullableText row.wpIcao) with
  | .error _ => none
  | .ok fix =>
      let altitude := parseAltConstraint (nullableText row.altDesc) row.alt1 row.alt2
      let turn := nullableText row.turnDir
      let position := match row.wpLat, row.wpLon with
        | some lat, some lon => (conversions.toFloat lat, conversions.toFloat lon)
        | _, _ => (noPosition, noPosition)
      some
        { fix := fix
          fixLat := position.1
          fixLon := position.2
          courseDeg := conversions.toFloat row.course
          distanceNm := if equalsCode (nullableText row.distFlag) kDistTimeFlagDistance then
            conversions.toFloat row.distValue else 0
          alt1Ft := altitude.alt1Ft
          alt2Ft := altitude.alt2Ft
          rnpCentinm := conversions.toCenti row.rnp
          speedLimitKt := UInt16.ofNat (min row.speedLimit.toInt.toNat 65535)
          pathTerm := parsePathTerminator (nullableText row.pathTerm)
          altKind := altitude.kind
          turnDir := if equalsCode turn kTurnLeft then kTurnLeft else
            if equalsCode turn kTurnRight then kTurnRight else 0
          isMapt := isMaptDesc (nullableText row.wptDesc)
          courseTrue := version = .dfd2 && equalsCode (nullableText row.courseFlag) kCourseFlagTrue }

/-- A procedure whose rows are being read, with what it is known by. -/
structure OpenProcedure where
  name : Text
  trans : Text
  route : Text
  procedure : Procedure

/-- What was read of an airport. -/
structure ProcScan where
  current : Option OpenProcedure
  procedures : List Procedure

/-- `flush_proc`: a procedure without legs is dropped. -/
def flushProc (scan : ProcScan) : ProcScan :=
  ⟨none, scan.procedures ++ (scan.current.toList.map OpenProcedure.procedure).filter fun procedure =>
    !procedure.legs.isEmpty⟩

/-- The procedure that a row starts. -/
def startProcedure (type : ProcedureType) (name trans route : Text) : Procedure :=
  { type := type
    name := name
    transitionIdent := trans
    runway := if kRunwayPrefix.isPrefixOf trans then trans else
      if type = .kApproach then approachRunwayFromName name else []
    routeType := parseRouteTypeToken route
    legs := [] }

/-- `AppendLeg` to the procedure being read, or to the one that the row starts. -/
def appendLeg (type : ProcedureType) (row : ProcRow) (scan : ProcScan) : ProcScan :=
  let name := nullableText row.proc
  let trans := nullableText row.transition
  let route := nullableText row.routeType
  let current := scan.current.getD ⟨name, trans, route, startProcedure type name trans route⟩
  { scan with
    current := some { current with
      procedure := { current.procedure with
        legs := current.procedure.legs ++ (readLeg version conversions row).toList } } }

/-- One row of an airport. -/
def takeRow (type : ProcedureType) (scan : ProcScan) (row : ProcRow) : ProcScan :=
  let changed := scan.current.any fun current =>
    current.name ≠ nullableText row.proc ∨ current.trans ≠ nullableText row.transition ∨
      current.route ≠ nullableText row.routeType
  appendLeg version conversions type row (if changed then flushProc scan else scan)

/-! ## All airports -/

/-- `ORDER BY` the columns that tell procedures apart, and by number. -/
def byProcedure (row : ProcRow) : Option Text × Option Text × Option Text × Option Int :=
  (row.proc, row.transition, row.routeType, row.seqno)

def procedureBefore : (Option Text × Option Text × Option Text × Option Int) ->
    (Option Text × Option Text × Option Text × Option Int) -> Prop :=
  Prod.Lex (Option.lt (· < ·)) (Prod.Lex (Option.lt (· < ·)) (Prod.Lex (Option.lt (· < ·)) (Option.lt (· < ·))))

instance : DecidableRel procedureBefore :=
  inferInstanceAs (DecidableRel (Prod.Lex _ _))

def airportBefore : (Text × Option Text × Option Text × Option Text × Option Int) ->
    (Text × Option Text × Option Text × Option Text × Option Int) -> Prop :=
  Prod.Lex (· < ·) procedureBefore

instance : DecidableRel airportBefore :=
  inferInstanceAs (DecidableRel (Prod.Lex _ _))

/-- `flush_airport` puts out what a table has of an airport. -/
def flushAirport (scan : ProcScan) : Option CifpData :=
  let procedures := (flushProc scan).procedures
  if procedures = [] then none else some ⟨procedures, []⟩

/-- The scan of a table: a change of airport flushes. -/
def tableScan (type : ProcedureType) : FlushScan ProcRow Text ProcScan CifpData where
  key row := columnText row.airport
  start := ⟨none, []⟩
  take := takeRow version conversions type
  emit := flushAirport
  emit_start := rfl

/-- `LoadProcTable`. -/
def loadProcTable (type : ProcedureType) (rows : List ProcRow) : List (Text × CifpData) :=
  (tableScan version conversions type).run []
    (SortedIndex.sort (fun row => (row.airport, byProcedure row)) airportBefore rows)

end Legs

/-- The runway of a row. -/
def readRunway (row : RunwayRow) : Runway :=
  ⟨nullableText row.ident, ⟨row.latitude, row.longitude⟩, row.elevation⟩

/-- `LoadAllRunways`. -/
def loadAllRunways (rows : List RunwayRow) : List (Text × List Runway) :=
  (KeyedMerge.pushBack Text Runway).collect
    ((SortedIndex.sort (fun row : RunwayRow => (row.airport, row.ident)) (Prod.Lex (· < ·) (Option.lt (· < ·)))
      rows).map fun row => (columnText row.airport, readRunway row))

/-- The airports of the scans, merged where they are next to each other. -/
def airportMerge : KeyedMerge (Text × CifpData) (Text × CifpData) Text where
  key := Prod.fst
  slot := Prod.fst
  fresh item := item
  combine element item := (element.1, { element.2 with procedures := element.2.procedures ++ item.2.procedures })
  key_fresh _ := rfl
  key_combine _ _ := rfl

/-- An airport takes its runways, and they are erased. -/
def takeRunways (state : List (Text × CifpData) × List (Text × List Runway)) (entry : Text × CifpData) :
    List (Text × CifpData) × List (Text × List Runway) :=
  match (KeyedMerge.pushBack Text Runway).atKey entry.1 state.2 with
  | some found => (state.1 ++ [(entry.1, { entry.2 with runways := found.2 })],
      state.2.filter fun other => other.1 ≠ entry.1)
  | none => (state.1 ++ [entry], state.2)

/-- `MergeRunways`: what is left of the runways is appended in the order of a hash map. -/
def mergeRunways (hashOrder : List (Text × List Runway) -> List (Text × List Runway)) (out : List (Text × CifpData))
    (runways : List (Text × List Runway)) : List (Text × CifpData) :=
  let merged := out.foldl takeRunways ([], runways)
  merged.1 ++ ((hashOrder merged.2).filter fun entry => !entry.2.isEmpty).map fun entry => (entry.1, ⟨[], entry.2⟩)

/-- What the language leaves open: how `std::sort` orders equal airports, and in
which order a hash map is read. -/
structure Orders where
  airports : SortedIndex.AnySort (Prod.fst : Text × CifpData -> Text) (· < ·)
  hash : List (Text × List Runway) -> List (Text × List Runway)
  hash_perm : forall runways, List.Perm (hash runways) runways

/-- `LoadProcedures`. -/
def loadProcedures (version : Version) (conversions : Conversions) (orders : Orders) (tables : Tables) :
    List (Text × CifpData) :=
  let out := loadProcTable version conversions .kSid tables.sids ++
    loadProcTable version conversions .kStar tables.stars ++
    loadProcTable version conversions .kApproach tables.iaps
  let merged := airportMerge.collectBack (orders.airports.sort out)
  orders.airports.sort (mergeRunways orders.hash merged (loadAllRunways tables.runways))

/-! ## One airport -/

/-- The rows of an airport as its query gives them; version 2 names the airport in
`ORDER BY` too. -/
def airportRows (version : Version) (airport : Text) (rows : List ProcRow) : List ProcRow :=
  let own := rows.filter fun row => row.airport = airport
  match version with
  | .dfd1 => SortedIndex.sort byProcedure procedureBefore own
  | .dfd2 => SortedIndex.sort (fun row => (row.airport, byProcedure row)) airportBefore own

/-- `LoadAirportProcedures`. -/
def loadAirportProcedures (version : Version) (conversions : Conversions) (tables : Tables) (airport : Text) :
    Option CifpData :=
  let loadTable (procedures : List Procedure) (type : ProcedureType) : List Procedure :=
    (flushProc ((airportRows version airport (tables.procTable type)).foldl (takeRow version conversions type)
      ⟨none, procedures⟩)).procedures
  let procedures := [ProcedureType.kSid, .kStar, .kApproach].foldl loadTable []
  let runways := (SortedIndex.sort RunwayRow.ident (Option.lt (· < ·))
    (tables.runways.filter fun row => row.airport = airport)).map readRunway
  if procedures.isEmpty && runways.isEmpty then none else some ⟨procedures, runways⟩

/-- `LoadProcedure`: the ident is bound up to its first NUL. -/
def loadProcedure (version : Version) (conversions : Conversions) (tables : Tables) (icao : Text) : Option CifpData :=
  loadAirportProcedures version conversions tables (icao.takeWhile (· != 0))

end Dfd
end BravoFinder
