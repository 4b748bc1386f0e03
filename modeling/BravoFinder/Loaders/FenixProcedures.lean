import BravoFinder.Core.ProcedureText
import BravoFinder.Library.KeyedMerge
import BravoFinder.Loaders.SqliteRows

namespace BravoFinder
namespace Fenix

/-!
# Procedures of the Fenix database

One core builds the procedures and runways of the airports it is asked for, of
all or of one.  It reads the terminals, then the legs of their terminals, then
the runways; for one airport the queries filter and sort in another way.  A column
holds its value or null: the queries compare what is stored, and the code works on
what it reads, of an integer the low 32 bits.
-/

structure AirportRow where
  id : Option Int
  icao : Option Text

/-- The id as it is read. -/
def AirportRow.aid (row : AirportRow) : Int := columnInt row.id

structure TerminalRow where
  id : Option Int
  airportId : Option Int
  proc : Option Text
  name : Option Text
  rwy : Option Text

def TerminalRow.tid (row : TerminalRow) : Int := columnInt row.id

def TerminalRow.aid (row : TerminalRow) : Int := columnInt row.airportId

structure TerminalLegRow where
  id : Option Int
  terminalId : Option Int
  transition : Option Text
  trackCode : Option Text
  course : Option F64
  distance : Option F64
  alt : Option Text
  turnDir : Option Text
  wptId : Option Int
  wptDescCode : Option Text
  type : Option Text

def TerminalLegRow.tid (row : TerminalLegRow) : Int := columnInt row.terminalId

structure WaypointRow where
  id : Option Int
  ident : Option Text
  latitude : Option F64
  longitude : Option F64

structure RunwayRow where
  airportId : Option Int
  ident : Option Text
  latitude : Option F64
  longitude : Option F64
  elevation : Option Int

def RunwayRow.aid (row : RunwayRow) : Int := columnInt row.airportId

/-- The tables the procedures are built from.  `speedLimits` are the rows of
`TerminalLegsEx`, and `countries` those of `WaypointLookup`. -/
structure Tables where
  airports : List AirportRow
  terminals : List TerminalRow
  terminalLegs : List TerminalLegRow
  speedLimits : List (Option Int × Option F64)
  waypoints : List WaypointRow
  countries : List (Option Int × Option Text)
  runways : List RunwayRow

/-- The conversions of a `double`: to a `float`, and of a speed, clamped, to an
unsigned `short`. -/
structure Conversions where
  toFloat : F64 -> F32
  toSpeed : F64 -> UInt16

/-- `ParseFenixAlt`. -/
def parseFenixAlt (altText : Text) : AltitudeConstraint :=
  let isDigit := fun byte : UInt8 => 48 ≤ byte && byte ≤ 57
  match fromChars (altText.takeWhile isDigit) with
  | none => .none
  | some (val1, _) =>
      let rest := altText.dropWhile isDigit
      let second := fromChars (rest.tail.takeWhile isDigit)
      let desc2 := (rest.tail.dropWhile isDigit).head?
      match rest.head?, second with
      | some 66, some (val2, _) =>
          if desc2 = some 65 ∨ desc2 = some 43 then ⟨.kBetween, val1, val2⟩ else ⟨.kAtOrBelow, val1, 0⟩
      | some 43, _ => ⟨.kAtOrAbove, val1, 0⟩
      | some 65, _ => ⟨.kAtOrAbove, val1, 0⟩
      | some 45, _ => ⟨.kAtOrBelow, val1, 0⟩
      | some 66, _ => ⟨.kAtOrBelow, val1, 0⟩
      | _, _ => ⟨.kAt, val1, 0⟩

/-! ## Legs in their groups -/

/-- What the leg of a waypoint is placed by. -/
structure WptInfo where
  ident : Text
  icaoCode : Text
  latitude : F64
  longitude : F64

def WaypointRow.info (row : WaypointRow) (country : Option Text) : WptInfo :=
  ⟨nullableText row.ident, nullableText country, columnDouble row.latitude, columnDouble row.longitude⟩

/-- The rows of `Waypoints`, each joined with its countries. -/
def waypointRows (tables : Tables) : List (Int × WptInfo) :=
  tables.waypoints.flatMap fun row =>
    match tables.countries.filter fun country => columnsEqual row.id country.1 with
    | [] => [(columnInt row.id, row.info none)]
    | countries => countries.map fun country => (columnInt row.id, row.info country.2)

/-- `wp_info`: a later row of an id replaces an earlier one. -/
def wpInfo (tables : Tables) (id : Int) : Option WptInfo :=
  (waypointRows tables).reverse.lookup id

/-- The rows of `TerminalLegs` with their speed limits, in the order of the scan. -/
def legRows (tables : Tables) : List (TerminalLegRow × Option F64) :=
  orderBy2 (fun row => row.1.terminalId) (fun row => row.1.id) (tables.terminalLegs.flatMap fun row =>
    match tables.speedLimits.filter fun limit => columnsEqual row.id limit.1 with
    | [] => [(row, none)]
    | limits => limits.map fun limit => (row, limit.2))

/-- `ColumnOptInt`. -/
def columnOptInt (column : Option Int) : Int :=
  if column.isNone then -1 else columnInt column

/-- The leg of a row, unless its fix does not fit an identifier. -/
def readLeg (conversions : Conversions) (tables : Tables) (row : TerminalLegRow × Option F64) : Option ProcedureLeg :=
  let altitude := parseFenixAlt (nullableText row.1.alt)
  let turn := nullableText row.1.turnDir
  let withFix (fix : FixedIdent) (lat lon : F32) : ProcedureLeg :=
    { fix := fix
      fixLat := lat
      fixLon := lon
      courseDeg := conversions.toFloat (columnDouble row.1.course)
      distanceNm := conversions.toFloat (columnDouble row.1.distance)
      alt1Ft := altitude.alt1Ft
      alt2Ft := altitude.alt2Ft
      rnpCentinm := 0
      speedLimitKt := conversions.toSpeed (columnDouble row.2)
      pathTerm := parsePathTerminator (nullableText row.1.trackCode)
      altKind := altitude.kind
      turnDir := if equalsCode turn kTurnLeft then kTurnLeft else if equalsCode turn kTurnRight then kTurnRight else 0
      isMapt := isMaptDesc (nullableText row.1.wptDescCode)
      courseTrue := false }
  let unplaced := withFix ⟨[], [], Nat.zero_le _, Nat.zero_le _⟩ noPosition noPosition
  if columnOptInt row.1.wptId ≤ 0 then some unplaced
  else
    match wpInfo tables (columnOptInt row.1.wptId) with
    | none => some unplaced
    | some wpt =>
        match FixedIdent.fromParts wpt.ident wpt.icaoCode with
        | .error _ => none
        | .ok fix => some (withFix fix (conversions.toFloat wpt.latitude) (conversions.toFloat wpt.longitude))

/-- One published transition of a terminal. -/
structure LegGroup where
  legs : List ProcedureLeg
  transition : Text
  runway : Text
  routeType : Int32

/-- A leg that was read, with what its group is known by. -/
structure ReadLeg where
  terminalId : Int
  transition : Text
  routeType : Int32
  leg : ProcedureLeg

/-- The legs of the scan, of the terminals that are allowed. -/
def readLegs (conversions : Conversions) (tables : Tables) (allowedTids : Option (List Int)) : List ReadLeg :=
  (legRows tables).filterMap fun row =>
    if allowedTids.any fun tids => !tids.contains row.1.tid then none
    else (readLeg conversions tables row).map fun leg =>
      ⟨row.1.tid, nullableText row.1.transition, parseRouteTypeToken (nullableText row.1.type), leg⟩

/-- Legs into the groups of their transition and route type. -/
def groupMerge : KeyedMerge LegGroup ReadLeg (Text × Int32) where
  key group := (group.transition, group.routeType)
  slot item := (item.transition, item.routeType)
  fresh item := ⟨[item.leg], item.transition,
    if kRunwayPrefix.isPrefixOf item.transition then item.transition else [], item.routeType⟩
  combine group item := { group with legs := group.legs ++ [item.leg] }
  key_fresh _ := rfl
  key_combine _ _ := rfl

/-- Legs into the groups of their terminals. -/
def terminalMerge : KeyedMerge (Int × List LegGroup) ReadLeg Int where
  key := Prod.fst
  slot := ReadLeg.terminalId
  fresh item := (item.terminalId, groupMerge.insert [] item)
  combine groups item := (groups.1, groupMerge.insert groups.2 item)
  key_fresh _ := rfl
  key_combine _ _ := rfl

/-- `BuildLegGroups`. -/
def buildLegGroups (conversions : Conversions) (tables : Tables) (allowedTids : Option (List Int)) :
    List (Int × List LegGroup) :=
  terminalMerge.collect (readLegs conversions tables allowedTids)

/-! ## Procedures and runways -/

/-- `proc_by_tid[tid] = proc`. -/
def assignMerge : KeyedMerge (Int × Procedure) (Int × Procedure) Int where
  key := Prod.fst
  slot := Prod.fst
  fresh item := item
  combine element item := (element.1, item.2)
  key_fresh _ := rfl
  key_combine _ _ := rfl

/-- What a terminal gives each of its procedures. -/
def terminalProcedure (row : TerminalRow) : Procedure :=
  let type : ProcedureType :=
    if nullableText row.proc = ofString "2" then .kSid else if nullableText row.proc = ofString "1" then .kStar
    else .kApproach
  ⟨type, nullableText row.name, [], if type = .kApproach then normalizeRunwayIdent (nullableText row.rwy) else [], 0, []⟩

/-- `EmitTerminalProcedure`: what it adds to the procedures. -/
def emitTerminalProcedure (tid : Int) (procByTid : List (Int × Procedure)) (legGroups : List (Int × List LegGroup)) :
    List Procedure :=
  match assignMerge.atKey tid procByTid, terminalMerge.atKey tid legGroups with
  | some base, some groups => groups.2.map fun group =>
      { base.2 with
        transitionIdent := group.transition
        routeType := group.routeType
        runway := if base.2.type ≠ .kApproach then group.runway else base.2.runway
        legs := group.legs }
  | _, _ => []

/-- Whether one airport is asked for, and which. -/
def singleAirport (airportIds : Option (List Int)) : Option Int :=
  match airportIds with
  | some [aid] => some aid
  | _ => none

/-- Whether the code keeps a row of the airport. -/
def keepsAirport (airportIds : Option (List Int)) (aid : Int) : Bool :=
  airportIds.all fun ids => ids.contains aid

/-- The terminals, as the query gives them. -/
def terminalScan (tables : Tables) (airportIds : Option (List Int)) : List TerminalRow :=
  match singleAirport airportIds with
  | some aid => orderBy TerminalRow.id (tables.terminals.filter fun row => row.airportId = some aid)
  | none => (orderBy2 TerminalRow.airportId TerminalRow.id tables.terminals).filter fun row =>
      keepsAirport airportIds row.aid

/-- The runways, as the query gives them. -/
def runwayScan (tables : Tables) (airportIds : Option (List Int)) : List RunwayRow :=
  match singleAirport airportIds with
  | some aid => orderBy RunwayRow.ident (tables.runways.filter fun row => row.airportId = some aid)
  | none => (orderBy RunwayRow.airportId tables.runways).filter fun row => keepsAirport airportIds row.aid

def readRunway (row : RunwayRow) : Runway :=
  ⟨kRunwayPrefix ++ nullableText row.ident, ⟨columnDouble row.latitude, columnDouble row.longitude⟩,
    Int32.ofInt (columnInt row.elevation)⟩

/-- What is built for the airports.  Each airport is built on its own, so the
order of the hash maps does not matter. -/
def buildAirportProcedures (conversions : Conversions) (tables : Tables) (airportIds : Option (List Int)) :
    List (Int × CifpData) :=
  let terminals := terminalScan tables airportIds
  let procByTid := assignMerge.collect (terminals.map fun row => (row.tid, terminalProcedure row))
  let airportTids := (KeyedMerge.pushBack Int Int).collect (terminals.map fun row => (row.aid, row.tid))
  let allowedTids := airportIds.map fun _ => airportTids.flatMap Prod.snd
  let legGroups := buildLegGroups conversions tables allowedTids
  let runwaysByAirport := (KeyedMerge.pushBack Int Runway).collect
    ((runwayScan tables airportIds).map fun row => (row.aid, readRunway row))
  let withProcedures := airportTids.filterMap fun (aid, tids) =>
    let procedures := tids.flatMap fun tid => emitTerminalProcedure tid procByTid legGroups
    let runways := (((KeyedMerge.pushBack Int Runway).atKey aid runwaysByAirport).map Prod.snd).getD []
    if !procedures.isEmpty || !runways.isEmpty then some (aid, (⟨procedures, runways⟩ : CifpData)) else none
  let runwaysOnly := (runwaysByAirport.filter fun entry => !withProcedures.any fun built => built.1 == entry.1).map
    fun entry => (entry.1, (⟨[], entry.2⟩ : CifpData))
  withProcedures ++ runwaysOnly

/-! ## The two loads -/

/-- `LoadAirportIcaoMap`: a later row of an id replaces an earlier one. -/
def loadAirportIcaoMap (tables : Tables) (id : Int) : Option Text :=
  (tables.airports.reverse.find? fun row => row.aid = id).map fun row => nullableText row.icao

/-- `LoadProcedures`: the airports by id, those without an ICAO code left out. -/
def loadProcedures (conversions : Conversions) (tables : Tables) : List (Text × CifpData) :=
  (orderBy Prod.fst (buildAirportProcedures conversions tables none)).filterMap fun entry =>
    (loadAirportIcaoMap tables entry.1).map fun icao => (icao, entry.2)

/-- `LoadProcedure` for one airport, whose code is bound up to its first NUL: a
negative id is taken for a missing one. -/
def loadProcedure (conversions : Conversions) (tables : Tables) (icao : Text) : Option CifpData :=
  let wanted := icao.takeWhile (· != 0)
  match tables.airports.find? fun row => row.icao = some wanted with
  | none => none
  | some airport =>
      if airport.aid < 0 then none
      else (buildAirportProcedures conversions tables (some [airport.aid])).lookup airport.aid

end Fenix
end BravoFinder
