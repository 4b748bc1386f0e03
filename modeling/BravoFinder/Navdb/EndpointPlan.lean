import BravoFinder.Build.NameLookup
import BravoFinder.Build.ProcedureConnector
import BravoFinder.Navdb.EndpointPlanner
import BravoFinder.Navdb.NamedProcedure

namespace BravoFinder

/-!
# How an airport attaches to the airways

A plan lists the fixes at which a route may leave or reach an airport.  Its
procedures come first, gates off the network next, and straight lines to the
nearest fixes last.
-/

/-- `EndpointPlan`. -/
structure EndpointPlan (R : Type) where
  connections : List (ProcedureConnector.Connection R)
  /-- Empty when the endpoint is no airport. -/
  airportIcao : Text
  usedProcedures : Bool
  usedApproach : Bool
  hasProcedures : Bool
  namedProcedureUnmatched : Bool
  unknownRunway : Bool
  runway : Text
  /-- STARs and approaches compete in one pool. -/
  softPreferStar : Bool
deriving DecidableEq

/-- A plan without connections. -/
def EndpointPlan.none {R : Type} : EndpointPlan R :=
  ⟨[], [], false, false, false, false, false, [], false⟩

/-- `BuildDctFallback`. -/
def ProcedureConnector.buildDctFallback {R : Type} [Field R] [LinearOrder R] [FloorRing R] (around : Surroundings R)
    (bound : OutsideBound R) (airportCoord : Coordinate R) (limit : Int) (arrival : Bool) :
    List (ProcedureConnector.Connection R) :=
  (around.builder.nearestOnNetwork around.earth bound airportCoord limit arrival).map fun v =>
    let fixCoord := around.builder.graph.coordOf v
    ⟨v, around.earth.distanceTo airportCoord fixCoord,
      if arrival then around.earth.bearingTo fixCoord airportCoord else around.earth.bearingTo airportCoord fixCoord,
      kNoBearing, kNoVertex, 0, []⟩

namespace EndpointPlanner

open ProcedureConnector

/-- The preference is a numeral of every field. -/
instance atLeastTwo_preference : Nat.AtLeastTwo 15 :=
  ⟨by decide⟩

/-- `NormalizeRunway`. -/
def normalizeRunway (runway : Text) : Text :=
  let up := toUpper runway
  if !up.isEmpty && !(ofString "RW").isPrefixOf up then ofString "RW" ++ up else up

/-- `AirportHasRunway`. -/
def airportHasRunway (cifp : CifpData) (runway : Text) : Bool :=
  (cifp.runways.any fun r => r.ident == runway) || cifp.procedures.any fun p => p.runway == runway

/-- Whether the airport publishes procedures for the side. -/
def publishes (cifp : CifpData) (departure : Bool) : Bool :=
  cifp.procedures.any fun p =>
    if departure then p.type == .kSid else p.type == .kStar || p.type == .kApproach

section Pool

variable {R : Type} [LinearOrder R] [Add R] [OfNat R 15]

/-- `SortConnectionsBySeed`. -/
def sortConnectionsBySeed (byFix : List (ProcedureConnector.Connection R)) (softPreferStar : Bool) :
    List (ProcedureConnector.Connection R) :=
  byFix.insertionSort fun first second =>
    (toLex (effectiveSeedNm softPreferStar first, first.fixVertex) : R ×ₗ Int) ≤
      toLex (effectiveSeedNm softPreferStar second, second.fixVertex)

/-- `ToSearchEndpoints`. -/
def toSearchEndpoints (connections : List (ProcedureConnector.Connection R)) (softPreferStar : Bool) :
    List (SeededEndpoint R) :=
  connections.map fun c => ⟨c.fixVertex, effectiveSeedNm softPreferStar c, c.bearing⟩

end Pool

/-- `ScanProcedureTypes`: whether a procedure of one type is referenced.  There
an `else` keeps the two types apart; they differ anyway. -/
def anyOfType {R : Type} (connections : List (ProcedureConnector.Connection R)) (type : ProcedureType) : Bool :=
  connections.any fun c => c.procedures.any fun ref => ref.type == type

/-- `SoftPreferStarActive`. -/
def softPreferStarActive {R : Type} (plan : EndpointPlan R) : Bool :=
  plan.softPreferStar

section Plan

variable {R : Type} [Field R] [LinearOrder R] [FloorRing R] (around : Surroundings R) (bound : OutsideBound R)
  (airportCoord : Coordinate R) (rwy sel : Text) (avoid : SortedVector Int) (cifp : CifpData)

/-- The departures of `Plan`.  The exits of a named SID are looked for off the
network when it has none on it. -/
def planDeparture (plan : EndpointPlan R) : EndpointPlan R :=
  let built := buildSide around true airportCoord rwy cifp
  if !sel.isEmpty then
    let (any, filtered) := filterConnectionsByName built sel
    if any then { plan with connections := filtered, usedProcedures := !filtered.isEmpty }
    else
      let spliced := buildSidSpliceDeparture around bound airportCoord rwy sel avoid cifp
      if spliced.isEmpty then { plan with connections := spliced, namedProcedureUnmatched := true }
      else { plan with connections := spliced, usedProcedures := !spliced.isEmpty }
  else
    let connections :=
      if built.isEmpty then buildSidSpliceDeparture around bound airportCoord rwy [] avoid cifp else built
    { plan with connections := connections, usedProcedures := !connections.isEmpty }

/-- The pool of the STARs off the network and the approaches. -/
def planPool (plan : EndpointPlan R) : EndpointPlan R :=
  let stars := buildStarSpliceArrival around bound airportCoord rwy [] avoid cifp
  let apch := buildApproachArrival around bound airportCoord rwy cifp
  let softPrefer := !stars.isEmpty && !apch.isEmpty
  let pool := sortConnectionsBySeed (mergeAll stars apch softPrefer) softPrefer
  { plan with
    connections := pool
    usedProcedures := anyOfType pool .kStar && !anyOfType pool .kApproach
    usedApproach := anyOfType pool .kApproach && !anyOfType pool .kStar
    softPreferStar := softPrefer }

/-- The arrivals of `Plan`. -/
def planArrival (plan : EndpointPlan R) : EndpointPlan R :=
  let built := buildSide around false airportCoord rwy cifp
  if !sel.isEmpty then
    let (any, filtered) := filterConnectionsByName built sel
    if any then { plan with connections := filtered, usedProcedures := true }
    else
      let spliced := buildStarSpliceArrival around bound airportCoord rwy sel avoid cifp
      if spliced.isEmpty then { plan with connections := spliced, namedProcedureUnmatched := true }
      else { plan with connections := spliced, usedProcedures := true }
  else if !built.isEmpty then { plan with connections := built, usedProcedures := true }
  else planPool around bound airportCoord rwy avoid cifp plan

/-- Straight lines for an airport that has no connection. -/
def orDirect (departure : Bool) (plan : EndpointPlan R) : EndpointPlan R :=
  if plan.connections.isEmpty then
    { plan with connections := buildDctFallback around bound airportCoord 5 !departure }
  else plan

/-- The plan of an airport with procedure data. -/
def planProcedures (departure : Bool) (plan : EndpointPlan R) : EndpointPlan R :=
  if !rwy.isEmpty && !airportHasRunway cifp rwy then { plan with unknownRunway := true }
  else
    let planned :=
      if departure then planDeparture around bound airportCoord rwy sel avoid cifp plan
      else planArrival around bound airportCoord rwy sel avoid cifp plan
    if planned.namedProcedureUnmatched then planned else orDirect around bound airportCoord departure planned

end Plan

/-- `Plan`. -/
def plan {R : Type} [Field R] [LinearOrder R] [FloorRing R] (around : Surroundings R) (bound : OutsideBound R)
    (request : RouteRequest R) (name : Text) (departure : Bool)
    (cifpLookup : Text -> Except Error (Option CifpData)) (avoid : SortedVector Int) :
    Except Error (EndpointPlan R) :=
  let up := toUpper name
  let airport := around.builder.vertexByAirport up
  if 0 ≤ airport then
    let plan := { EndpointPlan.none with airportIcao := up }
    let apt := around.builder.graph.coordOf airport
    match cifpLookup up with
    | .error e => .error e
    | .ok (some cifp) =>
        let rwy := normalizeRunway (if departure then request.departureRunway else request.arrivalRunway)
        let sel := toUpper (if departure then request.departureSid else request.arrivalStar)
        .ok (planProcedures around bound apt rwy sel avoid cifp departure
          { plan with hasProcedures := publishes cifp departure, runway := rwy })
    | .ok none =>
        if !(if departure then request.departureSid else request.arrivalStar).isEmpty then
          .ok { plan with namedProcedureUnmatched := true }
        else .ok (orDirect around bound apt departure plan)
  else .ok EndpointPlan.none

end EndpointPlanner
end BravoFinder
