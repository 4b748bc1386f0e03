import BravoFinder.Navdb.FindRoutes
import BravoFinder.Routing.RouteString

namespace BravoFinder

/-!
# Routes from paths

The search returns vertices.  `MakeRoute` adds the airports, the gates that are
off the network and the legs between all of them, and `Assemble` chooses the
procedures of each end.
-/

/-- What `MakeRoute` is told of one end. -/
structure RouteEnd (R : Type) where
  /-- The airport, or nothing when the end is a waypoint. -/
  label : Text
  procedure : Text
  seedNm : R
  spliceVertex : Int
  spliceLegNm : R

namespace RouteEnd

variable {R : Type}

/-- `dep_splice` or `arr_splice`. -/
def spliced (routeEnd : RouteEnd R) : Bool :=
  decide (0 ≤ routeEnd.spliceVertex) && !routeEnd.label.isEmpty

/-- `dep_body_nm` or `arr_body_nm`. -/
def bodyNm [LinearOrder R] [Zero R] [Sub R] (routeEnd : RouteEnd R) : R :=
  if routeEnd.spliced then max 0 (routeEnd.seedNm - routeEnd.spliceLegNm) else routeEnd.seedNm

/-- The distance of the phase. -/
def phaseNm [LinearOrder R] [Zero R] [Sub R] (routeEnd : RouteEnd R) : R :=
  if routeEnd.label.isEmpty then 0 else routeEnd.bodyNm

end RouteEnd

namespace RouteAssembler

open ProcedureConnector

/-- `FormatRef`. -/
def formatRef (ref : ProcedureRef) : Text :=
  if ref.transition.isEmpty then ref.name else ref.name ++ ofString "." ++ ref.transition

/-- `FindConnection`. -/
def findConnection {R : Type} (plan : EndpointPlan R) (fixVertex : Int) : Option (ProcedureConnector.Connection R) :=
  plan.connections.find? fun c => c.fixVertex == fixVertex

/-! ## One route -/

section MakeRoute

variable {R : Type} [Field R] [LinearOrder R] (builder : GraphBuilder R) (options : SearchOptions R)

def identAt (vertex : Int) : Text :=
  (builder.identOf vertex).ident

def pointAt (vertex : Int) : RoutePoint R :=
  ⟨identAt builder vertex, builder.graph.coordOf vertex⟩

/-- The point of an airport, which lies at the fix when it is not known. -/
def airportPoint (label : Text) (fix : Int) : RoutePoint R :=
  let airport := builder.vertexByAirport (toUpper label)
  ⟨label, if 0 ≤ airport then builder.graph.coordOf airport else builder.graph.coordOf fix⟩

def leadingPoints (dep : RouteEnd R) (fix : Int) : List (RoutePoint R) :=
  if dep.label.isEmpty then []
  else airportPoint builder dep.label fix :: if dep.spliced then [pointAt builder dep.spliceVertex] else []

def trailingPoints (arr : RouteEnd R) (fix : Int) : List (RoutePoint R) :=
  if arr.label.isEmpty then []
  else (if arr.spliced then [pointAt builder arr.spliceVertex] else []) ++ [airportPoint builder arr.label fix]

/-- From the airport to the first fix of the path. -/
def leadingLegs (dep : RouteEnd R) (fix : Int) : List (RouteLeg R) :=
  if dep.label.isEmpty then []
  else if dep.spliced then
    [⟨dep.label, identAt builder dep.spliceVertex, kSidToken, dep.bodyNm, []⟩,
      ⟨identAt builder dep.spliceVertex, identAt builder fix, kDctToken, dep.spliceLegNm, []⟩]
  else [⟨dep.label, identAt builder fix, if dep.procedure.isEmpty then kDctToken else kSidToken, dep.seedNm, []⟩]

/-- From the last fix of the path to the airport. -/
def trailingLegs (arr : RouteEnd R) (fix : Int) : List (RouteLeg R) :=
  if arr.label.isEmpty then []
  else if arr.spliced then
    [⟨identAt builder fix, identAt builder arr.spliceVertex, kDctToken, arr.spliceLegNm, []⟩,
      ⟨identAt builder arr.spliceVertex, arr.label, kStarToken, arr.bodyNm, []⟩]
  else [⟨identAt builder fix, arr.label, if arr.procedure.isEmpty then kDctToken else kStarToken, arr.seedNm, []⟩]

/-- The leg between two fixes of the path. -/
def enrouteLeg (u w : Int) : RouteLeg R :=
  match selectEdge options builder.graph u w with
  | none => ⟨identAt builder u, identAt builder w, kDctToken, 0, []⟩
  | some (edge, _) => ⟨identAt builder u, identAt builder w, builder.airwayName edge.airwayId, edge.distanceNm, []⟩

def enrouteLegs : List Int -> List (RouteLeg R)
  | u :: w :: rest => enrouteLeg builder options u w :: enrouteLegs (w :: rest)
  | _ => []

/-- `MakeRoute`. -/
def makeRoute (path : ShortestPath R) (dep arr : RouteEnd R) : Route R :=
  match path.vertices with
  | [] => Route.bare path.distanceNm
  | first :: rest =>
      let last := (first :: rest).getLastD first
      let points := leadingPoints builder dep first ++ (first :: rest).map (pointAt builder) ++
        trailingPoints builder arr last
      let legs := leadingLegs builder dep first ++ enrouteLegs builder options (first :: rest) ++
        trailingLegs builder arr last
      let firstPoint := points.head?.elim [] RoutePoint.ident
      { Route.bare path.distanceNm with
        points := points
        legs := (buildRouteString firstPoint legs).2
        routeString := (buildRouteString firstPoint legs).1
        depDistanceNm := dep.phaseNm
        arrDistanceNm := arr.phaseNm
        enrouteDistanceNm := max 0 (path.distanceNm - dep.phaseNm - arr.phaseNm) }

end MakeRoute

/-! ## The procedures of a route -/

/-- The procedure a route names at one end, and those that could replace it. -/
structure Selected where
  name : Text
  iaf : Text
  runway : Text
  options : List Text
deriving DecidableEq

def Selected.nothing : Selected :=
  ⟨[], [], [], []⟩

/-- One reference of the loop: the first with a name is taken. -/
def Selected.consider (named : ProcedureRef -> Text) (selected : Selected) (ref : ProcedureRef) : Selected :=
  let listed := { selected with options := selected.options ++ [formatRef ref] }
  if listed.name.isEmpty then { listed with name := named ref, iaf := ref.iaf, runway := ref.runway } else listed

section Assemble

variable {R : Type} [Field R] [LinearOrder R]

/-- The references at a fix that are approaches, or that are not. -/
def refsAt (plan : EndpointPlan R) (fixVertex : Int) (approaches : Bool) : List ProcedureRef :=
  ((findConnection plan fixVertex).elim [] ProcedureConnector.Connection.procedures).filter fun ref =>
    (ref.type == .kApproach) == approaches

/-- `SelectProcedures`. -/
def selectProcedures (plan : EndpointPlan R) (fixVertex : Int) : Selected :=
  (refsAt plan fixVertex false).foldl (Selected.consider ProcedureRef.name) .nothing

/-- `SelectApproachProcedures`. -/
def selectApproachProcedures (plan : EndpointPlan R) (fixVertex : Int) : Selected :=
  (refsAt plan fixVertex true).foldl (Selected.consider formatRef) .nothing

/-- `ConnectionKindOf`. -/
def connectionKindOf (plan : EndpointPlan R) : ConnectionKind :=
  if plan.usedApproach then .kTerminalTransition
  else if plan.usedProcedures then .kProcedure
  else if plan.hasProcedures then .kRadarVectors
  else .kDirect

/-- `ArrivalKindForFix`. -/
def arrivalKindForFix (arr : EndpointPlan R) (arrFix : Int) : ConnectionKind :=
  match (findConnection arr arrFix).bind fun c => c.procedures.head? with
  | some front => if front.type == .kApproach then .kTerminalTransition else .kProcedure
  | none => connectionKindOf arr

/-- What `Assemble` tells `MakeRoute` of one end: `raw_seed_of`, and the gate
off the network. -/
def endOf (plan : EndpointPlan R) (fixVertex : Int) (procedure : Text) : RouteEnd R :=
  match findConnection plan fixVertex with
  | none => ⟨plan.airportIcao, procedure, 0, kNoVertex, 0⟩
  | some c => ⟨plan.airportIcao, procedure, c.seedDistanceNm, c.spliceVertex, c.spliceLegNm⟩

/-- The preference for STARs is no distance, and is taken off the total. -/
def stripPreference (route : Route R) : Route R :=
  let total := max 0 (route.totalDistanceNm - EndpointPlanner.kProcedurePreferNm)
  { route with
    totalDistanceNm := total
    enrouteDistanceNm := max 0 (total - route.depDistanceNm - route.arrDistanceNm) }

/-- One round of `Assemble`.  An empty path makes no route. -/
def assembleOne (builder : GraphBuilder R) (dep arr : EndpointPlan R) (arrSoftPrefer : Bool)
    (options : SearchOptions R) (forcedEcho : List Text) (path : ShortestPath R) : Option (Route R) :=
  match path.vertices with
  | [] => none
  | depFix :: rest =>
      let arrFix := (depFix :: rest).getLastD depFix
      let terminal := arrivalKindForFix arr arrFix = .kTerminalTransition
      let sid := selectProcedures dep depFix
      let star := if terminal then .nothing else selectProcedures arr arrFix
      let approach := if terminal then selectApproachProcedures arr arrFix else .nothing
      let made := makeRoute builder options path (endOf dep depFix sid.name) (endOf arr arrFix star.name)
      let route := if arrSoftPrefer = true ∧ terminal then stripPreference made else made
      some { route with
        sid := sid.name
        depRunway := sid.runway
        sidOptions := sid.options
        star := star.name
        arrRunway := if terminal then approach.runway else star.runway
        starOptions := star.options
        depConnection := connectionKindOf dep
        arrConnection := arrivalKindForFix arr arrFix
        terminalTransition := decide terminal
        approach := approach.name
        approachIaf := approach.iaf
        approachBearing :=
          if terminal then (findConnection arr arrFix).elim kNoBearing ProcedureConnector.Connection.approachBearing
          else kNoBearing
        approachOptions := approach.options
        forcedPoints := forcedEcho }

/-- `Assemble`. -/
def assemble (builder : GraphBuilder R) (paths : List (ShortestPath R)) (dep arr : EndpointPlan R)
    (arrSoftPrefer : Bool) (options : SearchOptions R) (forcedEcho : List Text) : List (Route R) :=
  paths.filterMap (assembleOne builder dep arr arrSoftPrefer options forcedEcho)

end Assemble

end RouteAssembler

/-- `FindRoutes`, from where both airports are planned. -/
def RouteQuery.findRoutes {R : Type} [Field R] [LinearOrder R] (query : RouteQuery R) :
    Except RouteRefusal (List (Route R)) :=
  query.findPathsOf.map fun found =>
    RouteAssembler.assemble query.builder found.2 query.dep query.arr (EndpointPlanner.softPreferStarActive query.arr)
      query.options (found.1.map ForcedPoint.echo)

end BravoFinder
