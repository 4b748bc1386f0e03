import BravoFinder.Navdb.EndpointPlan
import BravoFinder.Navdb.ForcedRouter

namespace BravoFinder

/-!
# From two plans to the paths of a query

`FindRoutes` turns the plans of both airports into seeded endpoints, resolves
the forced points and runs the search that the request asks for.
-/

/-! ## Forced points -/

/-- A forced point: its vertex, and how it is echoed. -/
structure ForcedPoint where
  vertex : Int
  echo : Text
deriving DecidableEq

/-- Why the forced points of a request are refused. -/
inductive ForcedRefusal where
  | tooMany (got : Nat)
  | unknown (token : Text) (isAirport : Bool)
  | avoided (token : Text)
  /-- The point lacks an inbound or an outbound edge. -/
  | oneWay (token : Text) (point : ForcedPoint)
  | repeated (token : Text)
deriving DecidableEq

/-- `forced point '` and the token. -/
def naming (token rest : Text) : Text :=
  ofString "forced point '" ++ token ++ rest

/-- The error a request is answered with. -/
def ForcedRefusal.error (refusal : ForcedRefusal) : Error :=
  match refusal with
  | tooMany got => ⟨.kRouteParseError, ofString "at most " ++ decimal kMaxForcedPoints ++
      ofString " forced points are supported (got " ++ decimal got ++ ofString ")"⟩
  | unknown token isAirport => ⟨.kRouteParseError, naming token
      (if isAirport then ofString "' is an airport, not an enroute waypoint" else ofString "' is not a known waypoint")⟩
  | avoided token => ⟨.kRouteParseError, naming token (ofString "' is also in the avoid list")⟩
  | oneWay token point => ⟨.kNoRoute, naming token
      (ofString "' (" ++ point.echo ++ ofString ") is not on the airway network in both directions")⟩
  | repeated token => ⟨.kRouteParseError, naming token (ofString "' is repeated")⟩

namespace ForcedRouter

section Resolve

variable {R : Type} [LinearOrder R] [Zero R] [Add R] (builder : GraphBuilder R) (earth : Geodesy R)

/-- The best match of a name so far. -/
structure NameMatch (R : Type) where
  vertex : Int
  tier : Nat
  detour : R

/-- How well a route could pass through a vertex. -/
def tier (v : Int) : Nat :=
  if builder.hasInbound v && builder.hasOutbound v then 0 else if builder.onNetwork v then 1 else 2

/-- One match of a bare identifier. -/
def matchStep (origin target : Coordinate R) (best : Option (NameMatch R)) (v : Int) : Option (NameMatch R) :=
  if builder.isAirport v then best
  else
    let c := builder.graph.coordOf v
    let detour := earth.distanceTo origin c + earth.distanceTo c target
    let t := tier builder v
    match best with
    | none => some ⟨v, t, detour⟩
    | some kept => if t < kept.tier ∨ t = kept.tier ∧ detour < kept.detour then some ⟨v, t, detour⟩ else best

/-- `echo`. -/
def echoOf (id : Ident) : Text :=
  id.ident ++ ofString "/" ++ id.arinc424IcaoCode

/-- `ResolvePoint`.  On failure, whether only airports have the name. -/
def resolvePoint (token : Text) (origin target : Coordinate R) : Except Bool ForcedPoint :=
  let up := toUpper token
  if up.contains 47 then
    let id : Ident := ⟨up.takeWhile (· ≠ 47), (up.dropWhile (· ≠ 47)).tail⟩
    let v := builder.vertexByFullIdent id
    if v < 0 then .error false
    else if builder.isAirport v then .error true
    else .ok ⟨v, echoOf id⟩
  else
    let candidates := builder.verticesByIdent up
    match candidates.foldl (matchStep builder earth origin target) none with
    | none => .error (candidates.any builder.isAirport)
    | some best => .ok ⟨best.vertex, echoOf (builder.identOf best.vertex)⟩

/-- A forced point that lacks a direction. -/
def oneWay (v : Int) : Bool :=
  !builder.hasInbound v || !builder.hasOutbound v

/-- One round of the loop over the forced points. -/
def admitToken (avoid : SortedVector Int) (origin target : Coordinate R) (forced : List ForcedPoint) (token : Text) :
    Except ForcedRefusal (List ForcedPoint) :=
  match resolvePoint builder earth token origin target with
  | .error isAirport => .error (.unknown token isAirport)
  | .ok point =>
      if avoid.binarySearch point.vertex then .error (.avoided token)
      else if oneWay builder point.vertex then .error (.oneWay token point)
      else if forced.any fun other => other.vertex == point.vertex then .error (.repeated token)
      else .ok (forced ++ [point])

/-- The forced points of a request. -/
def admitAll (avoid : SortedVector Int) (origin target : Coordinate R) (tokens : List Text) :
    Except ForcedRefusal (List ForcedPoint) :=
  if kMaxForcedPoints < tokens.length then .error (.tooMany tokens.length)
  else tokens.foldlM (admitToken builder earth avoid origin target) []

end Resolve

end ForcedRouter

/-! ## The query -/

/-- Why a query between two planned airports has no routes. -/
inductive RouteRefusal where
  | allAvoided
  | forced (refusal : ForcedRefusal)
  | noRoute
deriving DecidableEq

/-- The error a query is answered with. -/
def RouteRefusal.error (refusal : RouteRefusal) : Error :=
  match refusal with
  | allAvoided => ⟨.kNoRoute, ofString "no route between endpoints (avoided all connection fixes)"⟩
  | forced refusal => refusal.error
  | noRoute => ⟨.kNoRoute, ofString "no route between endpoints"⟩

/-- What `FindRoutes` has when both airports are planned. -/
structure RouteQuery (R : Type) [LinearOrder R] [Zero R] [One R] [Neg R] where
  builder : GraphBuilder R
  engine : Engine R
  heaps : PickHeaps R
  request : RouteRequest R
  dep : EndpointPlan R
  arr : EndpointPlan R
  options : SearchOptions R
  avoidVertices : SortedVector Int

namespace RouteQuery

open EndpointPlanner

variable {R : Type} [Field R] [LinearOrder R] [IsStrictOrderedRing R] (query : RouteQuery R)

/-- `drop_avoided`. -/
def dropAvoided (endpoints : List (SeededEndpoint R)) : List (SeededEndpoint R) :=
  endpoints.filter fun e => !query.avoidVertices.binarySearch e.vertex

def sources : List (SeededEndpoint R) :=
  query.dropAvoided (toSearchEndpoints query.dep.connections false)

def goals : List (SeededEndpoint R) :=
  query.dropAvoided (toSearchEndpoints query.arr.connections (softPreferStarActive query.arr))

/-- The position of an airport, or of the first fix that stands for it. -/
def endpointCoord (icao : Text) (endpoints : List (SeededEndpoint R)) : Coordinate R :=
  let airport := query.builder.vertexByAirport (toUpper icao)
  if 0 ≤ airport then query.builder.graph.coordOf airport
  else query.builder.graph.coordOf (endpoints.head?.elim kNoVertex SeededEndpoint.vertex)

/-- The forced points, or why one is refused. -/
def forced : Except ForcedRefusal (List ForcedPoint) :=
  if query.request.forcedPoints.isEmpty then .ok []
  else ForcedRouter.admitAll query.builder query.engine.earth query.avoidVertices
    (query.endpointCoord query.request.departure query.sources)
    (query.endpointCoord query.request.arrival query.goals) query.request.forcedPoints

/-- The search a query runs. -/
def search (forced : List ForcedPoint) : List (ShortestPath R) :=
  let k := max 1 query.request.k
  if !forced.isEmpty then
    findPaths query.engine query.heaps query.builder.graph query.sources query.goals (forced.map ForcedPoint.vertex)
      k query.options
  else if k = 1 then
    let best := findShortestPathMulti query.engine query.builder.graph query.sources query.goals query.options
    if best.found && !best.vertices.isEmpty then [best] else []
  else findKShortestPathsMulti query.engine query.builder.graph query.sources query.goals k query.options

/-- The paths of a query and its forced points, from where both plans are
there. -/
def findPathsOf : Except RouteRefusal (List ForcedPoint × List (ShortestPath R)) :=
  if !query.avoidVertices.elems.isEmpty && (query.sources.isEmpty || query.goals.isEmpty) then .error .allAvoided
  else match query.forced with
    | .error refusal => .error (.forced refusal)
    | .ok forced =>
        let paths := query.search forced
        if paths.isEmpty then .error .noRoute else .ok (forced, paths)

end RouteQuery
end BravoFinder
