import BravoFinder.Cache.CifpSegment
import BravoFinder.Library.LazySearch
import BravoFinder.Navdb.AirwayIndex
import Mathlib.Algebra.Order.Field.Basic
import Mathlib.Algebra.Order.Ring.Defs

namespace BravoFinder

/-!
# Parsing a filed route

`ParseRoute` reads a route back from its tokens.  Airports stand at both ends;
what lies between alternates fixes and connectors.  A fix is looked up near the
previous one, and an airway is expanded into its own fixes by a search that
follows the edges of that airway only.
-/

/-! ## Tokens -/

/-- `is_space`. -/
def isSpace (c : UInt8) : Bool :=
  c == 32 || (decide (9 ≤ c) && decide (c ≤ 13))

/-- The loop of `TokenizeRoute`, with the token read so far. -/
def splitTokens (token : Text) : Text -> List Text
  | [] => if token = [] then [] else [token]
  | c :: rest =>
      if isSpace c then
        if token = [] then splitTokens [] rest else token :: splitTokens [] rest
      else splitTokens (token ++ [c]) rest

def tokenizeRoute (routeStr : Text) : List Text :=
  (splitTokens [] routeStr).map toUpper

/-! ## The database -/

/-- `std::greater` on a distance and a vertex. -/
def pairGreater {R : Type} [LT R] (first second : R × Int) : Prop :=
  second.1 < first.1 ∨ (second.1 = first.1 ∧ second.2 < first.2)

/-- What `ParseRoute` reads of a database that is loaded.  `priorityQueue` is what
the standard library provides. -/
structure NavDatabase (R : Type) [LinearOrder R] [Zero R] where
  builder : GraphBuilder R
  earth : Geodesy R
  priorityQueue : StdHeap (R × Int) pairGreater
  proceduresFor : Text -> Except Error (Option CifpData)

/-- A waypoint token: its vertex and coordinate. -/
structure ResolvedFix (R : Type) where
  vertex : Int
  coord : Coordinate R

/-- The route so far, and what is expected next. -/
structure ParseState (R : Type) where
  points : List (RoutePoint R)
  legs : List (RouteLeg R)
  totalDistanceNm : R
  pointVertices : List Int
  prevVertex : Int
  ref : Coordinate R
  expectFix : Bool
  /-- Empty until a connector is seen. -/
  pendingConnector : Text

/-- A route that cannot be parsed. -/
def parseError (message : Text) : Error := ⟨.kRouteParseError, message⟩

namespace NavDatabase

variable {R : Type} [Field R] [LinearOrder R] (db : NavDatabase R)

/-! ## Fixes -/

/-- One match of a bare identifier. -/
def nearerFix (ref : Coordinate R) (best : Int × R) (v : Int) : Int × R :=
  if db.builder.isAirport v then best
  else
    let d := db.earth.distanceTo ref (db.builder.graph.coordOf v)
    if best.1 < 0 ∨ d < best.2 then (v, d) else best

/-- `resolve_fix`.  The vertex is `-1` when no waypoint matches. -/
def resolveFix (token : Text) (ref : Coordinate R) : ResolvedFix R :=
  if token.contains 47 then
    let v := db.builder.vertexByFullIdent ⟨token.takeWhile (· ≠ 47), (token.dropWhile (· ≠ 47)).tail⟩
    if v < 0 ∨ db.builder.isAirport v = true then ⟨-1, ⟨0, 0⟩⟩ else ⟨v, db.builder.graph.coordOf v⟩
  else
    let best := (db.builder.verticesByIdent token).foldl (db.nearerFix ref) (-1, 0)
    if best.1 < 0 then ⟨-1, ⟨0, 0⟩⟩ else ⟨best.1, db.builder.graph.coordOf best.1⟩

/-! ## Airways -/

/-- Whether an edge is on the airway `name`. -/
def onAirway (name : Text) (e : GraphEdge R) : Bool :=
  decide (e.airwayId ≠ 0) && (splitDesignators (db.builder.airwayName e.airwayId)).any fun d2 => d2 == name

/-- The search along one airway. -/
def airwaySearch (name : Text) : LazySearch Int R where
  steps u := ((db.builder.graph.edgesFrom u).filter (db.onAirway name)).map fun e => (e.toVertex, e.distanceNm)
  later := pairGreater
  later_of_lt := Or.inl
  queue := db.priorityQueue
  nowhere := -1

/-- Every edge is followed once at most. -/
def airwayFuel : Nat :=
  1 + (db.builder.graph.vertices.map fun vertex => (db.builder.graph.edgesFrom vertex).length).sum

/-- `expand_airway`. -/
def expandAirway (name : Text) (source target : Int) : List Int :=
  (db.airwaySearch name).chain source target db.airwayFuel (db.builder.graph.coords.length + 1)

/-! ## Between the airports -/

/-- The point at a vertex. -/
def pointAt (vertex : Int) : RoutePoint R :=
  ⟨(db.builder.identOf vertex).ident, db.builder.graph.coordOf vertex⟩

/-- `add_point`. -/
def addPoint (state : ParseState R) (vertex : Int) : ParseState R :=
  { state with
    pointVertices := state.pointVertices ++ [vertex]
    points := state.points ++ [db.pointAt vertex]
    prevVertex := vertex
    ref := db.builder.graph.coordOf vertex }

/-- Push a leg and add its length. -/
def addLeg (state : ParseState R) (leg : RouteLeg R) : ParseState R :=
  { state with legs := state.legs ++ [leg], totalDistanceNm := state.totalDistanceNm + leg.distanceNm }

/-- The leg to a vertex. -/
def legTo (source target : Int) (via : Text) : RouteLeg R :=
  ⟨(db.builder.identOf source).ident, (db.builder.identOf target).ident, via,
    db.earth.distanceTo (db.builder.graph.coordOf source) (db.builder.graph.coordOf target), []⟩

/-- One hop of an airway.  `hop_from` is the previous vertex all the time. -/
def addHop (via : Text) (state : ParseState R) (v : Int) : ParseState R :=
  db.addPoint (addLeg state (db.legTo state.prevVertex v via)) v

/-- After a fix. -/
def fixSeen (state : ParseState R) : ParseState R :=
  { state with pendingConnector := [], expectFix := false }

/-- A fix where one is expected. -/
def takeFix (tok : Text) (state : ParseState R) : Except Error (ParseState R) :=
  let rf := db.resolveFix tok state.ref
  if rf.vertex < 0 then
    .error (parseError (ofString "token '" ++ tok ++ ofString "' is not a known waypoint at this position"))
  else if state.prevVertex < 0 then .ok (fixSeen (db.addPoint state rf.vertex))
  else if state.pendingConnector = kDctToken ∨ state.pendingConnector = [] then
    let d := db.earth.distanceTo (db.builder.graph.coordOf state.prevVertex) rf.coord
    let leg : RouteLeg R := ⟨(db.builder.identOf state.prevVertex).ident, (db.builder.identOf rf.vertex).ident,
      kDctToken, d, []⟩
    .ok (fixSeen (db.addPoint (addLeg state leg) rf.vertex))
  else
    let chain := db.expandAirway state.pendingConnector state.prevVertex rf.vertex
    if chain = [] then
      .error (parseError (ofString "airway '" ++ state.pendingConnector ++ ofString "' does not connect " ++
        (db.builder.identOf state.prevVertex).ident ++ ofString " to " ++ tok))
    else .ok (fixSeen (chain.foldl (db.addHop state.pendingConnector) state))

/-- A connector where one is expected. -/
def takeConnector (tok : Text) (state : ParseState R) : Except Error (ParseState R) :=
  let upTok := toUpper tok
  if tok = kDctToken then .ok { state with pendingConnector := kDctToken, expectFix := true }
  else if (db.builder.findAirway upTok).isSome then .ok { state with pendingConnector := upTok, expectFix := true }
  else .error (parseError (ofString "two consecutive fixes '" ++ tok ++
    ofString "' with no connector (expected DCT or airway)"))

/-- One token of the loop. -/
def takeToken (state : ParseState R) (tok : Text) : Except Error (ParseState R) :=
  if state.expectFix then db.takeFix tok state else db.takeConnector tok state

/-- Before the first token. -/
def startAt (ref : Coordinate R) : ParseState R :=
  ⟨[], [], 0, [], -1, ref, true, []⟩

/-- The loop. -/
def enroute (ref : Coordinate R) (tokens : List Text) : Except Error (ParseState R) :=
  tokens.foldlM db.takeToken (startAt ref)

/-! ## The ends -/

/-- What was recognised next to the airports, and the tokens left between. -/
structure Ends where
  middle : List Text
  sidName : Text
  depViaSid : Bool
  depExplicit : Bool
  starName : Text
  arrViaStar : Bool
  arrExplicit : Bool

/-- `airport_has_procedure`.  The name of an airport is not empty. -/
def airportHasProcedure (icao procName : Text) (type : ProcedureType) : Except Error Bool :=
  match db.proceduresFor icao with
  | .error error => .error error
  | .ok none => .ok false
  | .ok (some cifp) => .ok (cifp.procedures.any fun p => decide (p.type = type) && p.name == procName)

/-- A procedure connector next to an airport: its name, which the keyword leaves
empty, and whether there is one. -/
def takeProcedure (icao keyword : Text) (type : ProcedureType) (token : Option Text) : Except Error (Text × Bool) :=
  match token with
  | none => .ok ([], false)
  | some token =>
      if token = keyword then .ok ([], true)
      else match db.airportHasProcedure icao token type with
      | .error error => .error error
      | .ok has => .ok (if has then token else [], has)

/-- The tokens next to the airports.  A `DCT` there is consumed, unless it stands
alone. -/
def recognizeEnds (depAirport arrAirport : Text) (tokens : List Text) : Except Error Ends :=
  let arrDct := decide (1 < tokens.length) && tokens.getLast? == some kDctToken
  let middle := if arrDct then tokens.dropLast else tokens
  match db.takeProcedure depAirport kSidToken .kSid middle.head? with
  | .error error => .error error
  | .ok (sidName, depViaSid) =>
      let middle := if depViaSid then middle.tail else middle
      let depDct := !depViaSid && middle.head? == some kDctToken && decide (1 < middle.length)
      let middle := if depDct then middle.tail else middle
      match db.takeProcedure arrAirport kStarToken .kStar middle.getLast? with
      | .error error => .error error
      | .ok (starName, arrViaStar) =>
          let middle := if arrViaStar then middle.dropLast else middle
          .ok ⟨middle, sidName, depViaSid, depViaSid || depDct, starName, arrViaStar, arrDct || arrViaStar⟩

/-- The distances of the two procedures, which are read off the connectors. -/
def phaseStep (sums : R × R) (leg : RouteLeg R) : R × R :=
  if leg.via = kSidToken then (sums.1 + leg.distanceNm, sums.2)
  else if leg.via = kStarToken then (sums.1, sums.2 + leg.distanceNm)
  else sums

/-- `BuildRouteString` and `FinalizePhaseSplit`. -/
def finalizeRoute (points : List (RoutePoint R)) (legs : List (RouteLeg R)) (totalDistanceNm : R)
    (sid star : Text) (depViaSid arrViaStar : Bool) : Route R :=
  let built := buildRouteString ((points.head?.map RoutePoint.ident).getD []) legs
  let sums := built.2.foldl phaseStep (0, 0)
  { Route.bare totalDistanceNm with
    points := points
    legs := built.2
    routeString := built.1
    depDistanceNm := sums.1
    enrouteDistanceNm := max 0 (totalDistanceNm - sums.1 - sums.2)
    arrDistanceNm := sums.2
    sid := sid
    star := star
    depConnection := if depViaSid then .kProcedure else .kDirect
    arrConnection := if arrViaStar then .kProcedure else .kDirect }

/-- `DEP DCT ARR`. -/
def directRoute (depAirport arrAirport : Text) : Route R :=
  let dep := db.builder.graph.coordOf (db.builder.vertexByAirport depAirport)
  let arr := db.builder.graph.coordOf (db.builder.vertexByAirport arrAirport)
  finalizeRoute [⟨depAirport, dep⟩, ⟨arrAirport, arr⟩]
    [⟨depAirport, arrAirport, kDctToken, db.earth.distanceTo dep arr, []⟩] (0 + db.earth.distanceTo dep arr) [] []
    false false

/-- The departure airport prepended and the arrival airport appended. -/
def joinAirports (depAirport arrAirport : Text) (ends : Ends) (state : ParseState R) : Route R :=
  let first := state.pointVertices.headD (-1)
  let last := state.pointVertices.getLastD (-1)
  let dep := db.builder.graph.coordOf (db.builder.vertexByAirport depAirport)
  let arr := db.builder.graph.coordOf (db.builder.vertexByAirport arrAirport)
  let depLeg : RouteLeg R := ⟨depAirport, (db.builder.identOf first).ident,
    if ends.depViaSid then kSidToken else kDctToken, db.earth.distanceTo dep (db.builder.graph.coordOf first), []⟩
  let arrLeg : RouteLeg R := ⟨(db.builder.identOf last).ident, arrAirport,
    if ends.arrViaStar then kStarToken else kDctToken, db.earth.distanceTo (db.builder.graph.coordOf last) arr, []⟩
  finalizeRoute (⟨depAirport, dep⟩ :: state.points ++ [⟨arrAirport, arr⟩]) (depLeg :: state.legs ++ [arrLeg])
    (state.totalDistanceNm + depLeg.distanceNm + arrLeg.distanceNm) ends.sidName ends.starName ends.depViaSid
    ends.arrViaStar

/-- What is left to check after the loop. -/
def finishRoute (depAirport arrAirport : Text) (ends : Ends) (state : ParseState R) : Except Error (Route R) :=
  if state.pointVertices = [] then .error (parseError (ofString "route has no waypoints"))
  else if state.pendingConnector ≠ [] then
    .error (parseError (ofString "route ends with '" ++ state.pendingConnector ++ ofString "' but no fix"))
  else if !ends.depExplicit then
    .error (parseError (ofString "departure airport '" ++ depAirport ++
      ofString "' has no connector to the first fix (expected DCT or SID)"))
  else if !ends.arrExplicit then
    .error (parseError (ofString "arrival airport '" ++ arrAirport ++
      ofString "' has no connector to the last fix (expected DCT or STAR)"))
  else .ok (db.joinAirports depAirport arrAirport ends state)

/-- The tokens between two airports. -/
def parseBetween (depAirport arrAirport : Text) (tokens : List Text) : Except Error (Route R) :=
  match db.recognizeEnds depAirport arrAirport tokens with
  | .error error => .error error
  | .ok ends =>
      if ends.middle = [kDctToken] ∧ ends.depViaSid = false ∧ ends.arrViaStar = false then
        .ok (db.directRoute depAirport arrAirport)
      else match db.enroute (db.builder.graph.coordOf (db.builder.vertexByAirport depAirport)) ends.middle with
      | .error error => .error error
      | .ok state => db.finishRoute depAirport arrAirport ends state

/-- A route is bracketed by airports, and every adjacent pair needs a connector. -/
def parseTokens (tokens : List Text) : Except Error (Route R) :=
  let front := tokens.headD []
  let back := tokens.getLastD []
  if tokens = [] then .error (parseError (ofString "empty route string"))
  else if db.builder.vertexByAirport front < 0 then
    .error (parseError (ofString "route must start with a departure airport ICAO (first token '" ++ front ++
      ofString "' is not a known airport)"))
  else if tokens.length < 2 then
    .error (parseError (ofString
      "route has only a departure airport; expected an arrival airport and a connector"))
  else if db.builder.vertexByAirport back < 0 then
    .error (parseError (ofString "route must end with an arrival airport ICAO (last token '" ++ back ++
      ofString "' is not a known airport)"))
  else if tokens.length = 2 then
    .error (parseError (ofString "airport pair '" ++ front ++ ofString " " ++ back ++
      ofString "' has no connector (expected '" ++ front ++ ofString " DCT " ++ back ++ ofString "')"))
  else db.parseBetween front back tokens.tail.dropLast

/-- `ParseRoute`. -/
def parseRoute (db : Option (NavDatabase R)) (routeStr : Text) : Except Error (Route R) :=
  match db with
  | none => .error ⟨.kDataMissing, ofString "database not loaded"⟩
  | some db => db.parseTokens (tokenizeRoute routeStr)

end NavDatabase
end BravoFinder
