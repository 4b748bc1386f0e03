import BravoFinder.Constraints.ConstraintAssembly
import BravoFinder.Graph.PathVerdict
import BravoFinder.Navdb.AssembledRoutes
import BravoFinder.Navdb.ViaPoints

namespace BravoFinder

/-!
# Routes comply with their request

`FindRoutes` as a whole, from the request to the routes: the constraints, the
plans of both airports, the search and the assembly.  The parts meet here.  A
plan offers only fixes of the airways and no gate that is to be avoided, the
search follows only edges that the chain of constraints lets through, and the
assembly draws what was found.
-/

/-! ## The fixes of a plan -/

namespace GraphBuilder

variable {R : Type} {builder : GraphBuilder R} {v : Int}

theorem mem_waypoints : v ∈ builder.waypoints ↔ 0 ≤ v ∧ v < builder.firstAirportVertex := by
  rw [waypoints, List.mem_map]
  constructor
  · rintro ⟨i, listed, rfl⟩
    exact ⟨Int.natCast_nonneg i, Int.ofNat_lt.mpr (List.mem_range.mp listed)⟩
  · rintro ⟨nonneg, below⟩
    exact ⟨v.toNat, List.mem_range.mpr (by omega), Int.toNat_of_nonneg nonneg⟩

theorem inRange_of_mem_waypoints (listed : v ∈ builder.waypoints) : builder.graph.InRange v := by
  rcases mem_waypoints.mp listed with ⟨nonneg, below⟩
  have count : builder.graph.vertexCount = builder.graph.coords.length := rfl
  have first := builder.firstAirportVertex_le
  exact ⟨nonneg, by omega⟩

theorem lt_of_getD {flags : List Bool} {i : Nat} (set : flags.getD i false = true) : i < flags.length := by
  by_contra outside
  rw [List.getD_eq_default _ _ (not_lt.mp outside)] at set
  cases set

theorem inRange_of_flag {flags : List Bool} (sized : flags.length = builder.graph.coords.length)
    (set : (decide (0 ≤ v) && flags.getD v.toNat false) = true) : builder.graph.InRange v := by
  rw [Bool.and_eq_true, decide_eq_true_eq] at set
  have inside := lt_of_getD set.2
  have count : builder.graph.vertexCount = builder.graph.coords.length := rfl
  exact ⟨set.1, by omega⟩

/-- A fix that can be left along an airway is a waypoint ... -/
theorem mem_waypoints_of_hasOutbound (outbound : builder.hasOutbound v = true) : v ∈ builder.waypoints := by
  have inRange : builder.graph.InRange v := by
    apply inRange_of_flag _ outbound
    rw [builder.hasOutboundFlags_eq, List.length_map, NavGraph.length_vertices]
  rcases List.exists_mem_of_ne_nil _ ((builder.hasOutbound_iff inRange).mp outbound) with ⟨edge, listed⟩
  apply mem_waypoints.mpr
  exact ⟨inRange.1, (builder.waypoint_of_edge v ((builder.graph.mem_vertices v).mpr inRange) edge listed).1⟩

/-- ... and so is one that can be reached along one. -/
theorem mem_waypoints_of_hasInbound (inbound : builder.hasInbound v = true) : v ∈ builder.waypoints := by
  have inRange : builder.graph.InRange v := by
    apply inRange_of_flag _ inbound
    rw [builder.hasInboundFlags_eq, List.length_map, NavGraph.length_vertices]
  rcases (builder.hasInbound_iff inRange).mp inbound with ⟨source, place, edge, listed, rfl⟩
  apply mem_waypoints.mpr
  exact ⟨inRange.1, (builder.waypoint_of_edge source ((builder.graph.mem_vertices source).mpr place) edge listed).2⟩

/-- The nearest fixes are waypoints, whatever the bound on those not looked at. -/
theorem mem_waypoints_of_nearest [Field R] [LinearOrder R] [FloorRing R] {geodesy : Geodesy R}
    {bound : OutsideBound R} {coord : Coordinate R} {count : Int} {inbound : Bool}
    (near : v ∈ builder.nearestOnNetwork geodesy bound coord count inbound) : v ∈ builder.waypoints := by
  have run : forall (radii : List Nat) (scored : List (R ×ₗ Int)),
      (forall pair, pair ∈ scored -> (ofLex pair).2 ∈ builder.waypoints) ->
        forall pair, pair ∈ builder.expandSearch geodesy bound coord count.toNat inbound radii scored ->
          (ofLex pair).2 ∈ builder.waypoints := by
    intro radii
    induction radii with
    | nil => exact fun _ before => before
    | cons radius radii inductionHypothesis =>
        intro scored _
        have scores : forall pair, pair ∈ builder.scoreCandidates geodesy coord inbound (builder.grid.near coord radius) ->
            (ofLex pair).2 ∈ builder.waypoints := by
          intro pair listed
          rcases ((scored_scoreCandidates _).mem pair).mp listed with ⟨cand, candidate, _, rfl⟩
          exact (mem_grid_near.mp candidate).1
        rw [expandSearch]
        split_ifs
        · exact scores
        · exact inductionHypothesis _ scores
  rw [nearestOnNetwork] at near
  split_ifs at near
  · cases near
  · rcases List.mem_map.mp near with ⟨pair, kept, rfl⟩
    apply run kSearchRadii [] (List.forall_mem_nil _)
    exact (List.perm_insertionSort _ _).subset (List.mem_of_mem_take kept)

end GraphBuilder

section Fixes

open ProcedureConnector

theorem noGate : ¬ 0 ≤ kNoVertex := by decide

/-- The fix is a waypoint, and the gate off the network is not to be avoided. -/
def onTheWay {R : Type} (builder : GraphBuilder R) (avoid : SortedVector Int) : FixProperty R :=
  fun fix _ gate _ => fix ∈ builder.waypoints ∧ (0 ≤ gate -> gate ∉ avoid.elems)

variable {R : Type} [Field R] [LinearOrder R] {chart : LegChart R} {earth : Geodesy R}

theorem usable_of_walkStep {usable : Int -> Bool} {gate : ProcedureLeg -> Nat -> Bool} {walk : WalkResult R}
    (before : forall hit, hit ∈ walk.hits -> usable hit.vertex = true) (entry : ProcedureLeg × Nat) :
    forall hit, hit ∈ (walkStep chart earth usable gate walk entry).hits -> usable hit.vertex = true := by
  intro hit member
  rw [walkStep] at member
  split_ifs at member with missing published isUsable
  · exact before hit member
  · exact before hit member
  · rcases List.mem_append.mp member with old | new
    · exact before hit old
    · rw [List.mem_singleton.mp new]
      exact isUsable
  · exact before hit member

/-- The walk of a procedure stops only at fixes that can be used. -/
theorem usable_of_mem_hits {usable : Int -> Bool} {departure : Bool} {p : Procedure} :
    forall hit, hit ∈ (walkOnNetworkFixes chart earth usable departure p).hits -> usable hit.vertex = true := by
  let Usable (walk : WalkResult R) : Prop := forall hit, hit ∈ walk.hits -> usable hit.vertex = true
  have start : Usable ⟨[], [], 0, 0⟩ := List.forall_mem_nil _
  exact List.foldlRecOn _ _ start fun walk before entry _ => usable_of_walkStep before entry

variable [FloorRing R] (around : Surroundings R) (bound : OutsideBound R) (avoid : SortedVector Int)

theorem mem_waypoints_of_mem_proxies {gate count fix : Int} {inbound : Bool}
    (listed : fix ∈ proxies around bound gate count inbound) : fix ∈ around.builder.waypoints :=
  GraphBuilder.mem_waypoints_of_nearest (List.mem_of_mem_filter listed)

/-- Everything the connector finds around an airport is on the way. -/
theorem findsOnly_onTheWay : FindsOnly (onTheWay around.builder avoid) around bound avoid where
  side := by
    intro airportCoord runwayFilter cifp departure finding found
    rcases List.mem_flatMap.mp found with ⟨p, _, listed⟩
    rcases List.mem_map.mp listed with ⟨hit, isHit, rfl⟩
    have usable := usable_of_mem_hits hit (List.mem_of_mem_filter isHit)
    refine ⟨?_, fun gate => absurd gate noGate⟩
    cases departure with
    | true => exact GraphBuilder.mem_waypoints_of_hasOutbound usable
    | false => exact GraphBuilder.mem_waypoints_of_hasInbound usable
  star := by
    intro airportCoord runwayFilter nameFilter cifp finding found
    rcases List.mem_flatMap.mp found with ⟨p, _, gates⟩
    rcases List.mem_flatMap.mp gates with ⟨entry, isEntry, standIns⟩
    rcases List.mem_map.mp standIns with ⟨f, near, rfl⟩
    have clear := (Bool.and_eq_true_iff.mp (List.mem_filter.mp isEntry).2).2
    refine ⟨mem_waypoints_of_mem_proxies around bound near, fun _ avoided => ?_⟩
    rw [(SortedVector.binarySearch_eq_true _ _).mpr avoided] at clear
    cases clear
  sid := by
    intro airportCoord runwayFilter nameFilter cifp finding found
    rcases List.mem_flatMap.mp found with ⟨p, _, exits⟩
    split at exits
    · cases exits
    rename_i exitLeg last
    simp only at exits
    split_ifs at exits with unusable
    · cases exits
    rcases List.mem_map.mp exits with ⟨f, near, rfl⟩
    refine ⟨mem_waypoints_of_mem_proxies around bound near, fun _ avoided => ?_⟩
    exact unusable (.inr (.inr ((SortedVector.binarySearch_eq_true _ _).mpr avoided)))
  approach := by
    intro airportCoord runwayFilter cifp finding found
    rcases List.mem_flatMap.mp found with ⟨p, _, gates⟩
    rcases List.mem_flatMap.mp gates with ⟨entry, _, made⟩
    rw [approachGateFindings] at made
    split at made
    split_ifs at made with inbound
    · rw [List.mem_singleton.mp made]
      exact ⟨GraphBuilder.mem_waypoints_of_hasInbound inbound, fun gate => absurd gate noGate⟩
    · rcases List.mem_map.mp made with ⟨f, near, rfl⟩
      exact ⟨mem_waypoints_of_mem_proxies around bound near, fun gate => absurd gate noGate⟩
  direct := fun _ _ _ _ near => ⟨GraphBuilder.mem_waypoints_of_nearest near, fun gate => absurd gate noGate⟩

end Fixes

/-! ## The query as a whole -/

/-- What `FindRoutes` reads: the database, the procedures it fetches, and the
platform. -/
structure LoadedDatabase (R : Type) [LinearOrder R] [Zero R] [One R] [Neg R] where
  around : Surroundings R
  bound : OutsideBound R
  mora : MoraGrid
  greatCircle : GreatCircle R
  engine : Engine R
  heaps : PickHeaps R
  proceduresFor : Text -> Except Error (Option CifpData)

/-- `ForRunway`. -/
def forRunway (runway : Text) : Text :=
  if runway.isEmpty then [] else ofString " for runway " ++ runway

/-- Why `FindRoutes` does not go on with a plan. -/
def planFault {R : Type} (request : RouteRequest R) (departure : Bool) (plan : EndpointPlan R) : Option Error :=
  let side := if departure then ofString "departure" else ofString "arrival"
  let airport := if departure then request.departure else request.arrival
  if plan.unknownRunway then
    some ⟨.kProcedureNotFound, side ++ ofString " airport " ++ airport ++ ofString " has no runway '" ++
      (if departure then request.departureRunway else request.arrivalRunway) ++ ofString "'"⟩
  else if plan.namedProcedureUnmatched then
    some ⟨.kProcedureNotFound, side ++ ofString " airport " ++ airport ++
      (if departure then ofString " has no SID matching '" else ofString " has no STAR matching '") ++
      (if departure then request.departureSid else request.arrivalStar) ++ ofString "'" ++ forRunway plan.runway⟩
  else if plan.connections.isEmpty then
    some ⟨.kAirportNotFound, ofString "unknown " ++ side ++ ofString " airport: " ++ airport ++
      ofString " (expected an ICAO code, e.g. KLAX)"⟩
  else none

namespace LoadedDatabase

variable {R : Type} [Field R] [LinearOrder R]

/-- What the search is run on. -/
def queryOf (db : LoadedDatabase R) (request : RouteRequest R) (constraints : ConstraintBundle R)
    (dep arr : EndpointPlan R) : RouteQuery R where
  builder := db.around.builder
  engine := db.engine
  heaps := db.heaps
  request := request
  dep := dep
  arr := arr
  options := constraints.options
  avoidVertices := constraints.avoidVertices

variable [FloorRing R] (db : LoadedDatabase R)

/-- The plan of one airport, or why there is none. -/
def plannedEnd (request : RouteRequest R) (departure : Bool) (avoid : SortedVector Int) :
    Except Error (EndpointPlan R) :=
  match EndpointPlanner.plan db.around db.bound request (if departure then request.departure else request.arrival)
      departure db.proceduresFor avoid with
  | .error e => .error e
  | .ok plan =>
      match planFault request departure plan with
      | some e => .error e
      | none => .ok plan

/-- `FindRoutes`. -/
def findRoutes (request : RouteRequest R) : Except Error (List (Route R)) :=
  match buildConstraints request db.around.builder db.mora db.greatCircle with
  | .error e => .error e
  | .ok constraints =>
      match db.plannedEnd request true constraints.avoidVertices with
      | .error e => .error e
      | .ok dep =>
          match db.plannedEnd request false constraints.avoidVertices with
          | .error e => .error e
          | .ok arr => (db.queryOf request constraints dep arr).findRoutes.mapError RouteRefusal.error

end LoadedDatabase

/-! ## What a request asks of its routes -/

/-- A leg of a route follows a step of its path: along an edge that the request
permits, under the name of its airway or, where airways run together, under one
of their designators. -/
structure Follows {R : Type} [Field R] [LinearOrder R] [FloorRing R] (request : RouteRequest R)
    (builder : GraphBuilder R) (grid : MoraGrid) (greatCircle : GreatCircle R) (edge : GraphEdge R) (step : Int × Int)
    (leg : RouteLeg R) : Prop where
  listed : edge ∈ builder.graph.edgesFrom step.1
  target : edge.toVertex = step.2
  permits : Permits request builder grid greatCircle step.1 edge
  ends : leg.ends = (RouteAssembler.identAt builder step.1, RouteAssembler.identAt builder step.2)
  distance : leg.distanceNm = edge.distanceNm
  named : leg.via = builder.airwayName edge.airwayId ∨ leg.via ∈ splitDesignators (builder.airwayName edge.airwayId)

/-- A point of a route that is not on its path: an airport, or a gate off the
network that is not to be avoided. -/
def OffPath {R : Type} [Field R] [LinearOrder R] (request : RouteRequest R) (builder : GraphBuilder R)
    (point : RoutePoint R) : Prop :=
  (exists fix, point = RouteAssembler.airportPoint builder (toUpper request.departure) fix ∨
    point = RouteAssembler.airportPoint builder (toUpper request.arrival) fix) ∨
  exists gate, point = RouteAssembler.pointAt builder gate ∧
    forall raw, raw ∈ request.avoidWaypoints -> ¬ builder.Means raw gate

/-- A route of a path does what its request asks. -/
structure LoadedDatabase.Complies {R : Type} [Field R] [LinearOrder R] [FloorRing R] (db : LoadedDatabase R)
    (request : RouteRequest R) (path : List Int) (route : Route R) : Prop where
  simple : path.Nodup
  /-- No airport is flown over. -/
  waypoints : forall v, v ∈ path -> v ∈ db.around.builder.waypoints
  avoids : forall v, v ∈ path -> forall raw, raw ∈ request.avoidWaypoints -> ¬ db.around.builder.Means raw v
  /-- The via points lie on the path in their order. -/
  via : exists forced : List ForcedPoint,
    List.Forall₂ (fun token point => db.around.builder.Means token point.vertex) request.forcedPoints forced ∧
      (forced.map ForcedPoint.vertex).Sublist path ∧ route.forcedPoints = forced.map ForcedPoint.echo
  points : exists before after, (forall point, point ∈ before ++ after -> OffPath request db.around.builder point) ∧
    route.points = before ++ path.map (RouteAssembler.pointAt db.around.builder) ++ after
  legs : exists before enroute after, route.legs = before ++ enroute ++ after ∧
    List.Forall₂ (fun step leg => exists edge,
      Follows request db.around.builder db.mora db.greatCircle edge step leg) (neighbours path) enroute

/-! ## The names of a request -/

namespace GraphBuilder

variable {R : Type} {builder : GraphBuilder R} {v : Int}

theorem waypointOf_of_mem_keyedVertices {key : FixedIdent} (listed : v ∈ builder.keyedVertices key) :
    builder.WaypointOf ⟨key.ident, key.arinc424IcaoCode⟩ v := by
  rcases List.mem_map.mp listed with ⟨⟨fixed, index⟩, member, rfl⟩
  rcases List.mem_filter.mp member with ⟨here, same⟩
  rw [List.mem_zipIdx_iff_getElem?] at here
  apply (waypoint_iff (fun ident => ident = ⟨key.ident, key.arinc424IcaoCode⟩) _).mp
  have isKey : fixed = key := beq_iff_eq.mp same
  exact ⟨index, fixed, here, by rw [isKey], by rw [Nat.zero_add]⟩

theorem waypointOf_vertexByFullIdent {ident : Ident} (known : 0 ≤ builder.vertexByFullIdent ident) :
    builder.WaypointOf ident (builder.vertexByFullIdent ident) := by
  rw [vertexByFullIdent] at known ⊢
  rcases packed : FixedIdent.fromIdent ident with error | key
  · rw [packed] at known
    exact absurd known noGate
  · rw [packed] at known
    rcases FixedIdent.parts_of_fromParts packed with ⟨name, code⟩
    dsimp only at known ⊢
    rw [vertexByIdent_eq] at known ⊢
    rcases found : (builder.keyedVertices key).head? with _ | first
    · rw [found] at known
      exact absurd known noGate
    · have waypoint := waypointOf_of_mem_keyedVertices (List.mem_of_head? found)
      rw [name, code] at waypoint
      exact waypoint

/-- A point that a token resolves to is one that it means. -/
theorem means_of_resolvePoint [LinearOrder R] [Zero R] [Add R] {earth : Geodesy R} {token : Text}
    {origin target : Coordinate R} {point : ForcedPoint}
    (resolves : ForcedRouter.resolvePoint builder earth token origin target = .ok point) :
    builder.Means token point.vertex := by
  rw [ForcedRouter.resolvePoint] at resolves
  dsimp only at resolves
  by_cases slash : (toUpper token).contains 47 = true
  · rw [if_pos slash] at resolves
    split_ifs at resolves with unknown airport
    cases resolves
    have waypoint := waypointOf_vertexByFullIdent (not_lt.mp unknown)
    refine .inr ⟨slash, ⟨waypoint.1, waypoint.2.1, ?_⟩, ?_⟩
    · exact congrArg Ident.ident waypoint.2.2
    · exact congrArg Ident.arinc424IcaoCode waypoint.2.2
  · rw [if_neg slash] at resolves
    have picked : forall (candidates : List Int) (best : Option (ForcedRouter.NameMatch R)) kept,
        candidates.foldl (ForcedRouter.matchStep builder earth origin target) best = some kept ->
          best = some kept ∨ kept.vertex ∈ candidates := by
      intro candidates
      induction candidates with
      | nil => exact fun _ _ same => .inl same
      | cons first rest inductionHypothesis =>
          intro best kept folded
          rcases inductionHypothesis _ kept folded with stepped | later
          · rw [ForcedRouter.matchStep] at stepped
            split_ifs at stepped with airport
            · exact .inl stepped
            · dsimp only at stepped
              split at stepped
              · cases stepped
                exact .inr List.mem_cons_self
              · split_ifs at stepped with better
                · cases stepped
                  exact .inr List.mem_cons_self
                · exact .inl stepped
          · exact .inr (List.mem_cons_of_mem first later)
    split at resolves
    · cases resolves
    · rename_i best chosen
      cases resolves
      rcases picked _ _ _ chosen with started | listed
      · cases started
      · exact .inl ⟨Bool.eq_false_iff.mpr slash, (mem_verticesByIdent builder _ _).mp listed⟩

end GraphBuilder

/-! ## The legs of a route -/

/-- A list related to two others in a row. -/
theorem forall₂_append_left {A B : Type} {r : A -> B -> Prop} {front back : List A} {items : List B}
    (related : List.Forall₂ r (front ++ back) items) : exists first rest, items = first ++ rest ∧
      List.Forall₂ r front first ∧ List.Forall₂ r back rest := by
  induction front generalizing items with
  | nil => exact ⟨[], items, rfl, .nil, related⟩
  | cons a front inductionHypothesis =>
      rcases related with _ | ⟨here, later⟩
      rcases inductionHypothesis later with ⟨first, rest, rfl, frontRelated, backRelated⟩
      exact ⟨_ :: first, rest, rfl, .cons here frontRelated, backRelated⟩

section Folded

variable {R : Type}

/-- A folded leg is the leg, under its name or one of its designators. -/
structure FoldedFrom (leg folded : RouteLeg R) : Prop where
  ends : folded.ends = leg.ends
  distance : folded.distanceNm = leg.distanceNm
  named : folded.via = leg.via ∨ folded.via ∈ splitDesignators leg.via

theorem FoldedFrom.under {leg : RouteLeg R} {chosen : Text} (member : chosen ∈ splitDesignators leg.via) :
    FoldedFrom leg (leg.foldedUnder chosen) :=
  ⟨rfl, rfl, .inr member⟩

theorem forall₂_map_right {A B : Type} {r : A -> B -> Prop} {f : A -> B} {items : List A}
    (each : forall a, a ∈ items -> r a (f a)) : List.Forall₂ r items (items.map f) :=
  List.forall₂_map_right_iff.mpr (List.forall₂_same.mpr each)

/-- Folding keeps every leg in its place. -/
theorem foldedFrom_foldLegs (legs : List (RouteLeg R)) : List.Forall₂ FoldedFrom legs (foldLegs legs).2 := by
  induction legs using foldLegs.induct with
  | case1 =>
      rw [foldLegs]
      exact .nil
  | case2 leg legs direct inductionHypothesis =>
      rw [foldLegs, if_pos direct]
      exact .cons ⟨rfl, rfl, .inl rfl⟩ inductionHypothesis
  | case3 leg legs airway unnamed inductionHypothesis =>
      rw [foldLegs, if_neg airway, if_pos unnamed]
      exact .cons ⟨rfl, rfl, .inl rfl⟩ inductionHypothesis
  | case4 leg legs airway named group inductionHypothesis =>
      -- The name of a group is one that all its legs share.
      have shared : forall chosen, chosen ∈ group.running -> forall other, other ∈ leg :: group.joined ->
          chosen ∈ splitDesignators other.via := by
        intro chosen member other listed
        have both := (mem_running_growGroup legs _).mp member
        rcases List.mem_cons.mp listed with rfl | joined
        · exact both.1
        · exact both.2 other joined
      have whole : legs = group.joined ++ group.rest := (growGroup_split legs _).symm
      rw [foldLegs, if_neg airway, if_neg named]
      rcases running : group.running with _ | ⟨chosen, others⟩
      · exact absurd running (running_growGroup_ne_nil legs _ named)
      · have first : group.running.headD [] = chosen := by rw [running, List.headD_cons]
        have member : chosen ∈ group.running := by
          rw [running]
          exact List.mem_cons_self
        change List.Forall₂ FoldedFrom (leg :: legs)
          ((leg :: group.joined).map (RouteLeg.foldedUnder (group.running.headD [])) ++ (foldLegs group.rest).2)
        rw [first]
        conv_lhs => rw [whole, ← List.cons_append]
        apply List.rel_append
        · exact forall₂_map_right fun other listed => FoldedFrom.under (shared chosen member other listed)
        · exact inductionHypothesis

end Folded

section Enroute

variable {R : Type} [Field R] [LinearOrder R] [FloorRing R] {request : RouteRequest R} {builder : GraphBuilder R}
  {grid : MoraGrid} {greatCircle : GreatCircle R} {bundle : ConstraintBundle R}

/-- An edge that the search may take is one the request permits. -/
theorem permits_of_allowed (built : buildConstraints request builder grid greatCircle = .ok bundle) {u : Int}
    {edge : GraphEdge R} (place : u ∈ builder.waypoints) (listed : edge ∈ builder.graph.edgesFrom u)
    (allowed : (edgeAllowed bundle.options builder.graph edge u).isSome = true) :
    Permits request builder grid greatCircle u edge := by
  rcases Option.isSome_iff_exists.mp allowed with ⟨extra, charged⟩
  exact ((edgeAllowed_eq_some_iff built (GraphBuilder.inRange_of_mem_waypoints place) listed extra).mp charged).1

variable [IsStrictOrderedRing R]

omit [IsStrictOrderedRing R] in
/-- What the enroute legs of a priced path follow, before any folding. -/
theorem follows_enrouteLegs (built : buildConstraints request builder grid greatCircle = .ok bundle)
    {path : List Int} {start total : R × R} (places : forall v, v ∈ path -> v ∈ builder.waypoints)
    (edges : edgeCosts builder.graph bundle.options path start = some total) :
    List.Forall₂ (fun step leg => exists edge, Follows request builder grid greatCircle edge step leg ∧
        leg.via = builder.airwayName edge.airwayId) (neighbours path)
      (RouteAssembler.enrouteLegs builder bundle.options path) := by
  induction path generalizing start with
  | nil => exact .nil
  | cons u rest inductionHypothesis =>
      cases rest with
      | nil => exact .nil
      | cons w rest =>
          rw [edgeCosts] at edges
          split_ifs at edges
          rcases selected : selectEdge bundle.options builder.graph u w with _ | ⟨edge, cost⟩
          · rw [selected] at edges
            cases edges
          rw [selected] at edges
          rcases isLeast_selectEdge selected with ⟨listed, target, allowed, _⟩
          have permits := permits_of_allowed built (places u List.mem_cons_self) listed allowed
          rw [RouteAssembler.enrouteLegs, RouteAssembler.enrouteLeg, selected]
          refine .cons ⟨edge, ⟨listed, target, permits, rfl, rfl, .inl rfl⟩, rfl⟩ ?_
          exact inductionHypothesis (fun v member => places v (List.mem_cons_of_mem u member)) edges

omit [IsStrictOrderedRing R] in
/-- Folding changes the name of a leg and nothing that it follows. -/
theorem Follows.folded {edge : GraphEdge R} {step : Int × Int} {leg folded : RouteLeg R}
    (follows : Follows request builder grid greatCircle edge step leg)
    (name : leg.via = builder.airwayName edge.airwayId) (foldedFrom : FoldedFrom leg folded) :
    Follows request builder grid greatCircle edge step folded where
  listed := follows.listed
  target := follows.target
  permits := follows.permits
  ends := foldedFrom.ends.trans follows.ends
  distance := foldedFrom.distance.trans follows.distance
  named := name ▸ foldedFrom.named

end Enroute

/-! ## The paths and the plans of a query -/

section Query

variable {R : Type} [Field R] [LinearOrder R]

/-- However a path is searched for, it is simple, begins at a departure fix and
meets the forced points in their order. -/
theorem RouteQuery.simple_of_mem_search [IsStrictOrderedRing R] (query : RouteQuery R)
    (nonneg : forall source, source ∈ query.sources -> 0 ≤ source.cost) {forced : List ForcedPoint}
    (admitted : query.forced = .ok forced) {path : ShortestPath R} (listed : path ∈ query.search forced) :
    path.vertices.Nodup ∧ (exists source, source ∈ query.sources ∧ path.vertices.head? = some source.vertex) ∧
      (forced.map ForcedPoint.vertex).Sublist path.vertices := by
  rw [search] at listed
  simp only at listed
  split at listed
  · have route := forcedRoute_of_mem_findPaths nonneg (query.nodup_of_forced admitted) listed
    exact ⟨route.simple.nodup, route.simple.starts, route.order⟩
  rename_i unforced
  have none : forced = [] := by
    rw [Bool.not_eq_true', Bool.not_eq_false, List.isEmpty_iff] at unforced
    exact unforced
  have empty : (forced.map ForcedPoint.vertex).Sublist path.vertices := by
    rw [none]
    exact List.nil_sublist _
  split at listed
  · split at listed
    · rename_i found
      rw [List.mem_singleton.mp listed] at empty ⊢
      have route := SearchSetup.isRoute_of_found
        (searchSetup query.engine query.builder.graph query.sources query.goals query.options) query.sources
        SearchWorkspace.stamped_empty (Bool.and_eq_true_iff.mp found).1
      exact ⟨route.nodup, route.starts, empty⟩
    · cases listed
  · have route := (findKShortestPathsMulti_routes query.engine query.builder.graph query.sources query.goals nonneg _
      query.options).route path listed
    exact ⟨route.nodup, route.starts, empty⟩

/-- The admitted points are those that the tokens mean. -/
theorem RouteQuery.means_of_forced (query : RouteQuery R) {forced : List ForcedPoint}
    (admitted : query.forced = .ok forced) :
    List.Forall₂ (fun token point => query.builder.Means token point.vertex) query.request.forcedPoints forced := by
  rw [RouteQuery.forced] at admitted
  split_ifs at admitted with none
  · cases admitted
    rw [List.isEmpty_iff.mp none]
    exact .nil
  · rw [ForcedRouter.admitAll] at admitted
    split_ifs at admitted
    have passes := (query.admitted_iff.mp admitted).1
    exact passes.imp fun token point pass => GraphBuilder.means_of_resolvePoint pass.resolves

variable [FloorRing R] {db : LoadedDatabase R} {request : RouteRequest R}

/-- A plan with which `FindRoutes` goes on has connections. -/
theorem LoadedDatabase.plan_of_plannedEnd {departure : Bool} {avoid : SortedVector Int} {plan : EndpointPlan R}
    (planned : db.plannedEnd request departure avoid = .ok plan) :
    EndpointPlanner.plan db.around db.bound request (if departure then request.departure else request.arrival)
        departure db.proceduresFor avoid = .ok plan ∧ plan.connections ≠ [] := by
  rw [plannedEnd] at planned
  split at planned
  · cases planned
  rename_i made isPlan
  split at planned
  · cases planned
  rename_i faultless
  cases planned
  refine ⟨isPlan, fun empty => ?_⟩
  rw [planFault, empty] at faultless
  simp only [List.isEmpty_nil, if_true] at faultless
  split_ifs at faultless

theorem avoidVertices_of_built {builder : GraphBuilder R} {grid : MoraGrid} {greatCircle : GreatCircle R}
    {bundle : ConstraintBundle R} (built : buildConstraints request builder grid greatCircle = .ok bundle) {v : Int} :
    v ∈ bundle.avoidVertices.elems ↔ exists raw, raw ∈ request.avoidWaypoints ∧ builder.Means raw v := by
  unfold buildConstraints at built
  split_ifs at built
  cases built
  exact mem_resolveAvoidVertices builder request.avoidWaypoints v

end Query

/-! ## The ends of a route -/

section Ends

variable {R : Type} [Field R] {builder : GraphBuilder R} {avoid : SortedVector Int} {plan : EndpointPlan R}

/-- A gate that a route is drawn over is not to be avoided. -/
theorem not_avoided_of_spliced (keeps : plan.Keeps (onTheWay builder avoid)) {fix : Int} {procedure : Text}
    (spliced : (RouteAssembler.endOf plan fix procedure).spliced = true) :
    (RouteAssembler.endOf plan fix procedure).spliceVertex ∉ avoid.elems := by
  rw [RouteEnd.spliced, Bool.and_eq_true, decide_eq_true_eq] at spliced
  rw [RouteAssembler.endOf] at spliced ⊢
  rcases found : RouteAssembler.findConnection plan fix with _ | c
  · rw [found] at spliced
    exact absurd spliced.1 noGate
  · rw [found] at spliced
    exact (keeps.pool.each c (List.mem_of_find?_eq_some found)).2 spliced.1

theorem label_endOf (fix : Int) (procedure : Text) :
    (RouteAssembler.endOf plan fix procedure).label = plan.airportIcao := by
  rw [RouteAssembler.endOf]
  cases RouteAssembler.findConnection plan fix <;> rfl

variable [LinearOrder R] {request : RouteRequest R}
  (clear : forall v, v ∉ avoid.elems -> forall raw, raw ∈ request.avoidWaypoints -> ¬ builder.Means raw v)

include clear

theorem offPath_leadingPoints (keeps : plan.Keeps (onTheWay builder avoid))
    (label : plan.airportIcao = toUpper request.departure) (fix : Int) (procedure : Text) :
    forall point, point ∈ RouteAssembler.leadingPoints builder (RouteAssembler.endOf plan fix procedure) fix ->
      OffPath request builder point := by
  intro point listed
  rw [RouteAssembler.leadingPoints] at listed
  split_ifs at listed with unlabelled spliced
  · cases listed
  · rcases List.mem_cons.mp listed with rfl | gate
    · exact .inl ⟨fix, .inl (by rw [label_endOf, label])⟩
    · exact .inr ⟨_, List.mem_singleton.mp gate, clear _ (not_avoided_of_spliced keeps spliced)⟩
  · rw [List.mem_singleton.mp listed, label_endOf, label]
    exact .inl ⟨fix, .inl rfl⟩

theorem offPath_trailingPoints (keeps : plan.Keeps (onTheWay builder avoid))
    (label : plan.airportIcao = toUpper request.arrival) (fix : Int) (procedure : Text) :
    forall point, point ∈ RouteAssembler.trailingPoints builder (RouteAssembler.endOf plan fix procedure) fix ->
      OffPath request builder point := by
  intro point listed
  rw [RouteAssembler.trailingPoints] at listed
  split_ifs at listed with unlabelled spliced
  · cases listed
  · rcases List.mem_append.mp listed with gate | airport
    · exact .inr ⟨_, List.mem_singleton.mp gate, clear _ (not_avoided_of_spliced keeps spliced)⟩
    · rw [List.mem_singleton.mp airport, label_endOf, label]
      exact .inl ⟨fix, .inr rfl⟩
  · rw [List.nil_append] at listed
    rw [List.mem_singleton.mp listed, label_endOf, label]
    exact .inl ⟨fix, .inr rfl⟩

end Ends

section Drawn

variable {R : Type} [Field R] [LinearOrder R] (builder : GraphBuilder R) (options : SearchOptions R)

/-- The points and legs that `MakeRoute` draws. -/
theorem drawn_makeRoute {path : ShortestPath R} {front back : Int} (starts : path.vertices.head? = some front)
    (ends : path.vertices.getLast? = some back) (dep arr : RouteEnd R) :
    (RouteAssembler.makeRoute builder options path dep arr).points =
        RouteAssembler.leadingPoints builder dep front ++ path.vertices.map (RouteAssembler.pointAt builder) ++
          RouteAssembler.trailingPoints builder arr back ∧
      (RouteAssembler.makeRoute builder options path dep arr).legs =
        (foldLegs (RouteAssembler.leadingLegs builder dep front ++
          (RouteAssembler.enrouteLegs builder options path.vertices ++
            RouteAssembler.trailingLegs builder arr back))).2 := by
  rcases path with ⟨_ | ⟨first, rest⟩, distance, cost, found⟩
  · cases starts
  rw [List.head?_cons, Option.some.injEq] at starts
  have last : (first :: rest).getLastD first = back := by
    rw [List.getLastD_eq_getLast?, ends, Option.getD_some]
  subst starts last
  rw [← List.append_assoc (RouteAssembler.leadingLegs builder dep first)]
  exact ⟨rfl, rfl⟩

variable {builder options}

theorem forcedPoints_assembleOne {dep arr : EndpointPlan R} {soft : Bool} {echo : List Text} {path : ShortestPath R}
    {route : Route R} (assembled : RouteAssembler.assembleOne builder dep arr soft options echo path = some route) :
    route.forcedPoints = echo := by
  rw [RouteAssembler.assembleOne] at assembled
  split at assembled
  · cases assembled
  · cases assembled
    rfl

/-- The paths of a query are those it searched for. -/
theorem searched_of_findPathsOf {query : RouteQuery R} {forced : List ForcedPoint} {paths : List (ShortestPath R)}
    (found : query.findPathsOf = .ok (forced, paths)) :
    query.forced = .ok forced ∧ paths ≠ [] ∧ paths = query.search forced := by
  rw [RouteQuery.findPathsOf] at found
  split at found
  · cases found
  split at found
  · cases found
  rename_i forced admitted
  dsimp only at found
  split_ifs at found with empty
  cases found
  exact ⟨admitted, mt List.isEmpty_iff.mpr empty, rfl⟩

end Drawn

/-! ## The routes of a request -/

theorem forall₂_trans {A B C : Type} {r : A -> B -> Prop} {r' : B -> C -> Prop} {r'' : A -> C -> Prop}
    (composes : forall a b c, r a b -> r' b c -> r'' a c) {items : List A} {others : List B} {last : List C}
    (first : List.Forall₂ r items others) (second : List.Forall₂ r' others last) :
    List.Forall₂ r'' items last := by
  induction first generalizing last with
  | nil =>
      cases second
      exact .nil
  | cons here later inductionHypothesis =>
      rcases second with _ | ⟨next, rest⟩
      exact .cons (composes _ _ _ here next) (inductionHypothesis rest)

section Routes

variable {R : Type} [Field R] [LinearOrder R] [FloorRing R] {db : LoadedDatabase R} {request : RouteRequest R}
  {constraints : ConstraintBundle R} {dep arr : EndpointPlan R}

/-- Along a priced path from a waypoint that is not to be avoided, every vertex
is such a waypoint. -/
theorem clear_of_chain
    (built : buildConstraints request db.around.builder db.mora db.greatCircle = .ok constraints) {path : List Int}
    (chain : path.IsChain (AllowedStep db.around.builder.graph constraints.options))
    (first : forall v, path.head? = some v -> v ∈ db.around.builder.waypoints ∧ v ∉ constraints.avoidVertices.elems) :
    forall v, v ∈ path -> v ∈ db.around.builder.waypoints ∧ v ∉ constraints.avoidVertices.elems := by
  apply chain.induction
  · rintro u w ⟨_, edge, listed, target, allowed⟩ ⟨place, _⟩
    have permits := permits_of_allowed built place listed allowed
    have bounds := db.around.builder.waypoint_of_edge u
      ((db.around.builder.graph.mem_vertices u).mpr (GraphBuilder.inRange_of_mem_waypoints place)) edge listed
    have inRange := db.around.builder.graph.inRange_toVertex listed
    subst target
    refine ⟨GraphBuilder.mem_waypoints.mpr ⟨inRange.1, bounds.2⟩, fun avoided => ?_⟩
    rcases (avoidVertices_of_built built).mp avoided with ⟨raw, entry, means⟩
    exact permits.avoided raw entry means
  · exact fun nonempty => first _ (List.head?_eq_some_head nonempty)

variable [IsStrictOrderedRing R]

/-- One path of a query, and the route it becomes. -/
theorem complies_of_mem_search
    (built : buildConstraints request db.around.builder db.mora db.greatCircle = .ok constraints)
    (planned : db.plannedEnd request true constraints.avoidVertices = .ok dep)
    (plannedToo : db.plannedEnd request false constraints.avoidVertices = .ok arr) {forced : List ForcedPoint}
    (admitted : (db.queryOf request constraints dep arr).forced = .ok forced) {path : ShortestPath R}
    (listed : path ∈ (db.queryOf request constraints dep arr).search forced) :
    exists route, RouteAssembler.assembleOne db.around.builder dep arr (EndpointPlanner.softPreferStarActive arr)
        constraints.options (forced.map ForcedPoint.echo) path = some route ∧
      db.Complies request path.vertices route := by
  rcases LoadedDatabase.plan_of_plannedEnd planned with ⟨depPlan, depSome⟩
  rcases LoadedDatabase.plan_of_plannedEnd plannedToo with ⟨arrPlan, arrSome⟩
  have onWay := findsOnly_onTheWay db.around db.bound constraints.avoidVertices
  rcases EndpointPlanner.keeps_plan onWay depPlan with ⟨depKeeps, depLabel⟩
  rcases EndpointPlanner.keeps_plan onWay arrPlan with ⟨arrKeeps, arrLabel⟩
  have depPriced := (EndpointPlanner.keeps_plan
    (findsOnly_soundlyPriced db.around db.bound constraints.avoidVertices) depPlan).1
  have nonneg := nonneg_of_toSearchEndpoints depPriced.pool false
    fun e => !constraints.avoidVertices.binarySearch e.vertex
  have clear : forall v, v ∉ constraints.avoidVertices.elems ->
      forall raw, raw ∈ request.avoidWaypoints -> ¬ db.around.builder.Means raw v :=
    fun v spared raw entry means => spared ((avoidVertices_of_built built).mpr ⟨raw, entry, means⟩)
  -- The path: where it begins, and along which edges it goes on.
  have search := (db.queryOf request constraints dep arr).simple_of_mem_search nonneg admitted listed
  have priced := (db.queryOf request constraints dep arr).priced_of_mem_search nonneg admitted listed
  rcases costOfPathMulti_eq_some priced with ⟨front, back, cost, edgeNm, starts, ends, -, -, edges, -, -⟩
  have places : forall v, v ∈ path.vertices ->
      v ∈ db.around.builder.waypoints ∧ v ∉ constraints.avoidVertices.elems := by
    apply clear_of_chain built (cheapestSteps_of_edgeCosts edges).1
    intro v first
    rcases search.2.1 with ⟨source, seeded, same⟩
    cases Option.some.inj (same.symm.trans first)
    rcases List.mem_filter.mp seeded with ⟨connected, kept⟩
    rcases List.mem_map.mp connected with ⟨c, member, rfl⟩
    have spared : (!constraints.avoidVertices.binarySearch c.fixVertex) = true := kept
    refine ⟨(depKeeps.pool.each c member).1, fun avoided => ?_⟩
    rw [(SortedVector.binarySearch_eq_true _ _).mpr avoided] at spared
    cases spared
  -- The route: the points and legs of the path, between those of both ends.
  rcases RouteAssembler.exists_assembleOne db.around.builder constraints.options dep arr
      (EndpointPlanner.softPreferStarActive arr) (forced.map ForcedPoint.echo) starts ends with
    ⟨sid, star, route, assembled, reports⟩
  refine ⟨route, assembled, ?_⟩
  have made := drawn_makeRoute db.around.builder constraints.options starts ends (RouteAssembler.endOf dep front sid)
    (RouteAssembler.endOf arr back star)
  exact
    { simple := search.1
      waypoints := fun v member => (places v member).1
      avoids := fun v member => clear v (places v member).2
      via := ⟨forced, RouteQuery.means_of_forced _ admitted, search.2.2, forcedPoints_assembleOne assembled⟩
      points := by
        refine ⟨_, _, fun point member => ?_, reports.points.trans (Eq.trans (by split_ifs <;> rfl) made.1)⟩
        rcases List.mem_append.mp member with leading | trailing
        · exact offPath_leadingPoints clear depKeeps (depLabel depSome) front sid point leading
        · exact offPath_trailingPoints clear arrKeeps (arrLabel arrSome) back star point trailing
      legs := by
        have folded := foldedFrom_foldLegs (RouteAssembler.leadingLegs db.around.builder
          (RouteAssembler.endOf dep front sid) front ++ (RouteAssembler.enrouteLegs db.around.builder
            constraints.options path.vertices ++ RouteAssembler.trailingLegs db.around.builder
              (RouteAssembler.endOf arr back star) back))
        rcases forall₂_append_left folded with ⟨before, later, split, -, related⟩
        rcases forall₂_append_left related with ⟨enroute, after, rfl, along, -⟩
        refine ⟨before, enroute, after, ?_, ?_⟩
        · rw [reports.legs, List.append_assoc, ← split]
          exact Eq.trans (by split_ifs <;> rfl) made.2
        · apply forall₂_trans _ (follows_enrouteLegs built (fun v member => (places v member).1) edges) along
          rintro step leg kept ⟨edge, follows, name⟩ foldedFrom
          exact ⟨edge, follows.folded name foldedFrom⟩ }

/-- Every route that `FindRoutes` returns complies with its request, and there is
at least one. -/
theorem LoadedDatabase.findRoutes_complies {routes : List (Route R)} (answered : db.findRoutes request = .ok routes) :
    exists paths : List (List Int), paths ≠ [] ∧ List.Forall₂ (db.Complies request) paths routes := by
  rw [findRoutes] at answered
  split at answered
  · cases answered
  rename_i constraints built
  split at answered
  · cases answered
  rename_i dep planned
  split at answered
  · cases answered
  rename_i arr plannedToo
  rcases found : (db.queryOf request constraints dep arr).findPathsOf with refusal | ⟨forced, paths⟩
  · rw [RouteQuery.findRoutes, found] at answered
    cases answered
  rw [RouteQuery.findRoutes, found] at answered
  cases answered
  rcases searched_of_findPathsOf found with ⟨admitted, some, rfl⟩
  refine ⟨((db.queryOf request constraints dep arr).search forced).map ShortestPath.vertices,
    mt List.map_eq_nil_iff.mp some, List.forall₂_map_left_iff.mpr ?_⟩
  exact RouteQuery.forall₂_filterMap fun path member => complies_of_mem_search built planned plannedToo admitted member

end Routes

/-! ## From a SID to a STAR -/

/-- Two airports, one procedure each, and the airway between them. -/
def airwayDatabase : LoadedDatabase ℚ where
  around := ⟨oneWayBuilder, lineEarth, fun _ => 0⟩
  bound := ⟨fun _ _ => ⊤, 0⟩
  mora := .unknown
  greatCircle := noGreatCircle
  engine := lineEngine
  heaps := sortedPickHeaps
  proceduresFor := singleCifp

/-- From `x` to `y`, clear of the airports and of all of region `ZZ`. -/
def airwayRequest : RouteRequest ℚ :=
  ⟨[120], [121], none, .kHigh, 2, [], [], [], [], [[88], [65, 47, 90, 90]], [], some 1, []⟩

theorem findRoutes_complies_airway :
    exists routes, airwayDatabase.findRoutes airwayRequest = .ok routes ∧
      exists paths : List (List Int), paths ≠ [] ∧ List.Forall₂ (airwayDatabase.Complies airwayRequest) paths routes := by
  have found : (airwayDatabase.findRoutes airwayRequest).toOption.isSome = true := by decide +kernel
  rcases answered : airwayDatabase.findRoutes airwayRequest with error | routes
  · rw [answered] at found
    cases found
  · exact ⟨routes, rfl, LoadedDatabase.findRoutes_complies answered⟩

end BravoFinder
