import BravoFinder.Library.JoinedLists
import BravoFinder.Navdb.RouteAssembler
import BravoFinder.Navdb.SoundPlan
import BravoFinder.Navdb.ViaPoints

namespace BravoFinder

/-!
# Assembled routes add up

The total of a route comes from the search, which saw seeds that may include a
preference.  Its legs come from selecting the edges again and dividing the seeds
at the gates, and its phases from the seeds alone.  The three agree.
-/

/-- The idents a leg joins. -/
def RouteLeg.ends {R : Type} (leg : RouteLeg R) : Text × Text :=
  (leg.fromIdent, leg.toIdent)

/-! ## One end -/

section End

variable {R : Type} [Field R] [LinearOrder R] [IsStrictOrderedRing R]

/-- An end at an airport, with a sound price. -/
structure RouteEnd.Sound (routeEnd : RouteEnd R) : Prop where
  labelled : routeEnd.label ≠ []
  price : ProcedureConnector.SoundPrice routeEnd.seedNm routeEnd.spliceVertex routeEnd.spliceLegNm

namespace RouteEnd.Sound

variable {routeEnd : RouteEnd R} (sound : routeEnd.Sound)
include sound

omit [IsStrictOrderedRing R] in
theorem isEmpty_label : ¬ routeEnd.label.isEmpty = true :=
  mt List.isEmpty_iff.mp sound.labelled

/-- A gate off the network divides the seed. -/
theorem bodyNm_add (spliced : routeEnd.spliced = true) :
    routeEnd.bodyNm + routeEnd.spliceLegNm = routeEnd.seedNm := by
  have known : 0 ≤ routeEnd.spliceVertex := of_decide_eq_true (Bool.and_eq_true_iff.mp spliced).1
  rw [RouteEnd.bodyNm, if_pos spliced, max_eq_right (sub_nonneg.mpr (sound.price.splice known).2), sub_add_cancel]

theorem phaseNm_bounds : 0 ≤ routeEnd.phaseNm ∧ routeEnd.phaseNm ≤ routeEnd.seedNm := by
  rw [RouteEnd.phaseNm, if_neg sound.isEmpty_label]
  by_cases spliced : routeEnd.spliced = true
  · have known : 0 ≤ routeEnd.spliceVertex := of_decide_eq_true (Bool.and_eq_true_iff.mp spliced).1
    have divided := sound.bodyNm_add spliced
    refine ⟨?_, by linarith [(sound.price.splice known).1]⟩
    rw [RouteEnd.bodyNm, if_pos spliced]
    exact le_max_left _ _
  · rw [RouteEnd.bodyNm, if_neg spliced]
    exact ⟨sound.price.seed_nonneg, le_refl _⟩

end RouteEnd.Sound

end End

namespace RouteAssembler

section Legs

variable {R : Type} [Field R] [LinearOrder R] (builder : GraphBuilder R) (options : SearchOptions R)

/-! ## The legs of a route -/

theorem ends_leadingLegs {dep : RouteEnd R} (labelled : ¬ dep.label.isEmpty = true) (fix : Int) :
    (leadingLegs builder dep fix).map RouteLeg.ends =
      neighbours ((leadingPoints builder dep fix).map RoutePoint.ident ++ [identAt builder fix]) := by
  rw [leadingLegs, leadingPoints, if_neg labelled, if_neg labelled]
  split_ifs <;> rfl

theorem ends_trailingLegs {arr : RouteEnd R} (labelled : ¬ arr.label.isEmpty = true) (fix : Int) :
    (trailingLegs builder arr fix).map RouteLeg.ends =
      neighbours (identAt builder fix :: (trailingPoints builder arr fix).map RoutePoint.ident) := by
  rw [trailingLegs, trailingPoints, if_neg labelled, if_neg labelled]
  split_ifs <;> rfl

theorem ends_enrouteLegs (path : List Int) :
    (enrouteLegs builder options path).map RouteLeg.ends = neighbours (path.map (identAt builder)) := by
  induction path with
  | nil => rfl
  | cons u rest inductionHypothesis =>
      cases rest with
      | nil => rfl
      | cons w rest =>
          rw [enrouteLegs, List.map_cons, inductionHypothesis, enrouteLeg]
          split <;> rfl

section Sums

variable [IsStrictOrderedRing R]

theorem sum_leadingLegs {dep : RouteEnd R} (sound : dep.Sound) (fix : Int) :
    ((leadingLegs builder dep fix).map RouteLeg.distanceNm).sum = dep.seedNm := by
  rw [leadingLegs, if_neg sound.isEmpty_label]
  by_cases spliced : dep.spliced = true
  · rw [if_pos spliced]
    simp only [List.map_cons, List.map_nil, List.sum_cons, List.sum_nil, add_zero]
    exact sound.bodyNm_add spliced
  · rw [if_neg spliced]
    exact List.sum_singleton

theorem sum_trailingLegs {arr : RouteEnd R} (sound : arr.Sound) (fix : Int) :
    ((trailingLegs builder arr fix).map RouteLeg.distanceNm).sum = arr.seedNm := by
  rw [trailingLegs, if_neg sound.isEmpty_label]
  by_cases spliced : arr.spliced = true
  · rw [if_pos spliced]
    simp only [List.map_cons, List.map_nil, List.sum_cons, List.sum_nil, add_zero]
    exact (add_comm _ _).trans (sound.bodyNm_add spliced)
  · rw [if_neg spliced]
    exact List.sum_singleton

/-- The length of a path between its ends. -/
def enrouteNm (path : List Int) : R :=
  ((enrouteLegs builder options path).map RouteLeg.distanceNm).sum

omit [IsStrictOrderedRing R] in
/-- Selecting the edges again gives the length the search found. -/
theorem enrouteNm_of_edgeCosts {path : List Int} {start total : R × R}
    (edges : edgeCosts builder.graph options path start = some total) :
    total.2 = start.2 + enrouteNm builder options path := by
  induction path generalizing start with
  | nil =>
      cases edges
      exact (add_zero _).symm
  | cons u rest inductionHypothesis =>
      cases rest with
      | nil =>
          cases edges
          exact (add_zero _).symm
      | cons w rest =>
          rw [edgeCosts] at edges
          split at edges
          · cases edges
          split at edges
          · cases edges
          rename_i edge cost selected
          rw [inductionHypothesis edges, enrouteNm, enrouteNm, enrouteLegs, List.map_cons, List.sum_cons, enrouteLeg,
            selected, add_assoc]

theorem enrouteNm_nonneg (nonneg : forall u edge, edge ∈ builder.graph.edgesFrom u -> 0 ≤ edge.distanceNm)
    (path : List Int) : 0 ≤ enrouteNm builder options path := by
  refine List.sum_nonneg fun distance listed => ?_
  rcases List.mem_map.mp listed with ⟨leg, isLeg, rfl⟩
  clear listed
  induction path with
  | nil => cases isLeg
  | cons u rest inductionHypothesis =>
      cases rest with
      | nil => cases isLeg
      | cons w rest =>
          rw [enrouteLegs, List.mem_cons] at isLeg
          rcases isLeg with rfl | later
          · have selected := selected_selectEdge options builder.graph u w
            rw [enrouteLeg]
            split
            · exact le_refl _
            · rename_i edge cost found
              rw [found] at selected
              exact nonneg u edge selected.1.1
          · exact inductionHypothesis later

/-- What `MakeRoute` makes of a path between two airports. -/
structure Made (path : ShortestPath R) (dep arr : RouteEnd R) (route : Route R) : Prop where
  points : route.points ≠ []
  ends : route.legs.map RouteLeg.ends = neighbours (route.points.map RoutePoint.ident)
  legs : (route.legs.map RouteLeg.distanceNm).sum = dep.seedNm + enrouteNm builder options path.vertices + arr.seedNm
  total : route.totalDistanceNm = path.distanceNm
  dep : route.depDistanceNm = dep.phaseNm
  arr : route.arrDistanceNm = arr.phaseNm
  enroute : route.enrouteDistanceNm = max 0 (route.totalDistanceNm - route.depDistanceNm - route.arrDistanceNm)

theorem made_makeRoute {path : ShortestPath R} (nonempty : path.vertices ≠ []) {dep arr : RouteEnd R}
    (soundDep : dep.Sound) (soundArr : arr.Sound) :
    Made builder options path dep arr (makeRoute builder options path dep arr) := by
  rcases path with ⟨_ | ⟨first, rest⟩, distance, cost, found⟩
  · exact absurd rfl nonempty
  rcases List.eq_nil_or_concat' (first :: rest) with empty | ⟨before, last, whole⟩
  · cases empty
  have back : (first :: rest).getLastD first = last := by rw [whole, List.getLastD_concat]
  have unread : forall (firstPoint : Text) (legs : List (RouteLeg R)),
      (buildRouteString firstPoint legs).2.map RouteLeg.ends = legs.map RouteLeg.ends ∧
      (buildRouteString firstPoint legs).2.map RouteLeg.distanceNm = legs.map RouteLeg.distanceNm :=
    fun _ legs => ⟨map_foldLegs (fun _ _ _ => rfl) legs, map_foldLegs (fun _ _ _ => rfl) legs⟩
  refine ⟨?_, ?_, ?_, rfl, rfl, rfl, rfl⟩
  · simp only [makeRoute]
    exact List.append_ne_nil_of_left_ne_nil (List.append_ne_nil_of_right_ne_nil _ (List.cons_ne_nil _ _)) _
  · simp only [makeRoute, back]
    rw [(unread _ _).1, List.map_append, List.map_append, ends_leadingLegs builder soundDep.isEmpty_label,
      ends_enrouteLegs, ends_trailingLegs builder soundArr.isEmpty_label, List.map_append, List.map_append,
      List.map_map]
    -- The first and the last fix are the seams.
    have seamed : forall lead trail : List Text,
        neighbours (lead ++ (first :: rest).map (identAt builder) ++ trail) =
          neighbours (lead ++ [identAt builder first]) ++ neighbours ((first :: rest).map (identAt builder)) ++
            neighbours (identAt builder last :: trail) := by
      intro lead trail
      rw [List.map_cons, List.append_assoc, List.cons_append, neighbours_append, List.append_assoc,
        ← List.cons_append, ← List.map_cons, whole, List.map_append, List.map_singleton, List.append_assoc,
        List.singleton_append, neighbours_append (before.map (identAt builder))]
    exact (seamed _ _).symm
  · simp only [makeRoute, back]
    rw [(unread _ _).2, List.map_append, List.map_append, List.sum_append, List.sum_append,
      sum_leadingLegs builder soundDep, sum_trailingLegs builder soundArr, enrouteNm]

/-- A route with the points, the legs and the distances of another. -/
structure Reports (route made : Route R) : Prop where
  points : route.points = made.points
  legs : route.legs = made.legs
  total : route.totalDistanceNm = made.totalDistanceNm
  dep : route.depDistanceNm = made.depDistanceNm
  enroute : route.enrouteDistanceNm = made.enrouteDistanceNm
  arr : route.arrDistanceNm = made.arrDistanceNm

omit [IsStrictOrderedRing R] in
/-- What `Assemble` adds to a made route are names. -/
theorem exists_assembleOne (dep arr : EndpointPlan R) (soft : Bool) (echo : List Text) {path : ShortestPath R}
    {front back : Int} (starts : path.vertices.head? = some front) (ends : path.vertices.getLast? = some back) :
    exists sid star route, assembleOne builder dep arr soft options echo path = some route ∧
      Reports route
        (if soft = true ∧ arrivalKindForFix arr back = .kTerminalTransition then
          stripPreference (makeRoute builder options path (endOf dep front sid) (endOf arr back star))
        else makeRoute builder options path (endOf dep front sid) (endOf arr back star)) := by
  rcases path with ⟨_ | ⟨first, rest⟩, distance, cost, found⟩
  · cases starts
  rw [List.head?_cons, Option.some.injEq] at starts
  have last : (first :: rest).getLastD first = back := by
    rw [List.getLastD_eq_getLast?, ends, Option.getD_some]
  subst starts last
  exact ⟨_, _, _, rfl, rfl, rfl, rfl, rfl, rfl, rfl⟩

end Sums

end Legs

end RouteAssembler

/-! ## Seeds -/

section Seeds

variable {R : Type} [Field R] [LinearOrder R] [IsStrictOrderedRing R]

open EndpointPlanner

theorem effectiveSeedNm_nonneg {c : ProcedureConnector.Connection R} (sound : c.Has soundlyPriced)
    (softPreferStar : Bool) : 0 ≤ effectiveSeedNm softPreferStar c := by
  rw [effectiveSeedNm]
  split_ifs
  · exact add_nonneg sound.seed_nonneg (by rw [kProcedurePreferNm]; norm_num)
  · exact sound.seed_nonneg

omit [LinearOrder R] [IsStrictOrderedRing R] in
/-- Nothing is preferred at a departure. -/
theorem effectiveSeedNm_of_alone (c : ProcedureConnector.Connection R) :
    effectiveSeedNm false c = c.seedDistanceNm :=
  if_neg fun both => Bool.noConfusion (Bool.and_eq_true_iff.mp both).1

omit [IsStrictOrderedRing R] in
/-- Where every fix has one connection, that one is found. -/
theorem findConnection_eq_some {plan : EndpointPlan R} (pool : PoolOf soundlyPriced plan.connections)
    {c : ProcedureConnector.Connection R} (member : c ∈ plan.connections) :
    RouteAssembler.findConnection plan c.fixVertex = some c := by
  rcases found : RouteAssembler.findConnection plan c.fixVertex with _ | other
  · exact absurd (beq_self_eq_true c.fixVertex) (List.find?_eq_none.mp found c member)
  · have same : other.fixVertex = c.fixVertex := beq_iff_eq.mp
      (List.find?_some (p := fun other : ProcedureConnector.Connection R => other.fixVertex == c.fixVertex) found)
    rw [List.inj_on_of_nodup_map pool.nodup (List.mem_of_find?_eq_some found) member same]

theorem nonneg_of_toSearchEndpoints {plan : EndpointPlan R} (pool : PoolOf soundlyPriced plan.connections)
    (softPreferStar : Bool) (keep : SeededEndpoint R -> Bool) : forall endpoint,
      endpoint ∈ (toSearchEndpoints plan.connections softPreferStar).filter keep -> 0 ≤ endpoint.cost := by
  intro endpoint listed
  rcases List.mem_map.mp (List.mem_of_mem_filter listed) with ⟨c, member, rfl⟩
  exact effectiveSeedNm_nonneg (pool.each c member) softPreferStar

/-- The seed of a fix is that of its connection. -/
theorem exists_connection_of_seeded (sentinel : (-1 : R) < 0) {plan : EndpointPlan R}
    (pool : PoolOf soundlyPriced plan.connections) (softPreferStar : Bool) (keep : SeededEndpoint R -> Bool) {n v : Int}
    (seeded : 0 ≤ buildSeedTable ((toSearchEndpoints plan.connections softPreferStar).filter keep) n v) :
    exists c, c ∈ plan.connections ∧ c.fixVertex = v ∧
      buildSeedTable ((toSearchEndpoints plan.connections softPreferStar).filter keep) n v =
        effectiveSeedNm softPreferStar c := by
  rcases leastSeed_buildSeedTable sentinel (nonneg_of_toSearchEndpoints pool softPreferStar keep)
      (inRange_of_buildSeedTable sentinel seeded) with
    ⟨absent, -⟩ | ⟨⟨endpoint, listed, same, cost⟩, -, -⟩
  · exact absurd seeded (not_le_of_gt absent)
  · rcases List.mem_map.mp (List.mem_of_mem_filter listed) with ⟨c, member, rfl⟩
    exact ⟨c, member, same, cost.symm⟩

omit [IsStrictOrderedRing R] in
/-- An arrival at a preferred fix is the one whose seed was raised. -/
theorem arrivalKindForFix_eq_iff {plan : EndpointPlan R} (sound : plan.Keeps soundlyPriced)
    (soft : plan.softPreferStar = true) {c : ProcedureConnector.Connection R} (member : c ∈ plan.connections) :
    RouteAssembler.arrivalKindForFix plan c.fixVertex = .kTerminalTransition ↔ isApproachFront c = true := by
  rcases front : c.procedures with _ | ⟨ref, others⟩
  · exact absurd front (sound.named soft c member)
  · rw [RouteAssembler.arrivalKindForFix, findConnection_eq_some sound.pool member, isApproachFront]
    simp only [Option.bind_some, front, List.head?_cons, Option.any_some]
    by_cases approach : (ref.type == ProcedureType.kApproach) = true
    · rw [if_pos approach]
      exact ⟨fun _ => approach, fun _ => rfl⟩
    · rw [if_neg approach]
      exact ⟨fun other => ConnectionKind.noConfusion other, fun isApproach => absurd isApproach approach⟩

/-- The preference is taken off exactly where it was put on. -/
theorem without_preference {plan : EndpointPlan R} (sound : plan.Keeps soundlyPriced)
    {c : ProcedureConnector.Connection R} (member : c ∈ plan.connections) {before : R} (nonneg : 0 ≤ before) :
    (if softPreferStarActive plan = true ∧
        RouteAssembler.arrivalKindForFix plan c.fixVertex = .kTerminalTransition then
      max 0 (before + effectiveSeedNm (softPreferStarActive plan) c - kProcedurePreferNm)
    else before + effectiveSeedNm (softPreferStarActive plan) c) = before + c.seedDistanceNm := by
  have seed := (sound.pool.each c member).seed_nonneg
  by_cases soft : softPreferStarActive plan = true
  · have kind := arrivalKindForFix_eq_iff sound soft member
    by_cases approach : isApproachFront c = true
    · rw [if_pos ⟨soft, kind.mpr approach⟩, effectiveSeedNm, if_pos (Bool.and_eq_true_iff.mpr ⟨soft, approach⟩),
        ← add_assoc, add_sub_cancel_right, max_eq_right (add_nonneg nonneg seed)]
    · rw [if_neg fun both => approach (kind.mp both.2), effectiveSeedNm,
        if_neg fun both => approach (Bool.and_eq_true_iff.mp both).2]
  · rw [if_neg fun both => soft both.1, effectiveSeedNm, if_neg fun both => soft (Bool.and_eq_true_iff.mp both).1]

end Seeds

/-! ## Paths of a query -/

namespace RouteQuery

section Paths

variable {R : Type} [Field R] [LinearOrder R] (query : RouteQuery R)

theorem nodup_of_forced {forced : List ForcedPoint} (admitted : query.forced = .ok forced) :
    (forced.map ForcedPoint.vertex).Nodup := by
  rw [RouteQuery.forced, ForcedRouter.admitAll] at admitted
  split at admitted
  · cases admitted
    exact List.nodup_nil
  split at admitted
  · cases admitted
  · exact (query.admitted_iff.mp admitted).2

variable [IsStrictOrderedRing R]

/-- However the paths of a query are searched for, their length is that of their
edges and seeds. -/
theorem priced_of_mem_search (nonneg : forall source, source ∈ query.sources -> 0 ≤ source.cost)
    {forced : List ForcedPoint} (admitted : query.forced = .ok forced) {path : ShortestPath R}
    (listed : path ∈ query.search forced) :
    costOfPathMulti query.engine.earth query.builder.graph path.vertices
      (buildSeedTable query.sources query.builder.graph.vertexCount)
      (buildSeedTable query.goals query.builder.graph.vertexCount)
      (buildBearingTable query.sources query.builder.graph.vertexCount)
      (buildBearingTable query.goals query.builder.graph.vertexCount)
      query.options = some (path.cost, path.distanceNm) := by
  rw [search] at listed
  simp only at listed
  split at listed
  · exact (forcedRoute_of_mem_findPaths nonneg (query.nodup_of_forced admitted) listed).priced
  split at listed
  · split at listed
    · rename_i found
      rw [List.mem_singleton.mp listed]
      exact SearchSetup.costOfPathMulti_of_found
        (searchSetup query.engine query.builder.graph query.sources query.goals query.options) nonneg
        SearchWorkspace.stamped_empty (Bool.and_eq_true_iff.mp found).1
    · cases listed
  · exact (findKShortestPathsMulti_routes query.engine query.builder.graph query.sources query.goals nonneg _
      query.options).priced path listed

end Paths

/-! ## Routes -/

section Routes

variable {R : Type} [Field R] [LinearOrder R] (query : RouteQuery R)

/-- The plans of a query are those of the airports it names. -/
structure Planned [FloorRing R] (around : Surroundings R) (bound : OutsideBound R)
    (cifpLookup : Text -> Except Error (Option CifpData)) : Prop where
  depNamed : query.request.departure ≠ []
  arrNamed : query.request.arrival ≠ []
  dep : EndpointPlanner.plan around bound query.request query.request.departure true cifpLookup query.avoidVertices =
    .ok query.dep
  arr : EndpointPlanner.plan around bound query.request query.request.arrival false cifpLookup query.avoidVertices =
    .ok query.arr

/-- The route of a path adds up, and its length is geographic: that of the
edges and of the procedures at both ends. -/
structure AddsUp (path : ShortestPath R) (route : Route R) : Prop where
  count : route.legs.length + 1 = route.points.length
  runs : forall i leg, route.legs[i]? = some leg ->
    route.points[i]?.map RoutePoint.ident = some leg.fromIdent ∧
      route.points[i + 1]?.map RoutePoint.ident = some leg.toIdent
  legs : (route.legs.map RouteLeg.distanceNm).sum = route.totalDistanceNm
  phases : route.depDistanceNm + route.enrouteDistanceNm + route.arrDistanceNm = route.totalDistanceNm
  dep_nonneg : 0 ≤ route.depDistanceNm
  enroute_nonneg : 0 ≤ route.enrouteDistanceNm
  arr_nonneg : 0 ≤ route.arrDistanceNm
  geographic : exists dep arr, dep ∈ query.dep.connections ∧ arr ∈ query.arr.connections ∧
    path.vertices.head? = some dep.fixVertex ∧ path.vertices.getLast? = some arr.fixVertex ∧
    route.totalDistanceNm = dep.seedDistanceNm +
      RouteAssembler.enrouteNm query.builder query.options path.vertices + arr.seedDistanceNm

variable [IsStrictOrderedRing R] [FloorRing R] {around : Surroundings R} {bound : OutsideBound R}
  {cifpLookup : Text -> Except Error (Option CifpData)} {query : RouteQuery R}

omit [IsStrictOrderedRing R] [FloorRing R] in
/-- What `Assemble` tells `MakeRoute` of a planned end. -/
theorem sound_endOf {plan : EndpointPlan R} (sound : plan.Keeps soundlyPriced) (labelled : plan.airportIcao ≠ [])
    {c : ProcedureConnector.Connection R} (member : c ∈ plan.connections) (procedure : Text) :
    (RouteAssembler.endOf plan c.fixVertex procedure).Sound ∧
      (RouteAssembler.endOf plan c.fixVertex procedure).seedNm = c.seedDistanceNm := by
  rw [RouteAssembler.endOf, findConnection_eq_some sound.pool member]
  exact ⟨⟨labelled, sound.pool.each c member⟩, rfl⟩

/-- A path between two connections, as long as its edges and their seeds. -/
structure Joins (query : RouteQuery R) (path : ShortestPath R) (dep arr : ProcedureConnector.Connection R) :
    Prop where
  isDep : dep ∈ query.dep.connections
  isArr : arr ∈ query.arr.connections
  starts : path.vertices.head? = some dep.fixVertex
  ends : path.vertices.getLast? = some arr.fixVertex
  distance : path.distanceNm = dep.seedDistanceNm +
    RouteAssembler.enrouteNm query.builder query.options path.vertices +
    EndpointPlanner.effectiveSeedNm (EndpointPlanner.softPreferStarActive query.arr) arr

omit [FloorRing R] in
theorem exists_joins (depSound : query.dep.Keeps soundlyPriced) (arrSound : query.arr.Keeps soundlyPriced)
    {forced : List ForcedPoint} (admitted : query.forced = .ok forced) {path : ShortestPath R} (listed : path ∈ query.search forced) :
    exists dep arr, query.Joins path dep arr := by
  have priced := query.priced_of_mem_search (nonneg_of_toSearchEndpoints depSound.pool false _) admitted listed
  rcases costOfPathMulti_eq_some priced with
    ⟨front, back, cost, edgeNm, starts, ends, sourceSeeded, goalSeeded, edges, -, distance⟩
  rcases exists_connection_of_seeded query.engine.sentinel_neg depSound.pool false _ sourceSeeded with
    ⟨dep, isDep, rfl, depSeed⟩
  rcases exists_connection_of_seeded query.engine.sentinel_neg arrSound.pool _ _ goalSeeded with
    ⟨arr, isArr, rfl, arrSeed⟩
  have enroute : edgeNm = RouteAssembler.enrouteNm query.builder query.options path.vertices :=
    (RouteAssembler.enrouteNm_of_edgeCosts query.builder query.options edges).trans (zero_add _)
  refine ⟨dep, arr, isDep, isArr, starts, ends, ?_⟩
  calc path.distanceNm
      = buildSeedTable query.sources query.builder.graph.vertexCount dep.fixVertex + edgeNm +
          buildSeedTable query.goals query.builder.graph.vertexCount arr.fixVertex := distance
    _ = EndpointPlanner.effectiveSeedNm false dep + edgeNm +
          EndpointPlanner.effectiveSeedNm (EndpointPlanner.softPreferStarActive query.arr) arr :=
        congrArg₂ (fun source goal => source + edgeNm + goal) depSeed arrSeed
    _ = _ := by rw [effectiveSeedNm_of_alone, enroute]

omit [FloorRing R] in
theorem Joins.addsUp {path : ShortestPath R} {dep arr : ProcedureConnector.Connection R} {depEnd arrEnd : RouteEnd R}
    {made route : Route R} (joins : query.Joins path dep arr)
    (measured : forall u edge, edge ∈ query.builder.graph.edgesFrom u -> 0 ≤ edge.distanceNm)
    (arrSound : query.arr.Keeps soundlyPriced) (depSound : query.dep.Keeps soundlyPriced)
    (isMade : RouteAssembler.Made query.builder query.options path depEnd arrEnd made)
    (atDep : depEnd.Sound ∧ depEnd.seedNm = dep.seedDistanceNm)
    (atArr : arrEnd.Sound ∧ arrEnd.seedNm = arr.seedDistanceNm)
    (reports : RouteAssembler.Reports route
      (if EndpointPlanner.softPreferStarActive query.arr = true ∧
          RouteAssembler.arrivalKindForFix query.arr arr.fixVertex = .kTerminalTransition then
        RouteAssembler.stripPreference made
      else made)) : query.AddsUp path route := by
  have edges := RouteAssembler.enrouteNm_nonneg query.builder query.options measured path.vertices
  have depBounds := atDep.1.phaseNm_bounds
  have arrBounds := atArr.1.phaseNm_bounds
  rw [atDep.2] at depBounds
  rw [atArr.2] at arrBounds
  have total : route.totalDistanceNm = dep.seedDistanceNm +
      RouteAssembler.enrouteNm query.builder query.options path.vertices + arr.seedDistanceNm := by
    rw [← without_preference arrSound joins.isArr
      (add_nonneg (depSound.pool.each dep joins.isDep).seed_nonneg edges), ← joins.distance, ← isMade.total,
      reports.total]
    split_ifs <;> rfl
  have points : route.points = made.points := reports.points.trans (by split_ifs <;> rfl)
  have legs : route.legs = made.legs := reports.legs.trans (by split_ifs <;> rfl)
  have depNm : route.depDistanceNm = depEnd.phaseNm := by
    rw [reports.dep, ← isMade.dep]
    split_ifs <;> rfl
  have arrNm : route.arrDistanceNm = arrEnd.phaseNm := by
    rw [reports.arr, ← isMade.arr]
    split_ifs <;> rfl
  have enroute : route.enrouteDistanceNm = route.totalDistanceNm - route.depDistanceNm - route.arrDistanceNm := by
    have clamped : route.enrouteDistanceNm =
        max 0 (route.totalDistanceNm - route.depDistanceNm - route.arrDistanceNm) := by
      rw [reports.enroute, reports.total, reports.dep, reports.arr]
      split_ifs
      · rfl
      · exact isMade.enroute
    rw [clamped, total, depNm, arrNm]
    exact max_eq_right (by linarith [depBounds.2, arrBounds.2])
  have ends : route.legs.map RouteLeg.ends = neighbours (route.points.map RoutePoint.ident) := by
    rw [legs, points]
    exact isMade.ends
  refine ⟨?_, fun i leg listed => ?_, ?_, ?_, ?_, ?_, ?_, ?_⟩
  · have nonempty : route.points.map RoutePoint.ident ≠ [] := by
      rw [points]
      exact mt List.map_eq_nil_iff.mp isMade.points
    have count := length_neighbours nonempty
    rw [← ends, List.length_map, List.length_map] at count
    exact count
  · have pair : (neighbours (route.points.map RoutePoint.ident))[i]? = some leg.ends := by
      rw [← ends, List.getElem?_map, listed, Option.map_some]
    have both := getElem?_neighbours pair
    rw [List.getElem?_map, List.getElem?_map] at both
    exact both
  · rw [legs, isMade.legs, atDep.2, atArr.2, total]
  · rw [enroute]
    ring
  · rw [depNm]
    exact depBounds.1
  · rw [enroute, total, depNm, arrNm]
    linarith [depBounds.2, arrBounds.2]
  · rw [arrNm]
    exact arrBounds.1
  · exact ⟨dep, arr, joins.isDep, joins.isArr, joins.starts, joins.ends, total⟩

/-- Each path of a query becomes a route that adds up. -/
theorem exists_addsUp (planned : query.Planned around bound cifpLookup)
    (measured : forall u edge, edge ∈ query.builder.graph.edgesFrom u -> 0 ≤ edge.distanceNm)
    {forced : List ForcedPoint} (admitted : query.forced = .ok forced) {path : ShortestPath R}
    (listed : path ∈ query.search forced) (echo : List Text) : exists route,
      RouteAssembler.assembleOne query.builder query.dep query.arr
        (EndpointPlanner.softPreferStarActive query.arr) query.options echo path = some route ∧
      query.AddsUp path route := by
  have finds := findsOnly_soundlyPriced around bound query.avoidVertices
  rcases EndpointPlanner.keeps_plan finds planned.dep with ⟨depSound, depNamed⟩
  rcases EndpointPlanner.keeps_plan finds planned.arr with ⟨arrSound, arrNamed⟩
  rcases exists_joins depSound arrSound admitted listed with ⟨dep, arr, joins⟩
  have depLabel : query.dep.airportIcao ≠ [] := by
    rw [depNamed (List.ne_nil_of_mem joins.isDep)]
    exact mt List.map_eq_nil_iff.mp planned.depNamed
  have arrLabel : query.arr.airportIcao ≠ [] := by
    rw [arrNamed (List.ne_nil_of_mem joins.isArr)]
    exact mt List.map_eq_nil_iff.mp planned.arrNamed
  rcases RouteAssembler.exists_assembleOne query.builder query.options query.dep query.arr
      (EndpointPlanner.softPreferStarActive query.arr) echo joins.starts joins.ends with
    ⟨sid, star, route, assembled, reports⟩
  have atDep := sound_endOf depSound depLabel joins.isDep sid
  have atArr := sound_endOf arrSound arrLabel joins.isArr star
  have nonempty : path.vertices ≠ [] := List.ne_nil_of_mem (List.mem_of_getLast? joins.ends)
  have made := RouteAssembler.made_makeRoute query.builder query.options nonempty atDep.1 atArr.1
  exact ⟨route, assembled, joins.addsUp measured arrSound depSound made atDep atArr reports⟩

theorem forall₂_filterMap {A B : Type} {f : A -> Option B} {P : A -> B -> Prop} {items : List A}
    (each : forall a, a ∈ items -> exists b, f a = some b ∧ P a b) : List.Forall₂ P items (items.filterMap f) := by
  induction items with
  | nil => exact .nil
  | cons a rest inductionHypothesis =>
      rcases each a List.mem_cons_self with ⟨b, mapped, holds⟩
      rw [List.filterMap_cons_some mapped]
      exact .cons holds (inductionHypothesis fun other member => each other (List.mem_cons_of_mem a member))

/-- Every path found becomes a route, in order, and each route adds up. -/
theorem findRoutes_addsUp (planned : query.Planned around bound cifpLookup)
    (measured : forall u edge, edge ∈ query.builder.graph.edgesFrom u -> 0 ≤ edge.distanceNm)
    {routes : List (Route R)} (answered : query.findRoutes = .ok routes) :
    exists forced, query.forced = .ok forced ∧ List.Forall₂ query.AddsUp (query.search forced) routes := by
  rw [findRoutes, findPathsOf] at answered
  split at answered
  · cases answered
  split at answered
  · cases answered
  rename_i forced admitted
  simp only at answered
  split at answered
  · cases answered
  · cases answered
    exact ⟨forced, admitted, forall₂_filterMap fun path listed => exists_addsUp planned measured admitted listed _⟩

end Routes

end RouteQuery

/-! ## A departure and an arrival of one fix each -/

/-- One published procedure at either airport. -/
def singleCifp (icao : Text) : Except Error (Option CifpData) :=
  .ok (some ⟨[if icao = [88] then ⟨.kSid, [83], [], [], 0, [ProcedureConnector.plainLeg .kIF waypointA]⟩
    else ⟨.kStar, [84], [], [], 0, [ProcedureConnector.plainLeg .kIF waypointB]⟩], []⟩)

/-- The plan of an airport with a procedure to one fix. -/
def procedurePlan (icao : Text) (vertex : Int) (type : ProcedureType) (name : Text) : EndpointPlan ℚ :=
  ⟨[⟨vertex, 60, 90, kNoBearing, kNoVertex, 0, [⟨type, name, [], [], []⟩]⟩], icao, true, false, true, false, false,
    [], false⟩

def procedureQuery : RouteQuery ℚ :=
  { gateQuery with
    request := { gateQuery.request with forcedPoints := [] }
    dep := procedurePlan [88] 0 .kSid [83]
    arr := procedurePlan [89] 1 .kStar [84] }

theorem planned_procedureQuery :
    procedureQuery.Planned ⟨oneWayBuilder, lineEarth, fun _ => 0⟩ ⟨fun _ _ => ⊤, 0⟩ singleCifp where
  depNamed := by decide
  arrNamed := by decide
  dep := by decide +kernel
  arr := by decide +kernel

/-- Three legs of 60 nautical miles, one in each phase. -/
theorem findRoutes_addsUp_procedureQuery :
    procedureQuery.findRoutes.toOption.map (fun routes => routes.map fun route =>
      (route.totalDistanceNm, route.depDistanceNm, route.enrouteDistanceNm, route.arrDistanceNm)) =
        some [(180, 60, 60, 60)] ∧
      exists routes, procedureQuery.findRoutes = .ok routes ∧ exists forced, procedureQuery.forced = .ok forced ∧
        List.Forall₂ procedureQuery.AddsUp (procedureQuery.search forced) routes := by
  have distances : procedureQuery.findRoutes.toOption.map (fun routes => routes.map fun route =>
      (route.totalDistanceNm, route.depDistanceNm, route.enrouteDistanceNm, route.arrDistanceNm)) =
        some [(180, 60, 60, 60)] := by decide +kernel
  refine ⟨distances, ?_⟩
  rcases answered : procedureQuery.findRoutes with refusal | routes
  · rw [answered] at distances
    cases distances
  · refine ⟨routes, rfl, RouteQuery.findRoutes_addsUp planned_procedureQuery (fun u edge listed => ?_) answered⟩
    have edges : forall edge, edge ∈ procedureQuery.builder.graph.edges -> 0 ≤ edge.distanceNm := by decide
    exact edges edge (List.mem_of_mem_take (List.mem_of_mem_drop listed))
end BravoFinder
