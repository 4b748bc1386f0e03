import BravoFinder.Graph.SearchReach
import BravoFinder.Navdb.CompliantRoutes

namespace BravoFinder

/-!
# No route means no way

`FindRoutes` prices turns, so that the paths it returns need not be the
cheapest.  Yet when it answers that there is no route, the request leaves no
way open between the two airports; and when it leaves one open, a route is
found.
-/

section Heuristic

variable {R : Type} [Field R] [LinearOrder R]

/-- The heuristic is finite once there is a goal on the graph. -/
theorem multiGoalHeuristic_ne_top {engine : Engine R} {graph : NavGraph R R} {goals : List (SeededEndpoint R)}
    {goal : SeededEndpoint R} (listed : goal ∈ goals) (inRange : graph.InRange goal.vertex) (v : Int) :
    multiGoalHeuristic engine graph goals v ≠ ⊤ := by
  let step (best : WithTop R) (goal : SeededEndpoint R) : WithTop R :=
    if goal.vertex < 0 ∨ graph.vertexCount ≤ goal.vertex then best
    else
      let h : R := engine.earth.chordNm (graph.coordOf v) (graph.coordOf goal.vertex) + goal.cost
      if (h : WithTop R) < best then (h : WithTop R) else best
  have lowers : forall best other, step best other ≤ best := by
    intro best other
    dsimp only [step]
    split_ifs with outside less
    · exact le_rfl
    · exact less.le
    · exact le_rfl
  have folds : forall (others : List (SeededEndpoint R)) (best : WithTop R), others.foldl step best ≤ best := by
    intro others
    induction others with
    | nil => exact fun _ => le_rfl
    | cons first rest inductionHypothesis => exact fun best => (inductionHypothesis _).trans (lowers best first)
  have here : forall best, step best goal ≠ ⊤ := by
    intro best
    have inside : ¬ (goal.vertex < 0 ∨ graph.vertexCount ≤ goal.vertex) := by
      have bounds := inRange
      unfold NavGraph.InRange at bounds
      omega
    dsimp only [step]
    rw [if_neg inside]
    split_ifs with less
    · exact WithTop.coe_ne_top
    · exact ne_top_of_le_ne_top WithTop.coe_ne_top (not_lt.mp less)
  rcases List.append_of_mem listed with ⟨before, after, split⟩
  have whole : multiGoalHeuristic engine graph goals v = after.foldl step (step (before.foldl step ⊤) goal) := by
    rw [split, multiGoalHeuristic, List.foldl_append, List.foldl_cons]
  rw [whole]
  exact ne_top_of_le_ne_top (here _) (folds after _)

variable [IsStrictOrderedRing R]

omit [IsStrictOrderedRing R] in
/-- A search between endpoints finds a path exactly when there is a walk. -/
theorem found_iff_exists_walk (engine : Engine R) (graph : NavGraph R R) (sources : List (SeededEndpoint R))
    {goals : List (SeededEndpoint R)} (goalsNonneg : forall goal, goal ∈ goals -> 0 ≤ goal.cost)
    (options : SearchOptions R) :
    (findShortestPathMulti engine graph sources goals options).found = true ↔
      exists path, (searchSetup engine graph sources goals options).Walk sources path := by
  constructor
  · intro found
    exact ⟨_, ((searchSetup engine graph sources goals options).isRoute_of_found sources
      SearchWorkspace.stamped_empty found).walk⟩
  · rintro ⟨path, walk⟩
    have finite : forall v, (searchSetup engine graph sources goals options).heuristic v ≠ ⊤ := by
      rcases walk.ends with ⟨back, _, isGoal⟩
      have seeded : 0 ≤ buildSeedTable goals graph.vertexCount back := isGoal
      have inRange := inRange_of_buildSeedTable engine.sentinel_neg seeded
      rcases leastSeed_buildSeedTable engine.sentinel_neg goalsNonneg inRange with
        ⟨absent, _⟩ | ⟨⟨goal, listed, rfl, _⟩, _, _⟩
      · exact absurd seeded (not_le_of_gt absent)
      · exact multiGoalHeuristic_ne_top listed inRange
    exact ((searchSetup engine graph sources goals options).found_iff_walk finite sources
      SearchWorkspace.stamped_empty).mpr ⟨path, walk⟩

/-- An unforced query searches in vain exactly when the first search does. -/
theorem RouteQuery.search_ne_nil_iff (query : RouteQuery R)
    (nonneg : forall source, source ∈ query.sources -> 0 ≤ source.cost) :
    query.search [] ≠ [] ↔ (findShortestPathMulti query.engine query.builder.graph query.sources query.goals
      query.options).found = true := by
  rw [search]
  dsimp only
  rw [List.isEmpty_nil, Bool.not_true, if_neg Bool.false_ne_true]
  split_ifs with one found
  · exact iff_of_true (List.cons_ne_nil _ _) (Bool.and_eq_true_iff.mp found).1
  · refine iff_of_false (not_not_intro rfl) fun isFound => found (Bool.and_eq_true_iff.mpr ⟨isFound, ?_⟩)
    have route := (searchSetup query.engine query.builder.graph query.sources query.goals
      query.options).isRoute_of_found query.sources SearchWorkspace.stamped_empty isFound
    exact Bool.not_eq_true' _ |>.mpr (List.isEmpty_eq_false_iff.mpr route.nonempty)
  · constructor
    · intro some
      by_contra missing
      exact some (findKShortestPathsFrom_empty (.inr (.inr (.inr (Bool.eq_false_iff.mpr missing)))))
    · intro found none
      have route := (searchSetup query.engine query.builder.graph query.sources query.goals
        query.options).isRoute_of_found query.sources SearchWorkspace.stamped_empty found
      have proper : ¬ kShortestEmpty query.engine query.builder.graph query.sources query.goals
          (max 1 query.request.k) query.options := by
        rintro (few | noSource | noGoal | missing)
        · omega
        · rcases route.starts with ⟨source, listed, _⟩
          rw [noSource] at listed
          cases listed
        · rcases route.ends with ⟨back, _, isGoal⟩
          have seeded : 0 ≤ buildSeedTable query.goals query.builder.graph.vertexCount back := isGoal
          rw [noGoal] at seeded
          exact absurd seeded (not_le_of_gt query.engine.sentinel_neg)
        · rw [found] at missing
          cases missing
      have enumerates := findKShortestPathsFrom_enumerates id id (fun _ => rfl) (fun _ => le_rfl) proper
      have charged := charged_enumeration query.goals query.options nonneg found (max 1 query.request.k - 1).toNat
      have head := charged.head
      rw [enumerates.accepted] at head
      have empty : findKShortestPathsFrom id query.engine query.builder.graph query.sources query.goals
        (max 1 query.request.k) query.options = [] := none
      rw [empty] at head
      cases head

end Heuristic

/-! ## The ways a request leaves open -/

/-- A way between the airports of two plans, which the request permits. -/
structure LoadedDatabase.Flyable {R : Type} [Field R] [LinearOrder R] [FloorRing R] (db : LoadedDatabase R)
    (request : RouteRequest R) (dep arr : EndpointPlan R) (path : List Int) : Prop where
  starts : exists c, c ∈ dep.connections ∧ path.head? = some c.fixVertex
  ends : exists c, c ∈ arr.connections ∧ path.getLast? = some c.fixVertex
  avoids : forall v, v ∈ path -> forall raw, raw ∈ request.avoidWaypoints -> ¬ db.around.builder.Means raw v
  steps : path.IsChain fun u w => exists edge, edge ∈ db.around.builder.graph.edgesFrom u ∧ edge.toVertex = w ∧
    Permits request db.around.builder db.mora db.greatCircle u edge

section Ways

variable {R : Type} [Field R] [LinearOrder R] [FloorRing R] {db : LoadedDatabase R} {request : RouteRequest R}
  {constraints : ConstraintBundle R} {dep arr : EndpointPlan R}

theorem filters_of_built {builder : GraphBuilder R} {grid : MoraGrid} {greatCircle : GreatCircle R}
    (built : buildConstraints request builder grid greatCircle = .ok constraints) :
    constraints.options.nodeFilter = ⟨builder.firstAirportVertex, builder.graph.vertexCount, none⟩ ∧
      constraints.options.edgeFilter = .none := by
  unfold buildConstraints at built
  split_ifs at built
  cases built
  exact ⟨rfl, rfl⟩

/-- The node filter blocks airports only. -/
theorem not_blocks_waypoint {builder : GraphBuilder R} {grid : MoraGrid} {greatCircle : GreatCircle R}
    (built : buildConstraints request builder grid greatCircle = .ok constraints) {v : Int}
    (place : v ∈ builder.waypoints) : constraints.options.nodeFilter.blocks v = false := by
  rw [(filters_of_built built).1, NodeFilter.blocks]
  have below := (GraphBuilder.mem_waypoints.mp place).2
  rw [if_neg fun inside => absurd inside.2.1 (not_le.mpr below)]

omit [LinearOrder R] [FloorRing R] in
/-- A fix of a plan is an endpoint of the search unless it is to be avoided. -/
theorem exists_endpoint [LinearOrder R] {plan : EndpointPlan R} {c : ProcedureConnector.Connection R} (member : c ∈ plan.connections)
    (soft : Bool) {avoid : SortedVector Int} (spared : c.fixVertex ∉ avoid.elems) :
    exists e, e ∈ (EndpointPlanner.toSearchEndpoints plan.connections soft).filter
      (fun e => !avoid.binarySearch e.vertex) ∧ e.vertex = c.fixVertex := by
  refine ⟨_, List.mem_filter.mpr ⟨List.mem_map_of_mem member, ?_⟩, rfl⟩
  rw [Bool.not_eq_true', Bool.eq_false_iff]
  exact mt (SortedVector.binarySearch_eq_true _ _).mp spared

variable [IsStrictOrderedRing R]
  (built : buildConstraints request db.around.builder db.mora db.greatCircle = .ok constraints)
  (planned : db.plannedEnd request true constraints.avoidVertices = .ok dep)
  (plannedToo : db.plannedEnd request false constraints.avoidVertices = .ok arr)

include built planned plannedToo

/-- A walk of the search is a way that the request leaves open. -/
theorem flyable_of_walk {path : List Int}
    (walk : (searchSetup db.engine db.around.builder.graph (db.queryOf request constraints dep arr).sources
      (db.queryOf request constraints dep arr).goals constraints.options).Walk
        (db.queryOf request constraints dep arr).sources path) : db.Flyable request dep arr path := by
  rcases LoadedDatabase.plan_of_plannedEnd planned with ⟨depPlan, -⟩
  rcases LoadedDatabase.plan_of_plannedEnd plannedToo with ⟨arrPlan, -⟩
  have depKeeps := (EndpointPlanner.keeps_plan (findsOnly_onTheWay db.around db.bound _) depPlan).1
  have arrPriced := (EndpointPlanner.keeps_plan (findsOnly_soundlyPriced db.around db.bound _) arrPlan).1
  rcases walk.starts with ⟨source, seeded, first, -, -⟩
  rcases List.mem_filter.mp seeded with ⟨connected, kept⟩
  rcases List.mem_map.mp connected with ⟨c, member, rfl⟩
  have spared : (!constraints.avoidVertices.binarySearch c.fixVertex) = true := kept
  have places := clear_of_chain built (walk.steps.imp fun _ _ step => ⟨step.banned, step.edge⟩) (by
    intro v head
    cases Option.some.inj (first.symm.trans head)
    refine ⟨(depKeeps.pool.each c member).1, fun avoided => ?_⟩
    rw [(SortedVector.binarySearch_eq_true _ _).mpr avoided] at spared
    cases spared)
  rcases walk.ends with ⟨back, last, isGoal⟩
  rcases exists_connection_of_seeded db.engine.sentinel_neg arrPriced.pool _ _ isGoal with ⟨goal, isArr, fix, -⟩
  refine ⟨⟨c, member, first⟩, ⟨goal, isArr, fix ▸ last⟩, fun v onPath raw entry means => ?_, ?_⟩
  · exact (places v onPath).2 ((avoidVertices_of_built built).mpr ⟨raw, entry, means⟩)
  · apply walk.steps.imp_of_mem_imp
    rintro u w onPath _ ⟨_, _, edge, listed, target, allowed⟩
    exact ⟨edge, listed, target, permits_of_allowed built (places u onPath).1 listed allowed⟩

/-- A way that the request leaves open is a walk of the search. -/
theorem walk_of_flyable {path : List Int} (flyable : db.Flyable request dep arr path) :
    (searchSetup db.engine db.around.builder.graph (db.queryOf request constraints dep arr).sources
      (db.queryOf request constraints dep arr).goals constraints.options).Walk
        (db.queryOf request constraints dep arr).sources path := by
  rcases LoadedDatabase.plan_of_plannedEnd planned with ⟨depPlan, -⟩
  rcases LoadedDatabase.plan_of_plannedEnd plannedToo with ⟨arrPlan, -⟩
  have depKeeps := (EndpointPlanner.keeps_plan (findsOnly_onTheWay db.around db.bound _) depPlan).1
  have arrKeeps := (EndpointPlanner.keeps_plan (findsOnly_onTheWay db.around db.bound _) arrPlan).1
  have arrPriced := (EndpointPlanner.keeps_plan (findsOnly_soundlyPriced db.around db.bound _) arrPlan).1
  have spared : forall v, v ∈ path -> v ∉ constraints.avoidVertices.elems := by
    intro v onPath avoided
    rcases (avoidVertices_of_built built).mp avoided with ⟨raw, entry, means⟩
    exact flyable.avoids v onPath raw entry means
  rcases flyable.starts with ⟨c, member, first⟩
  rcases flyable.ends with ⟨goal, isArr, last⟩
  have start := (depKeeps.pool.each c member).1
  have places : forall v, v ∈ path -> v ∈ db.around.builder.waypoints := by
    apply flyable.steps.induction
    · rintro u w ⟨edge, listed, rfl, _⟩ place
      have vertex := (db.around.builder.graph.mem_vertices u).mpr (GraphBuilder.inRange_of_mem_waypoints place)
      apply GraphBuilder.mem_waypoints.mpr
      exact ⟨(db.around.builder.graph.inRange_toVertex listed).1,
        (db.around.builder.waypoint_of_edge u vertex edge listed).2⟩
    · intro nonempty
      rw [Option.some.inj ((List.head?_eq_some_head nonempty).symm.trans first)]
      exact start
  constructor
  · rcases exists_endpoint member false (spared _ (List.mem_of_head? first)) with ⟨source, seeded, same⟩
    refine ⟨source, seeded, first.trans (congrArg some same.symm), ?_, ?_⟩
    · rw [same]
      exact GraphBuilder.inRange_of_mem_waypoints start
    · rw [same]
      exact not_blocks_waypoint built start
  · rcases exists_endpoint isArr (EndpointPlanner.softPreferStarActive arr)
      (spared _ (List.mem_of_getLast? last)) with ⟨endpoint, seeded, same⟩
    have inRange := GraphBuilder.inRange_of_mem_waypoints (arrKeeps.pool.each goal isArr).1
    refine ⟨goal.fixVertex, last, ?_⟩
    rcases leastSeed_buildSeedTable db.engine.sentinel_neg
        (nonneg_of_toSearchEndpoints arrPriced.pool (EndpointPlanner.softPreferStarActive arr)
          fun e => !constraints.avoidVertices.binarySearch e.vertex) inRange with
      ⟨_, unlisted⟩ | ⟨_, known, _⟩
    · exact absurd same (unlisted endpoint seeded)
    · exact known
  · apply flyable.steps.imp_of_mem_imp
    rintro u w onPath next ⟨edge, listed, target, permits⟩
    refine ⟨not_blocks_waypoint built (places w next), ?_, edge, listed, target, ?_⟩
    · show constraints.options.edgeFilter.blocks u w = false
      rw [(filters_of_built built).2]
      rfl
    · have charged := edgeAllowed_eq_some_iff built (GraphBuilder.inRange_of_mem_waypoints (places u onPath)) listed
      exact Option.isSome_iff_exists.mpr ⟨_, (charged _).mpr ⟨permits, rfl⟩⟩

/-- What a search without via points comes to. -/
theorem search_ne_nil_iff_flyable : (db.queryOf request constraints dep arr).search [] ≠ [] ↔
    exists path, db.Flyable request dep arr path := by
  rcases LoadedDatabase.plan_of_plannedEnd planned with ⟨depPlan, -⟩
  rcases LoadedDatabase.plan_of_plannedEnd plannedToo with ⟨arrPlan, -⟩
  have priced := findsOnly_soundlyPriced db.around db.bound constraints.avoidVertices
  have depNonneg := nonneg_of_toSearchEndpoints (EndpointPlanner.keeps_plan priced depPlan).1.pool false
    fun e => !constraints.avoidVertices.binarySearch e.vertex
  have arrNonneg := nonneg_of_toSearchEndpoints (EndpointPlanner.keeps_plan priced arrPlan).1.pool
    (EndpointPlanner.softPreferStarActive arr) fun e => !constraints.avoidVertices.binarySearch e.vertex
  apply (RouteQuery.search_ne_nil_iff _ depNonneg).trans
  apply (found_iff_exists_walk db.engine db.around.builder.graph _ arrNonneg constraints.options).trans
  exact exists_congr fun path =>
    ⟨flyable_of_walk built planned plannedToo, walk_of_flyable built planned plannedToo⟩

end Ways

section Answer

variable {R : Type} [Field R] [LinearOrder R] [FloorRing R] [IsStrictOrderedRing R] {db : LoadedDatabase R}
  {request : RouteRequest R} {constraints : ConstraintBundle R} {dep arr : EndpointPlan R}

/-- Without via points, and with both airports planned, `FindRoutes` finds routes
exactly when the request leaves a way open; otherwise it says that there are
none. -/
theorem LoadedDatabase.findRoutes_ok_iff (unforced : request.forcedPoints = [])
    (built : buildConstraints request db.around.builder db.mora db.greatCircle = .ok constraints)
    (planned : db.plannedEnd request true constraints.avoidVertices = .ok dep)
    (plannedToo : db.plannedEnd request false constraints.avoidVertices = .ok arr) :
    ((exists routes, db.findRoutes request = .ok routes) ↔ exists path, db.Flyable request dep arr path) ∧
      ((forall path, ¬ db.Flyable request dep arr path) ->
        exists error, db.findRoutes request = .error error ∧ error.code = .kNoRoute) := by
  have searches := search_ne_nil_iff_flyable built planned plannedToo
  have none : (db.queryOf request constraints dep arr).forced = .ok [] := by
    have empty : request.forcedPoints.isEmpty = true := List.isEmpty_iff.mpr unforced
    exact if_pos empty
  have answer : db.findRoutes request =
      (db.queryOf request constraints dep arr).findRoutes.mapError RouteRefusal.error := by
    rw [findRoutes, built]
    dsimp only
    rw [planned]
    dsimp only
    rw [plannedToo]
  have paths : (db.queryOf request constraints dep arr).findPathsOf =
      if !constraints.avoidVertices.elems.isEmpty && ((db.queryOf request constraints dep arr).sources.isEmpty ||
          (db.queryOf request constraints dep arr).goals.isEmpty) then .error .allAvoided
      else if ((db.queryOf request constraints dep arr).search []).isEmpty then .error .noRoute
      else .ok ([], (db.queryOf request constraints dep arr).search []) := by
    rw [RouteQuery.findPathsOf, none]
    rfl
  by_cases flies : exists path, db.Flyable request dep arr path
  · rcases flies with ⟨path, flyable⟩
    have walk := walk_of_flyable built planned plannedToo flyable
    have someSource : (db.queryOf request constraints dep arr).sources.isEmpty = false := by
      rcases walk.starts with ⟨source, listed, _⟩
      exact List.isEmpty_eq_false_iff.mpr (List.ne_nil_of_mem listed)
    have someGoal : (db.queryOf request constraints dep arr).goals.isEmpty = false := by
      rw [List.isEmpty_eq_false_iff]
      intro noGoal
      rcases walk.ends with ⟨back, _, isGoal⟩
      have seeded : 0 ≤ buildSeedTable (db.queryOf request constraints dep arr).goals
        db.around.builder.graph.vertexCount back := isGoal
      rw [noGoal] at seeded
      exact absurd seeded (not_le_of_gt db.engine.sentinel_neg)
    have found := List.isEmpty_eq_false_iff.mpr (searches.mpr ⟨path, flyable⟩)
    rw [someSource, someGoal, Bool.or_false, Bool.and_false, if_neg Bool.false_ne_true, found,
      if_neg Bool.false_ne_true] at paths
    refine ⟨iff_of_true ?_ ⟨path, flyable⟩, fun nothing => absurd flyable (nothing path)⟩
    rw [answer, RouteQuery.findRoutes, paths]
    exact ⟨_, rfl⟩
  · have nothing : ((db.queryOf request constraints dep arr).search []).isEmpty = true := by
      rw [List.isEmpty_iff]
      exact not_ne_iff.mp (mt searches.mp flies)
    rw [nothing, if_pos rfl] at paths
    have refused : exists refusal, (db.queryOf request constraints dep arr).findPathsOf = .error refusal ∧
        refusal.error.code = .kNoRoute := by
      rw [paths]
      split_ifs
      · exact ⟨_, rfl, rfl⟩
      · exact ⟨_, rfl, rfl⟩
    rcases refused with ⟨refusal, isRefusal, code⟩
    rw [answer, RouteQuery.findRoutes, isRefusal]
    refine ⟨iff_of_false ?_ flies, fun _ => ⟨_, rfl, code⟩⟩
    rintro ⟨routes, found⟩
    cases found

end Answer

/-! ## A way, and none -/

/-- The way between the two airports is open, until its end is to be avoided. -/
theorem findRoutes_ok_iff_airway :
    (exists path, airwayDatabase.Flyable airwayRequest (procedurePlan [88] 0 .kSid [83])
      (procedurePlan [89] 1 .kStar [84]) path) ∧
    ¬ exists path, airwayDatabase.Flyable { airwayRequest with avoidWaypoints := [[66]] }
      (procedurePlan [88] 0 .kSid [83]) (procedurePlan [89] 1 .kStar [84]) path := by
  have found : (airwayDatabase.findRoutes airwayRequest).toOption.isSome = true := by decide +kernel
  have missed : (airwayDatabase.findRoutes { airwayRequest with avoidWaypoints := [[66]] }).toOption.isSome = false := by
    decide +kernel
  constructor
  · apply (@LoadedDatabase.findRoutes_ok_iff ℚ _ _ _ _ airwayDatabase airwayRequest _ _ _ rfl rfl
      (by decide +kernel) (by decide +kernel)).1.mp
    rcases answered : airwayDatabase.findRoutes airwayRequest with error | routes
    · rw [answered] at found
      cases found
    · exact ⟨routes, rfl⟩
  · apply mt (@LoadedDatabase.findRoutes_ok_iff ℚ _ _ _ _ airwayDatabase
      { airwayRequest with avoidWaypoints := [[66]] } _ _ _ rfl rfl (by decide +kernel) (by decide +kernel)).1.mpr
    rintro ⟨routes, answered⟩
    rw [answered] at missed
    cases missed

end BravoFinder
