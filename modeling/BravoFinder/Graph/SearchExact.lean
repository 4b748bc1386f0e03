import BravoFinder.Graph.YenExact

namespace BravoFinder

/-!
# One search is exact without turns

`FindShortestPathMulti` on the tables and the workspace its caller owns.  A walk
is what the search may follow: it may repeat vertices, and its cost chooses an
edge for every step.  Without turns the search finds a path exactly when some
walk leads from a source to a goal, and no walk is cheaper than that path.
-/

namespace SearchSetup

variable {R : Type} [Field R] [LinearOrder R] [IsStrictOrderedRing R] (setup : SearchSetup R)

/-- A walk from an unblocked source to a vertex with a goal seed. -/
structure Walk (sources : List (SeededEndpoint R)) (path : List Int) : Prop where
  starts : exists source, source ∈ sources ∧ path.head? = some source.vertex ∧
    setup.graph.InRange source.vertex ∧ setup.options.nodeFilter.blocks source.vertex = false
  ends : exists goal, path.getLast? = some goal ∧ 0 ≤ setup.tables.goalSeed goal
  steps : path.IsChain setup.Step

/-- The cost of a walk under one choice of its source and its edges. -/
def WalkCost (sources : List (SeededEndpoint R)) (path : List Int) (cost : R) : Prop :=
  exists source goal edgesCost, source ∈ sources ∧ path.head? = some source.vertex ∧
    path.getLast? = some goal ∧ StepsCost setup.graph setup.options path edgesCost ∧
    cost = source.cost + edgesCost + setup.tables.goalSeed goal

/-- What a search is to return. -/
structure Optimal (sources : List (SeededEndpoint R)) (result : ShortestPath R) : Prop where
  found_iff : result.found = true ↔ exists path, setup.Walk sources path
  route : result.found = true -> setup.Route sources result.vertices
  achieved : result.found = true -> setup.WalkCost sources result.vertices result.cost
  least : forall path cost, setup.Walk sources path -> setup.WalkCost sources path cost ->
    result.cost ≤ cost

variable {setup} in
omit [IsStrictOrderedRing R] in
/-- A simple path of the search is a walk. -/
theorem Route.walk {sources : List (SeededEndpoint R)} {path : List Int} (route : setup.Route sources path) :
    setup.Walk sources path where
  starts := by
    rcases route.starts with ⟨source, listed, first⟩
    have member := List.mem_of_head? first
    exact ⟨source, listed, first, route.inRange _ member, route.unblocked _ member⟩
  ends := route.ends
  steps := route.steps

variable {setup} in
omit [IsStrictOrderedRing R] in
theorem Walk.nonempty {sources : List (SeededEndpoint R)} {path : List Int} (walk : setup.Walk sources path) :
    path ≠ [] := by
  rcases walk.starts with ⟨source, _, first, _⟩
  rintro rfl
  cases first

variable {setup} in
/-- Every walk can be priced. -/
theorem Walk.exists_cost {sources : List (SeededEndpoint R)} {path : List Int} (walk : setup.Walk sources path) :
    exists cost, setup.WalkCost sources path cost := by
  rcases walk.starts with ⟨source, listed, first, _⟩
  rcases walk.ends with ⟨goal, last, _⟩
  rcases isLeast_edgeCosts walk.nonempty (walk.steps.imp fun _ _ step => ⟨step.banned, step.edge⟩) with
    ⟨edgesCost, _, _, achieved, _⟩
  exact ⟨_, source, goal, edgesCost, listed, first, last, achieved, rfl⟩

variable {setup} in
/-- The search is no dearer than any walk. -/
theorem le_of_walk (consistent : setup.Consistent) (turnOff : setup.options.turnPenalty.enabled = false)
    {sources : List (SeededEndpoint R)} (nonneg : forall source, source ∈ sources -> 0 ≤ source.cost)
    {ws : SearchWorkspace R} (stamped : ws.Stamped) {path : List Int} {cost : R}
    (walk : setup.Walk sources path) (walkCost : setup.WalkCost sources path cost) :
    (setup.findShortestPathMulti sources ws).1.found = true ∧
      (setup.findShortestPathMulti sources ws).1.cost ≤ cost := by
  rcases walk.starts with ⟨unblockedSource, _, unblockedFirst, inRange, unblocked⟩
  rcases walk.ends with ⟨goal, last, isGoal⟩
  rcases walkCost with ⟨source, back, edgesCost, listed, first, backLast, steps, rfl⟩
  have sameSource : unblockedSource.vertex = source.vertex :=
    Option.some.inj (unblockedFirst.symm.trans first)
  have sameGoal : goal = back := Option.some.inj (last.symm.trans backLast)
  subst sameGoal
  rw [sameSource] at inRange unblocked
  rcases setup.reaches_of_steps turnOff steps walk.steps first last (.source listed inRange unblocked) with
    ⟨arrival, reaches⟩
  have bound := setup.findShortestPathMulti_le consistent nonneg stamped reaches isGoal
    (.of_turnOff turnOff _ _ _ _ _)
  rw [setup.turnCharge_turnOff turnOff, add_zero] at bound
  exact bound

/-- The path of a search costs what the search reports. -/
theorem walkCost_of_found (turnOff : setup.options.turnPenalty.enabled = false)
    {sources : List (SeededEndpoint R)} (nonneg : forall source, source ∈ sources -> 0 ≤ source.cost)
    {ws : SearchWorkspace R} (stamped : ws.Stamped)
    (found : (setup.findShortestPathMulti sources ws).1.found = true) :
    setup.WalkCost sources (setup.findShortestPathMulti sources ws).1.vertices
      (setup.findShortestPathMulti sources ws).1.cost := by
  have route := setup.isRoute_of_found sources stamped found
  have priced := setup.costOfPathMulti_of_found nonneg stamped found
  rcases route.starts with ⟨source, listed, first⟩
  rcases route.ends with ⟨goal, last, isGoal⟩
  have inRange : 0 ≤ source.vertex ∧ source.vertex < setup.graph.vertexCount :=
    route.inRange _ (List.mem_of_head? first)
  rcases (leastSeed_buildSeedTable setup.engine.sentinel_neg nonneg inRange).resolve_left
    fun unlisted => unlisted.2 source listed rfl with
    ⟨⟨cheapest, cheapestListed, sameVertex, cheapestCost⟩, known, _⟩
  rcases isLeast_costOfPathMulti setup.engine.earth setup.graph setup.options turnOff first last
    route.unblocked (route.steps.imp fun _ _ step => ⟨step.banned, step.edge⟩)
    (buildSeedTable sources setup.graph.vertexCount) setup.tables.goalSeed setup.tables.sourceBearing
    setup.tables.goalBearing ⟨known, isGoal⟩ with ⟨edgesCost, distance, pricedSame, achieved, _⟩
  have total := (Prod.mk.inj (Option.some.inj (priced.symm.trans pricedSame))).1
  exact ⟨cheapest, goal, edgesCost, cheapestListed, sameVertex.symm ▸ first, last, achieved,
    by rw [total, cheapestCost]⟩

/-- Without turns `FindShortestPathMulti` is optimal for a consistent heuristic,
whatever its caller's goal table, bans and workspace hold. -/
theorem findShortestPathMulti_optimal (consistent : setup.Consistent)
    (turnOff : setup.options.turnPenalty.enabled = false) (sources : List (SeededEndpoint R))
    (nonneg : forall source, source ∈ sources -> 0 ≤ source.cost) (ws : SearchWorkspace R)
    (stamped : ws.Stamped) :
    setup.Optimal sources (setup.findShortestPathMulti sources ws).1 where
  found_iff := by
    constructor
    · intro found
      exact ⟨_, (setup.isRoute_of_found sources stamped found).walk⟩
    · rintro ⟨path, walk⟩
      rcases walk.exists_cost with ⟨cost, walkCost⟩
      exact (le_of_walk consistent turnOff nonneg stamped walk walkCost).1
  route := setup.isRoute_of_found sources stamped
  achieved := setup.walkCost_of_found turnOff nonneg stamped
  least _ _ walk walkCost := (le_of_walk consistent turnOff nonneg stamped walk walkCost).2

theorem findShortestPathMulti_optimal_line :
    ((searchSetup lineEngine lineGraph [lineEndpoint 0, lineEndpoint 2] [lineEndpoint 3]
      (lineOptions false)).findShortestPathMulti [lineEndpoint 0, lineEndpoint 2] .empty).1.cost = 240 ∧
    (searchSetup lineEngine lineGraph [lineEndpoint 0, lineEndpoint 2] [lineEndpoint 3]
      (lineOptions false)).Optimal [lineEndpoint 0, lineEndpoint 2]
      ((searchSetup lineEngine lineGraph [lineEndpoint 0, lineEndpoint 2] [lineEndpoint 3]
        (lineOptions false)).findShortestPathMulti [lineEndpoint 0, lineEndpoint 2] .empty).1 :=
  ⟨by decide +kernel,
    findShortestPathMulti_optimal _ (exactQuery_line.ordered.consistent _) rfl _ (by decide) _
      SearchWorkspace.stamped_empty⟩

end SearchSetup
end BravoFinder
