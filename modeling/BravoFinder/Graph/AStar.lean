import BravoFinder.Graph.SearchWorkspace
import Mathlib.Algebra.Order.Monoid.Unbundled.WithTop

namespace BravoFinder

/-!
# The multi-source, multi-goal search

The search as the source runs it: seed the sources, then close the vertex with
the least estimate until the open set is empty or no estimate can beat the best
finished total.  Every label lives in the caller's workspace.

The loop is given as much fuel as it can use.  `searchLoop_spec` in
`BravoFinder.Graph.SearchRun` shows that it always stops by itself.
-/

/-- What stays fixed over every search of a query: the trigonometry and the
heap the standard library provides for the open set.  The tables mark an absent
seed by `-1`, which must read as negative. -/
structure Engine (R : Type) [LinearOrder R] [Zero R] [One R] [Neg R] where
  earth : Geodesy R
  openSet : StdHeap (QueueNode R) QueueNode.greater
  sentinel_neg : (-1 : R) < 0

/-- The per-vertex tables of a search: the goal seeds, negative where a vertex
is no goal, and the headings at both ends. -/
structure SearchTables (R : Type) where
  goalSeed : Int -> R
  sourceBearing : Int -> R
  goalBearing : Int -> R

/-- The state of the main loop. -/
structure SearchState (R : Type) where
  ws : SearchWorkspace R
  bestTotal : WithTop R
  bestGoal : Int

section Definitions

variable {R : Type} [LinearOrder R] [NatCast R] [Zero R] [One R] [Neg R] [Add R] [Sub R] [Mul R]
  [Div R]

/-! ## Endpoint tables -/

/-- One endpoint of `BuildSeedTable`: the least seed on a vertex wins. -/
def seedTableStep (n : Int) (seed : Int -> R) (endpoint : SeededEndpoint R) : Int -> R :=
  if endpoint.vertex < 0 ∨ n ≤ endpoint.vertex then seed
  else if seed endpoint.vertex < 0 ∨ endpoint.cost < seed endpoint.vertex then
    Function.update seed endpoint.vertex endpoint.cost
  else seed

/-- Per-vertex seed cost, `-1` where no endpoint lands. -/
def buildSeedTable (endpoints : List (SeededEndpoint R)) (n : Int) : Int -> R :=
  endpoints.foldl (seedTableStep n) (fun _ => -1)

omit [NatCast R] [One R] [Neg R] [Add R] [Sub R] [Mul R] [Div R] in
theorem seedTableStep_of_ne {n : Int} {seed : Int -> R} {endpoint : SeededEndpoint R} {v : Int}
    (other : endpoint.vertex ≠ v) : seedTableStep n seed endpoint v = seed v := by
  unfold seedTableStep
  split
  · rfl
  split
  · exact Function.update_of_ne (Ne.symm other) _ _
  · rfl

omit [NatCast R] [Add R] [Sub R] [Mul R] [Div R] in
/-- Only vertices of the graph have a seed. -/
theorem inRange_of_buildSeedTable {endpoints : List (SeededEndpoint R)} {n v : Int}
    (sentinel : (-1 : R) < 0) (seeded : 0 ≤ buildSeedTable endpoints n v) : 0 ≤ v ∧ v < n := by
  by_contra outside
  have same : buildSeedTable endpoints n v = -1 := by
    unfold buildSeedTable
    refine List.foldlRecOn endpoints (seedTableStep n) (b := fun _ => (-1 : R))
      (motive := fun seed => seed v = -1) rfl ?_
    intro seed holds endpoint _
    by_cases here : endpoint.vertex = v
    · rw [seedTableStep, if_pos (by omega)]
      exact holds
    · rw [seedTableStep_of_ne here]
      exact holds
  rw [same] at seeded
  exact absurd seeded (not_le_of_gt sentinel)

omit [NatCast R] [Add R] [Sub R] [Mul R] [Div R] in
/-- A vertex with a seed is the vertex of a listed endpoint. -/
theorem exists_of_buildSeedTable {endpoints : List (SeededEndpoint R)} {n v : Int}
    (sentinel : (-1 : R) < 0) (seeded : 0 ≤ buildSeedTable endpoints n v) :
    exists endpoint, endpoint ∈ endpoints ∧ endpoint.vertex = v := by
  by_contra unlisted
  have same : buildSeedTable endpoints n v = -1 := by
    unfold buildSeedTable
    refine List.foldlRecOn endpoints (seedTableStep n) (b := fun _ => (-1 : R))
      (motive := fun seed => seed v = -1) rfl ?_
    intro seed holds endpoint listed
    rw [seedTableStep_of_ne fun same => unlisted ⟨endpoint, listed, same⟩]
    exact holds
  rw [same] at seeded
  exact absurd seeded (not_le_of_gt sentinel)

/-- One endpoint of `BuildBearingTable`, which keeps the seeds beside it. -/
def bearingTableStep (n : Int) (tables : (Int -> R) × (Int -> R)) (endpoint : SeededEndpoint R) :
    (Int -> R) × (Int -> R) :=
  if endpoint.vertex < 0 ∨ n ≤ endpoint.vertex then tables
  else if tables.2 endpoint.vertex < 0 ∨ endpoint.cost < tables.2 endpoint.vertex then
    (Function.update tables.1 endpoint.vertex endpoint.bearing,
      Function.update tables.2 endpoint.vertex endpoint.cost)
  else tables

/-- Per-vertex procedure heading: that of the endpoint whose seed won. -/
def buildBearingTable (endpoints : List (SeededEndpoint R)) (n : Int) : Int -> R :=
  (endpoints.foldl (bearingTableStep n) (fun _ => kNoBearing, fun _ => -1)).1

/-! ## The heuristic -/

/-- `MultiGoalHeuristic`: the least chord to a goal fix plus that goal's seed,
infinite when no goal is a vertex.  The source memoizes it per vertex. -/
def multiGoalHeuristic (engine : Engine R) (graph : NavGraph R R)
    (goals : List (SeededEndpoint R)) (vertex : Int) : WithTop R :=
  goals.foldl (fun best goal =>
    if goal.vertex < 0 ∨ graph.vertexCount ≤ goal.vertex then best
    else
      let h : R := engine.earth.chordNm (graph.coordOf vertex) (graph.coordOf goal.vertex) + goal.cost
      if (h : WithTop R) < best then (h : WithTop R) else best) ⊤

end Definitions

/-! ## One search -/

/-- What one search reads: everything but its sources and its workspace. -/
structure SearchSetup (R : Type) [LinearOrder R] [Zero R] [One R] [Neg R] where
  engine : Engine R
  graph : NavGraph R R
  heuristic : Int -> WithTop R
  tables : SearchTables R
  options : SearchOptions R

namespace SearchSetup

variable {R : Type} [LinearOrder R] [NatCast R] [Zero R] [One R] [Neg R] [Add R] [Sub R] [Mul R]
  [Div R] (setup : SearchSetup R)

/-- Record the labels of a vertex and push it on the open set, as a seeded
source and a relaxed edge both do. -/
def relaxAndPush (ws : SearchWorkspace R) (vertex : Int) (g : WithTop R) (geo : R) (prev : Int)
    (inbound : R) : SearchWorkspace R :=
  (ws.relax vertex g geo prev inbound).withHeap
    (setup.engine.openSet.push ws.heap ⟨g + setup.heuristic vertex, vertex⟩)

/-- Seed one source. -/
def seedSource (ws : SearchWorkspace R) (source : SeededEndpoint R) : SearchWorkspace R :=
  if source.vertex < 0 ∨ setup.graph.vertexCount ≤ source.vertex then ws
  else if setup.options.nodeFilter.blocks source.vertex then ws
  else if (source.cost : WithTop R) < ws.gOf source.vertex then
    setup.relaxAndPush ws source.vertex source.cost source.cost kNoVertex
      (setup.tables.sourceBearing source.vertex)
  else ws

/-- The heading of the edge `u -> v`, known only while turns are priced. -/
def outboundBearing (u v : Int) : R :=
  if setup.options.turnPenalty.enabled then
    setup.engine.earth.bearingTo (setup.graph.coordOf u) (setup.graph.coordOf v)
  else kNoBearing

/-- The turn onto the edge `u -> v` when the path arrived at `u` on `inbound`. -/
def turnOnto (inbound : R) (u v : Int) : R :=
  if setup.options.turnPenalty.enabled then
    if 0 ≤ inbound then
      setup.options.turnPenalty.cost (turnAngleDeg inbound (setup.outboundBearing u v))
    else 0
  else 0

/-- The cost of reaching the end of an edge out of `u`, where `extraCost` is
its soft penalties. -/
def tentative (ws : SearchWorkspace R) (u : Int) (inbound : R) (edge : GraphEdge R)
    (extraCost : R) : WithTop R :=
  ws.gOf u + edge.distanceNm + extraCost + setup.turnOnto inbound u edge.toVertex

/-- Relax one edge out of the vertex `u` being closed. -/
def relaxEdge (u : Int) (inbound : R) (ws : SearchWorkspace R) (edge : GraphEdge R) :
    SearchWorkspace R :=
  if ws.closed edge.toVertex then ws
  else if setup.options.nodeFilter.blocks edge.toVertex then ws
  else if setup.options.edgeFilter.blocks u edge.toVertex then ws
  else match edgeAllowed setup.options setup.graph edge u with
    | none => ws
    | some extraCost =>
        if setup.tentative ws u inbound edge extraCost < ws.gOf edge.toVertex then
          setup.relaxAndPush ws edge.toVertex (setup.tentative ws u inbound edge extraCost)
            (ws.geoOf u + edge.distanceNm) u (setup.outboundBearing u edge.toVertex)
        else ws

/-- The heading the path arrived at `u` on, read only while turns are priced. -/
def inboundAt (ws : SearchWorkspace R) (u : Int) : R :=
  if setup.options.turnPenalty.enabled then ws.inboundOf u else kNoBearing

/-- Relax every edge out of `u`. -/
def expand (u : Int) (ws : SearchWorkspace R) : SearchWorkspace R :=
  (setup.graph.edgesFrom u).foldl (setup.relaxEdge u (setup.inboundAt ws u)) ws

/-- The cost of finishing at `u`: its seed and the turn onto the goal's heading. -/
def totalAt (ws : SearchWorkspace R) (u : Int) : WithTop R :=
  let total : WithTop R := ws.gOf u + setup.tables.goalSeed u
  if setup.options.turnPenalty.enabled then
    if 0 ≤ ws.inboundOf u ∧ 0 ≤ setup.tables.goalBearing u then
      total +
        setup.options.turnPenalty.cost (turnAngleDeg (ws.inboundOf u) (setup.tables.goalBearing u))
    else total
  else total

/-- Keep `u` as the best goal when finishing there beats the best total. -/
def finishAt (u : Int) (state : SearchState R) : SearchState R :=
  if 0 ≤ setup.tables.goalSeed u then
    if setup.totalAt state.ws u < state.bestTotal then
      { state with bestTotal := setup.totalAt state.ws u, bestGoal := u }
    else state
  else state

/-- Close the popped vertex. -/
def visit (u : Int) (state : SearchState R) : SearchState R :=
  let finished := setup.finishAt u { state with ws := state.ws.markClosed u }
  { finished with ws := setup.expand u finished.ws }

/-- The main loop. -/
def searchLoop : Nat -> SearchState R -> SearchState R
  | 0, state => state
  | fuel + 1, state =>
      match setup.engine.openSet.pop state.ws.heap with
      | none => state
      | some (top, rest) =>
          let popped := { state with ws := state.ws.withHeap rest }
          if state.ws.closed top.vertex then searchLoop fuel popped
          else if state.bestTotal ≤ top.f then popped
          else searchLoop fuel (setup.visit top.vertex popped)

/-- The state the main loop starts from: a fresh generation with the sources
seeded. -/
def searchInit (sources : List (SeededEndpoint R)) (ws : SearchWorkspace R) : SearchState R where
  ws := sources.foldl setup.seedSource (ws.nextGeneration.withHeap [])
  bestTotal := ⊤
  bestGoal := kNoVertex

/-- An entry can be pushed once for each source and once for each edge. -/
def searchFuel (sources : List (SeededEndpoint R)) : Nat :=
  sources.length +
    (setup.graph.vertices.map fun vertex => (setup.graph.edgesFrom vertex).length).sum

/-- Follow the predecessors from a goal back to its source. -/
def walkBack (ws : SearchWorkspace R) : Nat -> Int -> List Int
  | 0, _ => []
  | fuel + 1, vertex =>
      if vertex = kNoVertex then [] else vertex :: walkBack ws fuel (ws.prevOf vertex)

/-- The result read off the final state.  A path without repeated vertices has
at most `n` of them, so its predecessors are exhausted in `n + 1` steps. -/
def searchResult (state : SearchState R) : ShortestPath R :=
  if state.bestGoal < 0 then .unreachable
  else
    { vertices := (walkBack state.ws (setup.graph.coords.length + 1) state.bestGoal).reverse
      distanceNm := state.ws.geoOf state.bestGoal + setup.tables.goalSeed state.bestGoal
      cost := state.bestTotal.untopD 0
      found := true }

/-- `FindShortestPathMulti` on the caller's tables and workspace. -/
def findShortestPathMulti (sources : List (SeededEndpoint R)) (ws : SearchWorkspace R) :
    ShortestPath R × SearchWorkspace R :=
  if sources.isEmpty then (.unreachable, ws)
  else
    let final := setup.searchLoop (setup.searchFuel sources) (setup.searchInit sources ws)
    (setup.searchResult final, final.ws)

end SearchSetup

section EntryPoint

variable {R : Type} [LinearOrder R] [NatCast R] [Zero R] [One R] [Neg R] [Add R] [Sub R] [Mul R]
  [Div R]

/-- The search between two endpoint lists: their tables and the heuristic of
the goals. -/
def searchSetup (engine : Engine R) (graph : NavGraph R R)
    (sources goals : List (SeededEndpoint R)) (options : SearchOptions R) : SearchSetup R where
  engine := engine
  graph := graph
  heuristic := multiGoalHeuristic engine graph goals
  tables :=
    { goalSeed := buildSeedTable goals graph.vertexCount
      sourceBearing := buildBearingTable sources graph.vertexCount
      goalBearing := buildBearingTable goals graph.vertexCount }
  options := options

/-- `FindShortestPathMulti` on two endpoint lists, with a throwaway workspace. -/
def findShortestPathMulti (engine : Engine R) (graph : NavGraph R R)
    (sources goals : List (SeededEndpoint R)) (options : SearchOptions R) : ShortestPath R :=
  ((searchSetup engine graph sources goals options).findShortestPathMulti sources .empty).1

end EntryPoint
end BravoFinder
