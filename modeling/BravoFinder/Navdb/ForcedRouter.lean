import BravoFinder.Graph.YenKShortest
import Mathlib.Data.List.Sort

namespace BravoFinder

/-!
# Routing through forced points

A route through forced vertices is searched hop by hop, and the best end-to-end
combinations of the hops' candidates are enumerated best first.  A pick is one
candidate index for each hop.  Its bound is the sum of the hop costs, which
leaves out the turns at the forced fixes, so a stitched route waits until no
unexplored pick can undercut it.
-/

section Stitch

variable {R : Type} [LinearOrder R] [NatCast R] [Zero R] [One R] [Neg R] [Add R] [Sub R] [Mul R]
  [Div R]

/-- How many picks are stitched before the best routes found so far are
settled for. -/
def kMaxStitchedPicks : Nat := 4096

/-- Append a hop path that starts where the route so far ends. -/
def stitchStep (path part : List Int) : Option (List Int) :=
  if part.isEmpty then none
  else if path.isEmpty then some part
  else if path.getLast? ≠ part.head? then none
  else some (path ++ part.tail)

/-- `StitchAndCost`: the route the hop paths make, priced as a whole, unless it
repeats a vertex or cannot be priced. -/
def stitchAndCost (earth : Geodesy R) (graph : NavGraph R R) (parts : List (List Int))
    (sourceSeed goalSeed sourceBearing goalBearing : Int -> R) (options : SearchOptions R) :
    ShortestPath R :=
  match parts.foldlM stitchStep [] with
  | none => .unreachable
  | some path =>
      if path.Nodup then
        match costOfPathMulti earth graph path sourceSeed goalSeed sourceBearing goalBearing options with
        | none => .unreachable
        | some (cost, distance) => ⟨path, distance, cost, true⟩
      else .unreachable

end Stitch

/-! ## Picks -/

/-- One candidate index for each hop.  Its successors advance only hops from
`last` on, so every pick has one parent. -/
structure PickItem (R : Type) where
  lower : R
  pick : List Nat
  last : Nat
deriving DecidableEq

/-- `pick_after`. -/
def PickItem.after {R : Type} [LinearOrder R] (first second : PickItem R) : Prop :=
  second.lower < first.lower

/-- `route_after`: by cost, then by the vertices. -/
def ShortestPath.after {R : Type} [LinearOrder R] (first second : ShortestPath R) : Prop :=
  if first.cost ≠ second.cost then second.cost < first.cost else second.vertices < first.vertices

theorem ShortestPath.cost_le_of_not_after {R : Type} [LinearOrder R] {first second : ShortestPath R}
    (notAfter : ¬ first.after second) : first.cost ≤ second.cost := by
  unfold after at notAfter
  split at notAfter
  · exact le_of_not_gt notAfter
  · rename_i same
    exact (not_not.mp same).le

/-- The heaps the standard library provides for the enumeration. -/
structure PickHeaps (R : Type) [LinearOrder R] where
  frontier : StdHeap (PickItem R) PickItem.after
  ready : StdHeap (ShortestPath R) ShortestPath.after

/-- The state of the enumeration. -/
structure PickState (R : Type) where
  results : List (ShortestPath R)
  ready : List (ShortestPath R)
  frontier : List (PickItem R)
  explored : Nat

/-- What one enumeration reads. -/
structure PickProblem (R : Type) [LinearOrder R] where
  heaps : PickHeaps R
  segments : List (List (ShortestPath R))
  stitchParts : List (List Int) -> ShortestPath R
  k : Int

namespace PickProblem

variable {R : Type} [LinearOrder R] [Zero R] [Add R] (problem : PickProblem R)

/-- The candidates a pick chooses. -/
def picked (pick : List Nat) : List (ShortestPath R) :=
  List.zipWith (fun segment index => segment.getD index .unreachable) problem.segments pick

/-- Stitch one pick. -/
def stitch (pick : List Nat) : ShortestPath R :=
  problem.stitchParts ((problem.picked pick).map ShortestPath.vertices)

/-- The sum of the picked hop costs. -/
def lowerOf (pick : List Nat) : R :=
  (problem.picked pick).foldl (fun sum path => sum + path.cost) 0

/-- The first pick: the cheapest candidate of every hop. -/
def rootItem : PickItem R :=
  let root := List.replicate problem.segments.length 0
  ⟨problem.lowerOf root, root, 0⟩

/-- Advance a pick at one hop, when that hop has another candidate. -/
def advance (item : PickItem R) (h : Nat) : Option (PickItem R) :=
  if item.pick.getD h 0 + 1 < (problem.segments.getD h []).length then
    let next := item.pick.set h (item.pick.getD h 0 + 1)
    some ⟨problem.lowerOf next, next, h⟩
  else none

/-- The picks one advance away, from hop `last` on. -/
def successors (item : PickItem R) : List (PickItem R) :=
  (List.range' item.last (problem.segments.length - item.last)).filterMap (problem.advance item)

/-- Whether the budget and the frontier allow another pick. -/
def canExplore (state : PickState R) : Bool :=
  !state.frontier.isEmpty && decide (state.explored < kMaxStitchedPicks)

/-- Whether the cheapest waiting route is emitted next. -/
def emits (state : PickState R) : Bool :=
  match problem.heaps.ready.front state.ready with
  | none => false
  | some route =>
      !canExplore state ||
        match problem.heaps.frontier.front state.frontier with
        | none => true
        | some item => decide (route.cost ≤ item.lower)

def emitRoute (state : PickState R) : PickState R :=
  match problem.heaps.ready.pop state.ready with
  | none => state
  | some (route, rest) => { state with results := state.results ++ [route], ready := rest }

def explorePick (state : PickState R) : PickState R :=
  match problem.heaps.frontier.pop state.frontier with
  | none => state
  | some (item, rest) =>
      let stitched := problem.stitch item.pick
      { state with
        explored := state.explored + 1
        ready := if stitched.found then problem.heaps.ready.push state.ready stitched else state.ready
        frontier := (problem.successors item).foldl problem.heaps.frontier.push rest }

/-- The loop.  Every round emits a route or spends budget. -/
def pickLoop : Nat -> PickState R -> PickState R
  | 0, state => state
  | fuel + 1, state =>
      if (state.results.length : Int) < problem.k then
        if problem.emits state then pickLoop fuel (problem.emitRoute state)
        else if canExplore state then pickLoop fuel (problem.explorePick state)
        else state
      else state

/-- The enumeration from the first pick, alone on the frontier. -/
def enumerate : PickState R :=
  problem.pickLoop (problem.k.toNat + kMaxStitchedPicks) ⟨[], [], [problem.rootItem], 0⟩

end PickProblem

/-! ## The router -/

section Router

variable {R : Type} [LinearOrder R] [NatCast R] [Zero R] [One R] [Neg R] [Add R] [Sub R] [Mul R]
  [Div R]

/-- The sources of a hop: the caller's, or the forced vertex behind it. -/
def hopSources (sources : List (SeededEndpoint R)) (forced : List Int) (bearing : R) (h : Nat) :
    List (SeededEndpoint R) :=
  if h = 0 then sources else [⟨forced.getD (h - 1) kNoVertex, 0, bearing⟩]

/-- The goals of a hop: the forced vertex ahead, or the caller's. -/
def hopGoals (goals : List (SeededEndpoint R)) (forced : List Int) (h : Nat) :
    List (SeededEndpoint R) :=
  if h + 1 = forced.length + 1 then goals else [⟨forced.getD h kNoVertex, 0, kNoBearing⟩]

/-- The candidates of a hop in ascending order, or `none` when it is unroutable. -/
def hopSegment (engine : Engine R) (graph : NavGraph R R) (sources goals : List (SeededEndpoint R))
    (forced : List Int) (k : Int) (options : SearchOptions R) (h : Nat) :
    Option (List (ShortestPath R)) :=
  let candidates := findKShortestPathsMulti engine graph (hopSources sources forced kNoBearing h)
    (hopGoals goals forced h) k options
  if candidates.isEmpty then none
  else some (candidates.insertionSort fun first second => first.cost ≤ second.cost)

/-- The candidate lists of all hops. -/
def hopSegments (engine : Engine R) (graph : NavGraph R R) (sources goals : List (SeededEndpoint R))
    (forced : List Int) (k : Int) (options : SearchOptions R) : Option (List (List (ShortestPath R))) :=
  (List.range (forced.length + 1)).mapM (hopSegment engine graph sources goals forced k options)

/-- `StitchAndCost` between the caller's endpoints. -/
def stitchRoute (engine : Engine R) (graph : NavGraph R R) (sources goals : List (SeededEndpoint R))
    (options : SearchOptions R) (parts : List (List Int)) : ShortestPath R :=
  stitchAndCost engine.earth graph parts (buildSeedTable sources graph.vertexCount)
    (buildSeedTable goals graph.vertexCount) (buildBearingTable sources graph.vertexCount)
    (buildBearingTable goals graph.vertexCount) options

/-- The heading on which a partial route arrives. -/
def arrivalAt (engine : Engine R) (graph : NavGraph R R) (path : List Int) : R :=
  if 2 ≤ path.length then
    engine.earth.bearingTo (graph.coordOf (path.getD (path.length - 2) kNoVertex))
      (graph.coordOf (path.getD (path.length - 1) kNoVertex))
  else kNoBearing

/-- The options of a hop of the fallback: barred from the vertices already used
and from the forced fixes still ahead. -/
def greedyOptions (forced : List Int) (options : SearchOptions R) (path : List Int) (h : Nat) :
    SearchOptions R :=
  let caller := match options.nodeFilter.banned with
    | none => []
    | some banned => banned.elems
  { options with
    nodeFilter := { options.nodeFilter with
      banned := some (SortedVector.ofList (path.dropLast ++ forced.drop (h + 1) ++ caller)) } }

/-- One hop of the fallback. -/
def greedyHop (engine : Engine R) (graph : NavGraph R R) (sources goals : List (SeededEndpoint R))
    (forced : List Int) (options : SearchOptions R) (path : List Int) (h : Nat) : Option (List Int) :=
  let hop := findShortestPathMulti engine graph
    (hopSources sources forced (arrivalAt engine graph path) h) (hopGoals goals forced h)
    (greedyOptions forced options path h)
  if !hop.found || hop.vertices.isEmpty then none
  else some (path ++ if path.isEmpty then hop.vertices else hop.vertices.tail)

/-- The picks of one call. -/
def pickProblem (engine : Engine R) (heaps : PickHeaps R) (graph : NavGraph R R)
    (sources goals : List (SeededEndpoint R)) (k : Int) (options : SearchOptions R)
    (segments : List (List (ShortestPath R))) : PickProblem R where
  heaps := heaps
  segments := segments
  stitchParts := stitchRoute engine graph sources goals options
  k := k

/-- `ForcedRouter::FindPaths`. -/
def findPaths (engine : Engine R) (heaps : PickHeaps R) (graph : NavGraph R R)
    (sources goals : List (SeededEndpoint R)) (forced : List Int) (k : Int)
    (options : SearchOptions R) : List (ShortestPath R) :=
  if k ≤ 0 ∨ forced.isEmpty then []
  else match hopSegments engine graph sources goals forced k options with
    | none => []
    | some segments =>
        let results :=
          (pickProblem engine heaps graph sources goals k options segments).enumerate.results
        if !results.isEmpty then results
        else match (List.range (forced.length + 1)).foldlM
            (greedyHop engine graph sources goals forced options) [] with
          | none => []
          | some path =>
              let greedy := stitchRoute engine graph sources goals options [path]
              if greedy.found then [greedy] else []

end Router
end BravoFinder
