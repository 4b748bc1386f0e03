import BravoFinder.Graph.CostOfPath
import BravoFinder.Library.StdSet
import Mathlib.Data.Prod.Lex
import Mathlib.Data.List.Lex

namespace BravoFinder

/-!
# The K-shortest search

Yen's algorithm with Lawler's start index, over a conceptual super-source and
super-sink.  The model threads everything the source reuses between spurs: the
workspace, the one live entry of the spur's source headings and the goal table
that loses its spur entry for the length of one search.

`start` maps the deviation index of the path accepted last to the index its
spurs start from.  The source uses the index itself; a constant `-1` gives the
algorithm without Lawler's pruning.
-/

/-- A candidate of the B set.  `deviation` is the spur index at which it left
its parent. -/
structure Candidate (R : Type) where
  cost : R
  distance : R
  vertices : List Int
  deviation : Int

section Definitions

variable {R : Type} [LinearOrder R] [NatCast R] [Zero R] [One R] [Neg R] [Add R] [Sub R] [Mul R]
  [Div R]

/-- `operator<`: by cost, then by the vertices. -/
def Candidate.less (first second : Candidate R) : Bool :=
  if first.cost ≠ second.cost then decide (first.cost < second.cost)
  else decide (first.vertices < second.vertices)

def Candidate.key (candidate : Candidate R) : R ×ₗ List Int :=
  toLex (candidate.cost, candidate.vertices)

omit [NatCast R] [Zero R] [One R] [Neg R] [Add R] [Sub R] [Mul R] [Div R] in
/-- The order of the set is that of the keys. -/
theorem Candidate.less_iff_key_lt (first second : Candidate R) :
    first.less second = true ↔ first.key < second.key := by
  rw [Candidate.key, Candidate.key, Prod.Lex.toLex_lt_toLex, Candidate.less]
  by_cases same : first.cost = second.cost
  · simp only [same, ne_eq, not_true_eq_false, if_false, decide_eq_true_eq, lt_irrefl, true_and,
      false_or]
  · simp only [same, ne_eq, not_false_eq_true, if_true, decide_eq_true_eq, false_and, or_false]

/-- `MergeBanned`: the caller's bans with those of one spur. -/
def mergeBanned (caller : Option (SortedVector Int)) (yen : List Int) : SortedVector Int :=
  match caller with
  | none => SortedVector.ofList yen
  | some caller => SortedVector.ofList (caller.elems ++ yen)

/-- What stays fixed over one call: the search between the two endpoint lists,
the sources with their seeds, and how many vertices are goals. -/
structure KShortest (R : Type) [LinearOrder R] [Zero R] [One R] [Neg R] where
  base : SearchSetup R
  sources : List (SeededEndpoint R)
  sourceSeed : Int -> R
  goalCount : Nat

/-- What changes from spur to spur. -/
structure YenState (R : Type) [LinearOrder R] where
  result : List (ShortestPath R)
  candidates : StdSet (Candidate R) Candidate.key
  lastDeviation : Int
  ws : SearchWorkspace R
  spurSourceBearing : Int -> R
  spurBearingVertex : Int
  spurGoalSeed : Int -> R

end Definitions

namespace KShortest

variable {R : Type} [LinearOrder R] [NatCast R] [Zero R] [One R] [Neg R] [Add R] [Sub R] [Mul R]
  [Div R] (problem : KShortest R)

/-- Stitch a spur onto its root, whose last vertex is the spur's first. -/
def stitch (root spurTail : List Int) : List Int :=
  root.dropLast ++ spurTail

/-- `CostOfPathMulti` under the caller's options. -/
def pathCost (path : List Int) : Option (R × R) :=
  costOfPathMulti problem.base.engine.earth problem.base.graph path problem.sourceSeed
    problem.base.tables.goalSeed problem.base.tables.sourceBearing problem.base.tables.goalBearing
    problem.base.options

/-- `add_candidate`. -/
def addCandidate (root : List Int) (spurTail : ShortestPath R) (deviation : Int)
    (candidates : StdSet (Candidate R) Candidate.key) : StdSet (Candidate R) Candidate.key :=
  if !spurTail.found || spurTail.vertices.isEmpty then candidates
  else match problem.pathCost (stitch root spurTail.vertices) with
    | none => candidates
    | some (cost, distance) =>
        candidates.insert ⟨cost, distance, stitch root spurTail.vertices, deviation⟩

/-! ## The two kinds of spur -/

/-- The sources that start no accepted path. -/
def spurSources (result : List (ShortestPath R)) : List (SeededEndpoint R) :=
  let bannedSources := result.filterMap fun path => path.vertices.head?
  problem.sources.filter fun source => decide (source.vertex ∉ bannedSources)

/-- The spur at the super-source, which chooses another starting fix. -/
def sourceSpur (state : YenState R) : YenState R :=
  let sources := problem.spurSources state.result
  if sources.isEmpty then state
  else
    let (spur, ws) := problem.base.findShortestPathMulti sources state.ws
    { state with ws := ws, candidates := problem.addCandidate [] spur (-1) state.candidates }

/-- An accepted path is the root itself. -/
def endsAtSpur (root : List Int) (result : List (ShortestPath R)) : Bool :=
  result.any fun path => decide (root <+: path.vertices) && path.vertices.length == root.length

/-- The edges accepted paths take out of the spur node at index `i`. -/
def yenBannedEdges (root : List Int) (i : Nat) (result : List (ShortestPath R)) : List Int :=
  result.filterMap fun path =>
    if root <+: path.vertices ∧ path.vertices.length ≠ root.length then
      some (edgeKey (path.vertices.getD i kNoVertex) (path.vertices.getD (i + 1) kNoVertex))
    else none

/-- The options of a spur search: the caller's, with the root and the taken
edges banned. -/
def spurOptions (root : List Int) (bannedEdges : List Int) : SearchOptions R :=
  { problem.base.options with
    nodeFilter := { problem.base.options.nodeFilter with
      banned := some (mergeBanned problem.base.options.nodeFilter.banned root.dropLast) }
    edgeFilter := ⟨some (mergeBanned problem.base.options.edgeFilter.banned bannedEdges)⟩ }

/-- The heading on which the accepted root arrives at the spur node. -/
def inboundAtSpur (prevPath : List Int) (i : Nat) : R :=
  let spurNode := prevPath.getD i kNoVertex
  if i = 0 then problem.base.tables.sourceBearing spurNode
  else
    problem.base.engine.earth.bearingTo
      (problem.base.graph.coordOf (prevPath.getD (i - 1) kNoVertex))
      (problem.base.graph.coordOf spurNode)

/-- One spur search, from the spur node under its tables and options. -/
def spurSetup (goalSeed sourceBearing : Int -> R) (options : SearchOptions R) : SearchSetup R :=
  { problem.base with
    tables := { problem.base.tables with goalSeed := goalSeed, sourceBearing := sourceBearing }
    options := options }

/-- The spur at the node with index `i`. -/
def nodeSpur (prevPath : List Int) (i : Nat) (state : YenState R) : YenState R :=
  let spurNode := prevPath.getD i kNoVertex
  let root := prevPath.take (i + 1)
  let ends := endsAtSpur root state.result
  if ends ∧ 0 ≤ problem.base.tables.goalSeed spurNode ∧ problem.goalCount < 2 then state
  else
    let options := problem.spurOptions root (yenBannedEdges root i state.result)
    let cleared :=
      if 0 ≤ state.spurBearingVertex then
        Function.update state.spurSourceBearing state.spurBearingVertex kNoBearing
      else state.spurSourceBearing
    let sourceBearing := Function.update cleared spurNode (problem.inboundAtSpur prevPath i)
    let goalSeed :=
      if ends then Function.update state.spurGoalSeed spurNode (-1) else state.spurGoalSeed
    let (spur, ws) := (problem.spurSetup goalSeed sourceBearing options).findShortestPathMulti
      [⟨spurNode, 0, kNoBearing⟩] state.ws
    { state with
      ws := ws
      candidates := problem.addCandidate root spur i state.candidates
      spurSourceBearing := sourceBearing
      spurBearingVertex := spurNode
      spurGoalSeed := Function.update goalSeed spurNode (problem.base.tables.goalSeed spurNode) }

/-! ## The rounds -/

/-- The spur at index `i`; a negative index is the super-source. -/
def spurAt (prevPath : List Int) (state : YenState R) (i : Int) : YenState R :=
  if i < 0 then problem.sourceSpur state else problem.nodeSpur prevPath i.toNat state

/-- The indices of the spur loop. -/
def spurIndices (first : Int) (size : Nat) : List Int :=
  (List.range (size - first).toNat).map fun (offset : Nat) => first + (offset : Int)

/-- The path accepted last. -/
def prevPath (state : YenState R) : List Int :=
  (state.result.getLast?.map ShortestPath.vertices).getD []

/-- One round: spur, then accept the least candidate.  `none` when there is no
candidate. -/
def round (start : Int -> Int) (state : YenState R) : Option (YenState R) :=
  let prev := prevPath state
  let spurred := (spurIndices (start state.lastDeviation) prev.length).foldl (problem.spurAt prev) state
  match spurred.candidates.popBegin with
  | none => none
  | some (best, rest) =>
      some
        { spurred with
          result := spurred.result ++ [⟨best.vertices, best.distance, best.cost, true⟩]
          candidates := rest
          lastDeviation := best.deviation }

/-- The loop over `kth`. -/
def rounds (start : Int -> Int) : Nat -> YenState R -> YenState R
  | 0, state => state
  | count + 1, state =>
      match problem.round start state with
      | none => state
      | some following => rounds start count following

/-- The state after the first path is accepted. -/
def initial (first : ShortestPath R) (ws : SearchWorkspace R) : YenState R where
  result := [first]
  candidates := .empty
  lastDeviation := -1
  ws := ws
  spurSourceBearing _ := kNoBearing
  spurBearingVertex := kNoVertex
  spurGoalSeed := problem.base.tables.goalSeed

end KShortest

section EntryPoint

variable {R : Type} [LinearOrder R] [NatCast R] [Zero R] [One R] [Neg R] [Add R] [Sub R] [Mul R]
  [Div R]

/-- The tables of one call. -/
def kShortest (engine : Engine R) (graph : NavGraph R R) (sources goals : List (SeededEndpoint R))
    (options : SearchOptions R) : KShortest R where
  base := searchSetup engine graph sources goals options
  sources := sources
  sourceSeed := buildSeedTable sources graph.vertexCount
  goalCount := graph.vertices.countP fun vertex =>
    decide (0 ≤ buildSeedTable goals graph.vertexCount vertex)

/-- The K-shortest search whose spurs start where `start` says. -/
def findKShortestPathsFrom (start : Int -> Int) (engine : Engine R) (graph : NavGraph R R)
    (sources goals : List (SeededEndpoint R)) (k : Int) (options : SearchOptions R) :
    List (ShortestPath R) :=
  if k ≤ 0 ∨ sources.isEmpty ∨ goals.isEmpty then []
  else
    let problem := kShortest engine graph sources goals options
    let (first, ws) := problem.base.findShortestPathMulti sources .empty
    if !first.found then []
    else (problem.rounds start (k - 1).toNat (problem.initial first ws)).result

/-- `FindKShortestPathsMulti`. -/
def findKShortestPathsMulti (engine : Engine R) (graph : NavGraph R R)
    (sources goals : List (SeededEndpoint R)) (k : Int) (options : SearchOptions R) :
    List (ShortestPath R) :=
  findKShortestPathsFrom id engine graph sources goals k options

/-- The same algorithm with `last_deviation` fixed at `-1`: every round spurs at
the super-source and at every index of the previous path. -/
def findKShortestPathsNaive (engine : Engine R) (graph : NavGraph R R)
    (sources goals : List (SeededEndpoint R)) (k : Int) (options : SearchOptions R) :
    List (ShortestPath R) :=
  findKShortestPathsFrom (fun _ => -1) engine graph sources goals k options

end EntryPoint
end BravoFinder
