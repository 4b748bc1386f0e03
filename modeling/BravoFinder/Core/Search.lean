import BravoFinder.Core.RouteRequest
import BravoFinder.Library.SortedVector

namespace BravoFinder

/-!
# What shapes a search: constraints, bans and the turn penalty

The search never looks inside a constraint.  It evaluates the chain on an edge,
drops the edge when one constraint blocks it, and adds the soft penalties to
the edge's length.  `SelectEdge` repeats that evaluation over the parallel
edges between two vertices, so a finished path can be priced and labelled by
the edge the search used.
-/

section Verdict

/-- The verdict of one constraint on one edge. -/
structure EdgeVerdict (R : Type) where
  allowed : Bool
  extraCost : R

variable {R : Type}

def EdgeVerdict.allow [Zero R] : EdgeVerdict R := ⟨true, 0⟩
def EdgeVerdict.block [Zero R] : EdgeVerdict R := ⟨false, 0⟩
def EdgeVerdict.penalize (cost : R) : EdgeVerdict R := ⟨true, cost⟩

/-- What a constraint sees of an edge.  `source` is the vertex it leaves. -/
structure EdgeContext (R : Type) where
  edge : GraphEdge R
  fromCoord : Coordinate R
  toCoord : Coordinate R
  source : Int

/-- A stateless routing constraint. -/
abbrev Constraint (R : Type) := EdgeContext R -> RouteRequest R -> EdgeVerdict R

end Verdict

/-! ## Node and edge bans -/

/-- Pack a directed edge into one 64-bit key: the source in the high half, the
low 32 bits of the target below it. -/
def edgeKey (source target : Int) : Int :=
  source * 2 ^ 32 + target % 2 ^ 32

/-- On vertex indices, which fit an `int32`, the key determines the edge. -/
theorem edgeKey_inj {source target source' target' : Int}
    (targetNonneg : 0 ≤ target) (targetBound : target < 2 ^ 31)
    (targetNonneg' : 0 ≤ target') (targetBound' : target' < 2 ^ 31) :
    edgeKey source target = edgeKey source' target' ↔ source = source' ∧ target = target' := by
  unfold edgeKey
  omega

/-- The airport range and the banned vertices a search may not enter. -/
structure NodeFilter where
  airportFirst : Int
  airportLast : Int
  banned : Option (SortedVector Int)

/-- A filter that blocks nothing. -/
def NodeFilter.none : NodeFilter := ⟨kNoVertex, kNoVertex, Option.none⟩

def NodeFilter.blocks (filter : NodeFilter) (vertex : Int) : Bool :=
  if 0 ≤ filter.airportFirst ∧ filter.airportFirst ≤ vertex ∧ vertex < filter.airportLast then true
  else match filter.banned with
    | Option.none => false
    | some banned => banned.binarySearch vertex

/-- The banned directed edges, by key. -/
structure EdgeFilter where
  banned : Option (SortedVector Int)

/-- A filter that blocks nothing. -/
def EdgeFilter.none : EdgeFilter := ⟨Option.none⟩

def EdgeFilter.blocks (filter : EdgeFilter) (source target : Int) : Bool :=
  match filter.banned with
  | Option.none => false
  | some banned => banned.binarySearch (edgeKey source target)

/-! ## The turn penalty -/

section Turn

variable {R : Type} [LinearOrder R] [NatCast R] [Zero R] [Add R] [Sub R] [Mul R] [Div R]

/-- The angle between two headings, normalized to `[0, 180]`. -/
def turnAngleDeg (inboundDeg outboundDeg : R) : R :=
  let delta := if inboundDeg < outboundDeg then outboundDeg - inboundDeg else inboundDeg - outboundDeg
  if delta > Nat.cast 180 then Nat.cast 360 - delta else delta

/-- Whether sharp turns are priced. -/
structure TurnPenalty where
  enabled : Bool

def kThresholdDeg : R := Nat.cast 45
def kKneeDeg : R := Nat.cast 90
def kPenaltyAtKneeNm : R := Nat.cast 20
def kMaxPenaltyNm : R := Nat.cast 200

/-- The penalty of a turn: zero up to the threshold, linear to the knee,
quadratic to the maximum at a full reversal. -/
def TurnPenalty.cost (turn : TurnPenalty) (angleDeg : R) : R :=
  if !turn.enabled || angleDeg ≤ kThresholdDeg then 0
  else if angleDeg ≤ kKneeDeg then
    kPenaltyAtKneeNm * (angleDeg - kThresholdDeg) / (kKneeDeg - kThresholdDeg)
  else if angleDeg ≥ Nat.cast 180 then kMaxPenaltyNm
  else
    let t := (angleDeg - kKneeDeg) / (Nat.cast 180 - kKneeDeg)
    kPenaltyAtKneeNm + (kMaxPenaltyNm - kPenaltyAtKneeNm) * t * t

end Turn

/-! ## Search options -/

/-- The optional inputs of a search. -/
structure SearchOptions (R : Type) where
  constraints : List (Constraint R)
  request : Option (RouteRequest R)
  turnPenalty : TurnPenalty
  nodeFilter : NodeFilter
  edgeFilter : EdgeFilter

/-- A vertex with a starting or ending cost, by which a procedure attaches to
the network.  `bearing` is the procedure's heading at the fix, or negative. -/
structure SeededEndpoint (R : Type) where
  vertex : Int
  cost : R
  bearing : R
deriving DecidableEq

/-- The outcome of a search. -/
structure ShortestPath (R : Type) where
  vertices : List Int
  distanceNm : R
  cost : R
  found : Bool
deriving DecidableEq

/-- The path of a search that reached no goal. -/
def ShortestPath.unreachable {R : Type} [Zero R] : ShortestPath R := ⟨[], 0, 0, false⟩

section Edge

variable {R : Type} [LinearOrder R] [Zero R] [Add R]

/-- The constraint loop of `EdgeAllowed`, accumulating the penalties. -/
def evaluateChain (context : EdgeContext R) (request : RouteRequest R) :
    List (Constraint R) -> R -> Option R
  | [], extra => some extra
  | constraint :: rest, extra =>
      let verdict := constraint context request
      if verdict.allowed then evaluateChain context request rest (extra + verdict.extraCost)
      else none

/-- Evaluate every constraint on an edge: `none` when one of them blocks it,
else the sum of the soft penalties.  Constraints without a request refuse the
edge rather than being skipped. -/
def edgeAllowed (options : SearchOptions R) (graph : NavGraph R R) (edge : GraphEdge R)
    (source : Int) : Option R :=
  if options.constraints.isEmpty then some 0
  else match options.request with
    | none => none
    | some request =>
        evaluateChain ⟨edge, graph.coordOf source, graph.coordOf edge.toVertex, source⟩ request
          options.constraints 0

/-- One parallel edge of `SelectEdge`: keep the cheaper of the best so far and
this one, the earlier on a tie. -/
def selectEdgeStep (options : SearchOptions R) (graph : NavGraph R R) (source target : Int)
    (best : Option (GraphEdge R × R)) (edge : GraphEdge R) : Option (GraphEdge R × R) :=
  if edge.toVertex ≠ target then best
  else match edgeAllowed options graph edge source with
    | none => best
    | some extraCost =>
        let total := edge.distanceNm + extraCost
        match best with
        | none => some (edge, total)
        | some (_, bestCost) => if total < bestCost then some (edge, total) else best

/-- The cheapest allowed edge from `source` to `target` with its effective
cost, or `none` when there is none. -/
def selectEdge (options : SearchOptions R) (graph : NavGraph R R) (source target : Int) :
    Option (GraphEdge R × R) :=
  (graph.edgesFrom source).foldl (selectEdgeStep options graph source target) none

section Step

variable {options : SearchOptions R} {graph : NavGraph R R} {source target : Int}
  {edge : GraphEdge R}

/-- An edge to another vertex, or one the constraints block, leaves the choice. -/
theorem selectEdgeStep_skip (best : Option (GraphEdge R × R))
    (skip : edge.toVertex ≠ target ∨ edgeAllowed options graph edge source = none) :
    selectEdgeStep options graph source target best edge = best := by
  unfold selectEdgeStep
  rcases skip with other | blocked
  · exact if_pos other
  · split
    · rfl
    · rw [blocked]

/-- The first allowed edge is the choice. -/
theorem selectEdgeStep_first {extraCost : R}
    (allowed : edgeAllowed options graph edge source = some extraCost) :
    selectEdgeStep options graph source edge.toVertex none edge =
      some (edge, edge.distanceNm + extraCost) := by
  rw [selectEdgeStep, if_neg (not_not.mpr rfl), allowed]

/-- A later one replaces it only by being cheaper. -/
theorem selectEdgeStep_later {extraCost : R}
    (allowed : edgeAllowed options graph edge source = some extraCost) (kept : GraphEdge R)
    (cost : R) :
    selectEdgeStep options graph source edge.toVertex (some (kept, cost)) edge =
      if edge.distanceNm + extraCost < cost then some (edge, edge.distanceNm + extraCost)
      else some (kept, cost) := by
  rw [selectEdgeStep, if_neg (not_not.mpr rfl), allowed]

/-- What the choice among some parallel edges is: none is allowed, or it is an
allowed one and none of them is cheaper. -/
def Selected (options : SearchOptions R) (graph : NavGraph R R) (source target : Int)
    (edges : List (GraphEdge R)) : Option (GraphEdge R × R) -> Prop
  | none => forall edge, edge ∈ edges -> edge.toVertex = target ->
      edgeAllowed options graph edge source = none
  | some (best, cost) =>
      (best ∈ edges ∧ best.toVertex = target ∧ exists extraCost,
        edgeAllowed options graph best source = some extraCost ∧ cost = best.distanceNm + extraCost) ∧
      forall edge, edge ∈ edges -> edge.toVertex = target -> forall extraCost,
        edgeAllowed options graph edge source = some extraCost -> cost ≤ edge.distanceNm + extraCost

theorem Selected.step {edges : List (GraphEdge R)} {best : Option (GraphEdge R × R)}
    (selected : Selected options graph source target edges best) (edge : GraphEdge R) :
    Selected options graph source target (edges ++ [edge])
      (selectEdgeStep options graph source target best edge) := by
  by_cases skip : edge.toVertex ≠ target ∨ edgeAllowed options graph edge source = none
  · rw [selectEdgeStep_skip best skip]
    rcases best with _ | ⟨best, cost⟩
    · intro other member same
      rcases List.mem_append.mp member with old | new
      · exact selected other old same
      · rw [List.mem_singleton.mp new] at same ⊢
        exact skip.resolve_left fun different => different same
    · rcases selected with ⟨⟨member, same, allowed⟩, least⟩
      refine ⟨⟨List.mem_append_left _ member, same, allowed⟩, ?_⟩
      intro other listed isTarget extraCost otherAllowed
      rcases List.mem_append.mp listed with old | new
      · exact least other old isTarget extraCost otherAllowed
      · rw [List.mem_singleton.mp new] at isTarget otherAllowed
        rcases skip with different | blocked
        · exact absurd isTarget different
        · rw [blocked] at otherAllowed
          cases otherAllowed
  · rw [not_or, not_not] at skip
    rcases skip with ⟨same, notBlocked⟩
    subst same
    rcases Option.ne_none_iff_exists'.mp notBlocked with ⟨extraCost, allowed⟩
    have new : Selected options graph source edge.toVertex [edge]
        (some (edge, edge.distanceNm + extraCost)) := by
      refine ⟨⟨List.mem_singleton.mpr rfl, rfl, extraCost, allowed, rfl⟩, ?_⟩
      intro other listed _ otherExtra otherAllowed
      rw [List.mem_singleton.mp listed, allowed] at otherAllowed
      rw [List.mem_singleton.mp listed, Option.some.inj otherAllowed]
    rcases best with _ | ⟨best, cost⟩
    · rw [selectEdgeStep_first allowed]
      refine ⟨⟨List.mem_append_right _ new.1.1, new.1.2⟩, ?_⟩
      intro other listed isTarget otherExtra otherAllowed
      rcases List.mem_append.mp listed with old | isNew
      · rw [selected other old isTarget] at otherAllowed
        cases otherAllowed
      · exact new.2 other isNew isTarget otherExtra otherAllowed
    · rw [selectEdgeStep_later allowed]
      rcases selected with ⟨⟨member, same, bestAllowed⟩, least⟩
      by_cases less : edge.distanceNm + extraCost < cost
      · rw [if_pos less]
        refine ⟨⟨List.mem_append_right _ new.1.1, new.1.2⟩, ?_⟩
        intro other listed isTarget otherExtra otherAllowed
        rcases List.mem_append.mp listed with old | isNew
        · exact less.le.trans (least other old isTarget otherExtra otherAllowed)
        · exact new.2 other isNew isTarget otherExtra otherAllowed
      · rw [if_neg less]
        refine ⟨⟨List.mem_append_left _ member, same, bestAllowed⟩, ?_⟩
        intro other listed isTarget otherExtra otherAllowed
        rcases List.mem_append.mp listed with old | isNew
        · exact least other old isTarget otherExtra otherAllowed
        · exact (le_of_not_gt less).trans (new.2 other isNew isTarget otherExtra otherAllowed)

/-- `SelectEdge` picks a cheapest allowed edge, when there is one. -/
theorem selected_selectEdge (options : SearchOptions R) (graph : NavGraph R R) (source target : Int) :
    Selected options graph source target (graph.edgesFrom source)
      (selectEdge options graph source target) := by
  have run : forall rest edges best, Selected options graph source target edges best ->
      Selected options graph source target (edges ++ rest)
        (rest.foldl (selectEdgeStep options graph source target) best) := by
    intro rest
    induction rest with
    | nil =>
        intro edges best selected
        rw [List.append_nil]
        exact selected
    | cons edge rest inductionHypothesis =>
        intro edges best selected
        have next := inductionHypothesis _ _ (selected.step edge)
        rw [List.append_assoc, List.singleton_append] at next
        exact next
  exact run (graph.edgesFrom source) [] none fun edge member => absurd member List.not_mem_nil

/-- An allowed edge is no cheaper than the selected one. -/
theorem exists_selectEdge (listed : edge ∈ graph.edgesFrom source) {extraCost : R}
    (allowed : edgeAllowed options graph edge source = some extraCost) :
    exists best cost, selectEdge options graph source edge.toVertex = some (best, cost) ∧
      cost ≤ edge.distanceNm + extraCost := by
  have selected := selected_selectEdge options graph source edge.toVertex
  rcases found : selectEdge options graph source edge.toVertex with _ | ⟨best, cost⟩
  · rw [found] at selected
    rw [selected edge listed rfl] at allowed
    cases allowed
  · rw [found] at selected
    exact ⟨best, cost, rfl, selected.2 edge listed rfl extraCost allowed⟩

end Step
end Edge
end BravoFinder
