import BravoFinder.Graph.SearchCost
import BravoFinder.Graph.SearchOptimal
import Mathlib.Order.Bounds.Basic

namespace BravoFinder

/-!
# What a query asks for

`FeasiblePath` and `Journey` are the query in its own terms.  A feasible path
runs over allowed edges from a listed source to a listed goal and repeats no
vertex.  A journey along it chooses a source, an edge for every step and a goal,
of which there may be several each, and costs what it chose.

`CostOfPathMulti` is the least cost of the journeys along a path when turns are
free, and a search finds a path with the least cost of all journeys.
-/

section Feasible

variable {R : Type} [LinearOrder R] [Zero R] [Add R]

/-- A step over an allowed edge that is not banned. -/
def AllowedStep (graph : NavGraph R R) (options : SearchOptions R) (u v : Int) : Prop :=
  options.edgeFilter.blocks u v = false ∧
    exists edge, edge ∈ graph.edgesFrom u ∧ edge.toVertex = v ∧
      (edgeAllowed options graph edge u).isSome = true

/-- A simple path of the graph that a query may return. -/
structure FeasiblePath (graph : NavGraph R R) (sources goals : List (SeededEndpoint R))
    (options : SearchOptions R) (path : List Int) : Prop where
  nonempty : path ≠ []
  nodup : path.Nodup
  inRange : forall v, v ∈ path -> graph.InRange v
  unblocked : forall v, v ∈ path -> options.nodeFilter.blocks v = false
  starts : exists source, source ∈ sources ∧ path.head? = some source.vertex
  ends : exists goal, goal ∈ goals ∧ path.getLast? = some goal.vertex
  steps : path.IsChain (AllowedStep graph options)

/-- A choice of one allowed edge for every step of a path, and what it costs. -/
inductive StepsCost (graph : NavGraph R R) (options : SearchOptions R) : List Int -> R -> Prop
  | single {v : Int} : StepsCost graph options [v] 0
  | step {u v : Int} {edge : GraphEdge R} {extraCost : R} {rest : List Int} {cost : R} :
      edge ∈ graph.edgesFrom u -> edge.toVertex = v ->
      edgeAllowed options graph edge u = some extraCost -> StepsCost graph options (v :: rest) cost ->
      StepsCost graph options (u :: v :: rest) (edge.distanceNm + extraCost + cost)

/-- The cost of one way to travel along a path. -/
def Journey (graph : NavGraph R R) (sources goals : List (SeededEndpoint R))
    (options : SearchOptions R) (path : List Int) (cost : R) : Prop :=
  exists source goal edgesCost, source ∈ sources ∧ goal ∈ goals ∧
    path.head? = some source.vertex ∧ path.getLast? = some goal.vertex ∧
    StepsCost graph options path edgesCost ∧ cost = source.cost + edgesCost + goal.cost

end Feasible

/-! ## The seed table -/

section Seeds

variable {R : Type} [LinearOrder R] [NatCast R] [Zero R] [One R] [Neg R] [Add R] [Sub R] [Mul R]
  [Div R]

/-- An entry of the seed table is the least seed on its vertex, if there is any. -/
def LeastSeed (endpoints : List (SeededEndpoint R)) (v : Int) (entry : R) : Prop :=
  (entry < 0 ∧ forall endpoint, endpoint ∈ endpoints -> endpoint.vertex ≠ v) ∨
    ((exists endpoint, endpoint ∈ endpoints ∧ endpoint.vertex = v ∧ endpoint.cost = entry) ∧
      0 ≤ entry ∧
      forall endpoint, endpoint ∈ endpoints -> endpoint.vertex = v -> entry ≤ endpoint.cost)

omit [NatCast R] [One R] [Neg R] [Add R] [Sub R] [Mul R] [Div R] in
theorem LeastSeed.step {endpoints : List (SeededEndpoint R)} {n v : Int} {seed : Int -> R}
    (inRange : 0 ≤ v ∧ v < n) (least : LeastSeed endpoints v (seed v))
    {endpoint : SeededEndpoint R} (nonneg : 0 ≤ endpoint.cost) :
    LeastSeed (endpoints ++ [endpoint]) v (seedTableStep n seed endpoint v) := by
  by_cases other : endpoint.vertex = v
  · subst other
    have inside : ¬ (endpoint.vertex < 0 ∨ n ≤ endpoint.vertex) := by omega
    have new : endpoint ∈ endpoints ++ [endpoint] := List.mem_append_right _ (List.mem_singleton.mpr rfl)
    unfold seedTableStep
    rw [if_neg inside]
    rcases least with ⟨negative, none⟩ | ⟨⟨owner, listed, same, cost⟩, known, below⟩
    · rw [if_pos (Or.inl negative), Function.update_self]
      refine Or.inr ⟨⟨endpoint, new, rfl, rfl⟩, nonneg, fun old member same => ?_⟩
      rcases List.mem_append.mp member with earlier | isNew
      · exact absurd same (none old earlier)
      · rw [List.mem_singleton.mp isNew]
    · by_cases cheaper : endpoint.cost < seed endpoint.vertex
      · rw [if_pos (Or.inr cheaper), Function.update_self]
        refine Or.inr ⟨⟨endpoint, new, rfl, rfl⟩, nonneg, fun old member same => ?_⟩
        rcases List.mem_append.mp member with earlier | isNew
        · exact cheaper.le.trans (below old earlier same)
        · rw [List.mem_singleton.mp isNew]
      · rw [if_neg (not_or.mpr ⟨not_lt_of_ge known, cheaper⟩)]
        refine Or.inr ⟨⟨owner, List.mem_append_left _ listed, same, cost⟩, known,
          fun old member same => ?_⟩
        rcases List.mem_append.mp member with earlier | isNew
        · exact below old earlier same
        · rw [List.mem_singleton.mp isNew]
          exact le_of_not_gt cheaper
  · rw [seedTableStep_of_ne other]
    rcases least with ⟨negative, none⟩ | ⟨⟨owner, listed, same, cost⟩, known, below⟩
    · refine Or.inl ⟨negative, fun old member => ?_⟩
      rcases List.mem_append.mp member with earlier | isNew
      · exact none old earlier
      · rw [List.mem_singleton.mp isNew]
        exact other
    · refine Or.inr ⟨⟨owner, List.mem_append_left _ listed, same, cost⟩, known,
        fun old member same => ?_⟩
      rcases List.mem_append.mp member with earlier | isNew
      · exact below old earlier same
      · rw [List.mem_singleton.mp isNew] at same
        exact absurd same other

omit [NatCast R] [Add R] [Sub R] [Mul R] [Div R] in
theorem leastSeed_buildSeedTable (sentinel : (-1 : R) < 0) {endpoints : List (SeededEndpoint R)}
    (nonneg : forall endpoint, endpoint ∈ endpoints -> 0 ≤ endpoint.cost) {n v : Int}
    (inRange : 0 ≤ v ∧ v < n) : LeastSeed endpoints v (buildSeedTable endpoints n v) := by
  have run : forall (rest seen : List (SeededEndpoint R)) (seed : Int -> R),
      (forall endpoint, endpoint ∈ rest -> 0 ≤ endpoint.cost) ->
      LeastSeed seen v (seed v) -> LeastSeed (seen ++ rest) v (rest.foldl (seedTableStep n) seed v) := by
    intro rest
    induction rest with
    | nil =>
        intro seen seed _ least
        rw [List.append_nil]
        exact least
    | cons endpoint rest inductionHypothesis =>
        intro seen seed nonneg least
        have next := inductionHypothesis _ _ (fun other member => nonneg other (List.mem_cons_of_mem _ member))
          (least.step inRange (nonneg endpoint List.mem_cons_self))
        rw [List.append_assoc, List.singleton_append] at next
        exact next
  exact run endpoints [] _ nonneg
    (Or.inl ⟨sentinel, fun endpoint member => absurd member List.not_mem_nil⟩)

end Seeds

section Cost

variable {R : Type} [Field R] [LinearOrder R] [IsStrictOrderedRing R]

/-! ## The cost of the steps -/

/-- `CostOfPath` picks the cheapest edge of every step. -/
theorem isLeast_edgeCosts {graph : NavGraph R R} {options : SearchOptions R} {path : List Int}
    (nonempty : path ≠ []) (steps : path.IsChain (AllowedStep graph options)) :
    exists cost distance, edgeCosts graph options path (0, 0) = some (cost, distance) ∧
      IsLeast {c | StepsCost graph options path c} cost := by
  suffices all : exists cost distance,
      (forall total : R × R, edgeCosts graph options path total =
        some (total.1 + cost, total.2 + distance)) ∧
      IsLeast {c | StepsCost graph options path c} cost by
    rcases all with ⟨cost, distance, edges, least⟩
    refine ⟨cost, distance, ?_, least⟩
    rw [edges, zero_add, zero_add]
  induction path with
  | nil => exact absurd rfl nonempty
  | cons u rest inductionHypothesis =>
      cases rest with
      | nil =>
          refine ⟨0, 0, fun total => ?_, .single, ?_⟩
          · rw [add_zero, add_zero]
            rfl
          · intro cost steps
            cases steps
            exact le_rfl
      | cons v rest =>
          rcases List.isChain_cons_cons.mp steps with ⟨⟨unbanned, edge, listed, target, isAllowed⟩, others⟩
          rcases Option.isSome_iff_exists.mp isAllowed with ⟨extraCost, allowed⟩
          rcases inductionHypothesis (List.cons_ne_nil v rest) others with
            ⟨restCost, restDistance, edges, achieved, least⟩
          subst target
          rcases exists_selectEdge listed allowed with ⟨best, bestCost, selected, _⟩
          have choice := selected_selectEdge options graph u edge.toVertex
          rw [selected] at choice
          rcases choice with ⟨⟨bestListed, bestTarget, bestExtra, bestAllowed, bestEq⟩, cheapest⟩
          refine ⟨bestCost + restCost, best.distanceNm + restDistance, fun total => ?_, ?_, ?_⟩
          · rw [edgeCosts, if_neg (by rw [unbanned]; exact Bool.false_ne_true), selected]
            simp only [edges, add_assoc]
          · rw [bestEq]
            exact StepsCost.step bestListed bestTarget bestAllowed achieved
          · intro cost steps
            cases steps with
            | step otherListed otherTarget otherAllowed after =>
                exact add_le_add (cheapest _ otherListed otherTarget _ otherAllowed) (least after)

/-- Without turns a path costs its seeds and its cheapest edges. -/
theorem isLeast_costOfPathMulti (earth : Geodesy R) (graph : NavGraph R R) (options : SearchOptions R)
    (turnOff : options.turnPenalty.enabled = false) {path : List Int} {front back : Int}
    (first : path.head? = some front) (last : path.getLast? = some back)
    (unblocked : forall v, v ∈ path -> options.nodeFilter.blocks v = false)
    (steps : path.IsChain (AllowedStep graph options))
    (sourceSeed goalSeed sourceBearing goalBearing : Int -> R) (seeds : 0 ≤ sourceSeed front ∧ 0 ≤ goalSeed back) :
    exists cost distance,
      costOfPathMulti earth graph path sourceSeed goalSeed sourceBearing goalBearing options =
        some (sourceSeed front + cost + goalSeed back, distance) ∧
      IsLeast {c | StepsCost graph options path c} cost := by
  cases path with
  | nil => cases first
  | cons head rest =>
      cases first
      rcases isLeast_edgeCosts (List.cons_ne_nil front rest) steps with ⟨cost, distance, edges, least⟩
      have backEq : (front :: rest).getLastD front = back := by
        rw [List.getLastD_eq_getLast?, last, Option.getD_some]
      refine ⟨cost, sourceSeed front + distance + goalSeed back, ?_, least⟩
      unfold costOfPathMulti
      simp only [backEq]
      rw [if_neg (not_or.mpr ⟨not_lt_of_ge seeds.1, not_lt_of_ge seeds.2⟩),
        costOfPath_eq earth graph (List.cons_ne_nil front rest) unblocked _ _ edges]
      simp only [turnOff, Bool.false_eq_true, if_false]

/-! ## Paths and journeys of a query -/

section Query

variable (engine : Engine R) {graph : NavGraph R R} {sources goals : List (SeededEndpoint R)}
  {options : SearchOptions R}

omit [IsStrictOrderedRing R] in
/-- The routes of a search between endpoints with seeds are the feasible paths. -/
theorem route_iff_feasiblePath (endpoints : List (SeededEndpoint R))
    (nonneg : forall goal, goal ∈ goals -> 0 ≤ goal.cost) (path : List Int) :
    (searchSetup engine graph endpoints goals options).Route sources path ↔
      FeasiblePath graph sources goals options path := by
  constructor
  · intro route
    rcases route.ends with ⟨back, last, isGoal⟩
    rcases exists_of_buildSeedTable engine.sentinel_neg isGoal with ⟨goal, listed, same⟩
    exact ⟨route.nonempty, route.nodup, route.inRange, route.unblocked, route.starts,
      ⟨goal, listed, same ▸ last⟩, route.steps.imp fun _ _ step => ⟨step.banned, step.edge⟩⟩
  · intro feasible
    rcases feasible.ends with ⟨goal, listed, last⟩
    have inRange := feasible.inRange goal.vertex (List.mem_of_getLast? last)
    refine ⟨feasible.nonempty, feasible.nodup, feasible.inRange, feasible.unblocked, feasible.starts,
      ⟨goal.vertex, last, ?_⟩, ?_⟩
    · rcases leastSeed_buildSeedTable engine.sentinel_neg nonneg inRange with ⟨_, none⟩ | ⟨_, known, _⟩
      · exact absurd rfl (none goal listed)
      · exact known
    · refine List.IsChain.imp_of_mem_imp ?_ feasible.steps
      intro u v _ member step
      exact ⟨feasible.unblocked v member, step.1, step.2⟩

/-- A path between listed endpoints has its least journey as its cost. -/
theorem isLeast_journey (turnOff : options.turnPenalty.enabled = false)
    (sourcesNonneg : forall source, source ∈ sources -> 0 ≤ source.cost)
    (goalsNonneg : forall goal, goal ∈ goals -> 0 ≤ goal.cost) (sourceBearing goalBearing : Int -> R)
    {path : List Int} (feasible : FeasiblePath graph sources goals options path) :
    exists cost distance,
      costOfPathMulti engine.earth graph path (buildSeedTable sources graph.vertexCount)
        (buildSeedTable goals graph.vertexCount) sourceBearing goalBearing options =
        some (cost, distance) ∧
      IsLeast {c | Journey graph sources goals options path c} cost := by
  rcases feasible.starts with ⟨source, sourceListed, first⟩
  rcases feasible.ends with ⟨goal, goalListed, last⟩
  have sourceInRange := feasible.inRange source.vertex (List.mem_of_head? first)
  have goalInRange := feasible.inRange goal.vertex (List.mem_of_getLast? last)
  rcases (leastSeed_buildSeedTable engine.sentinel_neg sourcesNonneg sourceInRange).resolve_left
    fun unlisted => unlisted.2 source sourceListed rfl with
    ⟨⟨bestSource, bestSourceListed, sameSource, sourceCost⟩, sourceKnown, sourceLeast⟩
  rcases (leastSeed_buildSeedTable engine.sentinel_neg goalsNonneg goalInRange).resolve_left
    fun unlisted => unlisted.2 goal goalListed rfl with
    ⟨⟨bestGoal, bestGoalListed, sameGoal, goalCost⟩, goalKnown, goalLeast⟩
  rcases isLeast_costOfPathMulti engine.earth graph options turnOff first last feasible.unblocked
    feasible.steps _ _ sourceBearing goalBearing ⟨sourceKnown, goalKnown⟩ with ⟨edgesCost, distance, priced, achieved, least⟩
  refine ⟨_, distance, priced, ?_, ?_⟩
  · exact ⟨bestSource, bestGoal, edgesCost, bestSourceListed, bestGoalListed, sameSource.symm ▸ first,
      sameGoal.symm ▸ last, achieved, by rw [sourceCost, goalCost]⟩
  · rintro cost ⟨otherSource, otherGoal, otherCost, otherSourceListed, otherGoalListed, otherFirst,
      otherLast, steps, rfl⟩
    have sourceSame := Option.some.inj (otherFirst.symm.trans first)
    have goalSame := Option.some.inj (otherLast.symm.trans last)
    exact add_le_add (add_le_add (sourceLeast otherSource otherSourceListed sourceSame) (least steps))
      (goalLeast otherGoal otherGoalListed goalSame)

end Query

/-! ## Searches and journeys -/

/-- Without turns the steps of a path lead the search along it. -/
theorem SearchSetup.reaches_of_steps (setup : SearchSetup R)
    (turnOff : setup.options.turnPenalty.enabled = false) {sources : List (SeededEndpoint R)}
    {path : List Int} {stepsCost : R} (steps : StepsCost setup.graph setup.options path stepsCost)
    (chain : path.IsChain setup.Step) {front back : Int} (first : path.head? = some front)
    (last : path.getLast? = some back) {heading cost : R} (reaches : setup.Reaches sources front heading cost) :
    exists arrival, setup.Reaches sources back arrival (cost + stepsCost) := by
  induction steps generalizing front heading cost with
  | single =>
      cases first
      cases last
      exact ⟨heading, (add_zero cost).symm ▸ reaches⟩
  | step listed target allowed _ inductionHypothesis =>
      cases first
      rcases List.isChain_cons_cons.mp chain with ⟨step, others⟩
      subst target
      rw [List.getLast?_cons_cons] at last
      have next := reaches.edge listed ⟨step.node, step.banned, allowed⟩ (.of_turnOff turnOff _ _ _ _ _)
      rw [setup.turnCharge_turnOff turnOff, add_zero] at next
      rw [← add_assoc]
      exact inductionHypothesis others rfl last next

end Cost
end BravoFinder
