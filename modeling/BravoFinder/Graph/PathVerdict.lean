import BravoFinder.Graph.Journey
import BravoFinder.Graph.StitchedCost
import BravoFinder.Graph.YenCost
import BravoFinder.Library.JoinedLists

namespace BravoFinder

/-!
# Which paths are accepted

`CostOfPathMulti` is the verdict on a path that no search has found: the
K-shortest search and the forced-point routing accept what it prices.  It should
accept what a search could return, priced by the cheapest edge of each step.  A
path of one vertex has no step, and is accepted before the node filter is read.
-/

variable {R : Type} [Field R] [LinearOrder R] [IsStrictOrderedRing R]

/-! ## What should be accepted -/

section Verdict

variable (graph : NavGraph R R) (options : SearchOptions R)

/-- What the allowed edges between two vertices cost. -/
def edgeChoices (u v : Int) : Set R :=
  {cost | exists edge extraCost, edge ∈ graph.edgesFrom u ∧ edge.toVertex = v ∧
    edgeAllowed options graph edge u = some extraCost ∧ cost = edge.distanceNm + extraCost}

/-- The cheapest allowed edge of every step. -/
def CheapestSteps (path : List Int) (costs : List R) : Prop :=
  List.Forall₂ (fun step cost => IsLeast (edgeChoices graph options step.1 step.2) cost) (neighbours path) costs

/-- The seeds and the headings at both ends of a path. -/
structure EndTables (R : Type) where
  sourceSeed : Int -> R
  goalSeed : Int -> R
  sourceBearing : Int -> R
  goalBearing : Int -> R

/-- A path between seeded vertices that a search could take. -/
structure Searchable (tables : EndTables R) (path : List Int) : Prop where
  source : exists front, path.head? = some front ∧ 0 ≤ tables.sourceSeed front
  goal : exists back, path.getLast? = some back ∧ 0 ≤ tables.goalSeed back
  unblocked : forall v, v ∈ path -> options.nodeFilter.blocks v = false
  steps : path.IsChain (AllowedStep graph options)

/-- The price of a path: both seeds, the cheapest edges, and the turns between
the headings that are known. -/
def PricedBy (earth : Geodesy R) (tables : EndTables R) (path : List Int) (cost : R) : Prop :=
  exists front back costs, path.head? = some front ∧ path.getLast? = some back ∧
    CheapestSteps graph options path costs ∧
    cost = tables.sourceSeed front + costs.sum + tables.goalSeed back +
      turnSum options.turnPenalty
        (tables.sourceBearing front :: edgeBearings earth graph path ++ [tables.goalBearing back])

/-- The verdict of `CostOfPathMulti`. -/
def verdict (earth : Geodesy R) (tables : EndTables R) (path : List Int) : Option (R × R) :=
  costOfPathMulti earth graph path tables.sourceSeed tables.goalSeed tables.sourceBearing tables.goalBearing options

/-- The searchable paths are accepted, and no others, each at its price. -/
structure AcceptsTheSearchable (earth : Geodesy R) (tables : EndTables R) (path : List Int) : Prop where
  accepts : (verdict graph options earth tables path).isSome = true ↔ Searchable graph options tables path
  prices : forall cost distance, verdict graph options earth tables path = some (cost, distance) ->
    PricedBy graph options earth tables path cost

/-- A vertex that is seeded at both ends, and blocked. -/
def BlockedAlone (tables : EndTables R) (path : List Int) : Prop :=
  exists v, path = [v] ∧ 0 ≤ tables.sourceSeed v ∧ 0 ≤ tables.goalSeed v ∧ options.nodeFilter.blocks v = true

end Verdict

/-! ## What is accepted -/

section Proof

variable {graph : NavGraph R R} {options : SearchOptions R} {earth : Geodesy R} {tables : EndTables R}
  {path : List Int}

section

omit [IsStrictOrderedRing R]

theorem isLeast_selectEdge {u v : Int} {edge : GraphEdge R} {cost : R}
    (selected : selectEdge options graph u v = some (edge, cost)) :
    edge ∈ graph.edgesFrom u ∧ edge.toVertex = v ∧ (edgeAllowed options graph edge u).isSome = true ∧
      IsLeast (edgeChoices graph options u v) cost := by
  have choice := selected_selectEdge options graph u v
  rw [selected] at choice
  rcases choice with ⟨⟨listed, target, extraCost, allowed, total⟩, cheapest⟩
  refine ⟨listed, target, Option.isSome_iff_exists.mpr ⟨extraCost, allowed⟩,
    ⟨edge, extraCost, listed, target, allowed, total⟩, ?_⟩
  rintro _ ⟨other, otherExtra, otherListed, otherTarget, otherAllowed, rfl⟩
  exact cheapest other otherListed otherTarget otherExtra otherAllowed

/-- The edge loop takes the cheapest allowed edge of every step. -/
theorem cheapestSteps_of_edgeCosts {start total : R × R}
    (edges : edgeCosts graph options path start = some total) :
    path.IsChain (AllowedStep graph options) ∧
      exists costs, CheapestSteps graph options path costs ∧ total.1 = start.1 + costs.sum := by
  induction path generalizing start with
  | nil =>
      cases edges
      exact ⟨List.isChain_nil, [], .nil, (add_zero _).symm⟩
  | cons u rest inductionHypothesis =>
      cases rest with
      | nil =>
          cases edges
          exact ⟨List.isChain_singleton u, [], .nil, (add_zero _).symm⟩
      | cons v rest =>
          rw [edgeCosts] at edges
          split at edges
          · cases edges
          rename_i unbanned
          split at edges
          · cases edges
          rename_i edge cost selected
          rcases isLeast_selectEdge selected with ⟨listed, target, allowed, least⟩
          rcases inductionHypothesis edges with ⟨chain, costs, cheapest, sum⟩
          refine ⟨List.isChain_cons_cons.mpr ⟨⟨Bool.eq_false_iff.mpr unbanned, edge, listed, target, allowed⟩, chain⟩,
            cost :: costs, .cons least cheapest, ?_⟩
          rw [sum, List.sum_cons, add_assoc]

/-- What is accepted is seeded at both ends, takes allowed edges and has its price. -/
theorem priced_of_verdict {cost distance : R}
    (accepted : verdict graph options earth tables path = some (cost, distance)) :
    (exists front, path.head? = some front ∧ 0 ≤ tables.sourceSeed front) ∧
      (exists back, path.getLast? = some back ∧ 0 ≤ tables.goalSeed back) ∧
      path.IsChain (AllowedStep graph options) ∧ PricedBy graph options earth tables path cost := by
  rcases costOfPathMulti_eq_some accepted with
    ⟨front, back, edgeCost, edgeNm, first, last, sourceSeeded, goalSeeded, edges, total, -⟩
  rcases cheapestSteps_of_edgeCosts edges with ⟨chain, costs, cheapest, sum⟩
  refine ⟨⟨front, first, sourceSeeded⟩, ⟨back, last, goalSeeded⟩, chain, front, back, costs, first, last, cheapest, ?_⟩
  have exact : edgeCost = costs.sum := sum.trans (zero_add _)
  rw [total, exact]
  ring

/-- A path of two or more vertices is accepted only when the filter lets all of
them pass. -/
theorem unblocked_of_verdict {cost distance : R}
    (accepted : verdict graph options earth tables path = some (cost, distance)) (longer : 2 ≤ path.length) :
    forall v, v ∈ path -> options.nodeFilter.blocks v = false := by
  rw [verdict, costOfPathMulti.eq_def] at accepted
  split at accepted
  · cases accepted
  simp only at accepted
  split at accepted
  · cases accepted
  split at accepted
  · cases accepted
  rename_i priced
  rw [costOfPath, if_neg (by omega)] at priced
  split at priced
  · cases priced
  rename_i allowed
  intro v member
  exact Bool.eq_false_iff.mpr fun blocks => allowed (List.any_eq_true.mpr ⟨v, member, blocks⟩)

end

theorem isSome_verdict_of_searchable (searchable : Searchable graph options tables path) :
    (verdict graph options earth tables path).isSome = true := by
  rcases searchable.source with ⟨front, first, sourceSeeded⟩
  rcases searchable.goal with ⟨back, last, goalSeeded⟩
  rcases path with _ | ⟨head, rest⟩
  · cases first
  cases first
  have backEq : (front :: rest).getLastD front = back := by
    rw [List.getLastD_eq_getLast?, last, Option.getD_some]
  rcases isLeast_edgeCosts (List.cons_ne_nil front rest) searchable.steps with ⟨cost, distance, edges, -⟩
  rw [verdict, costOfPathMulti]
  simp only [backEq]
  rw [if_neg (not_or.mpr ⟨not_lt_of_ge sourceSeeded, not_lt_of_ge goalSeeded⟩),
    costOfPath_eq earth graph (List.cons_ne_nil front rest) searchable.unblocked _ _ edges]
  rfl

omit [IsStrictOrderedRing R] in
/-- A single vertex is accepted whatever the filter says of it. -/
theorem isSome_verdict_of_blockedAlone (alone : BlockedAlone options tables path) :
    (verdict graph options earth tables path).isSome = true := by
  rcases alone with ⟨v, rfl, sourceSeeded, goalSeeded, -⟩
  rw [verdict, costOfPathMulti]
  simp only [List.getLastD_cons, List.getLastD_nil]
  rw [if_neg (not_or.mpr ⟨not_lt_of_ge sourceSeeded, not_lt_of_ge goalSeeded⟩), costOfPath,
    if_pos (by exact Nat.one_lt_two)]
  split_ifs <;> rfl

variable (graph options earth tables path)

/-- Exactly the searchable paths are accepted, unless the path is a single
blocked vertex that is seeded at both ends. -/
theorem acceptsTheSearchable_iff :
    AcceptsTheSearchable graph options earth tables path ↔ ¬ BlockedAlone options tables path := by
  constructor
  · intro right alone
    have searchable := right.accepts.mp (isSome_verdict_of_blockedAlone alone)
    rcases alone with ⟨v, rfl, -, -, blocked⟩
    exact Bool.noConfusion ((searchable.unblocked v List.mem_cons_self).symm.trans blocked)
  · intro together
    refine ⟨⟨fun accepted => ?_, isSome_verdict_of_searchable⟩, fun cost distance accepted =>
      (priced_of_verdict accepted).2.2.2⟩
    rcases Option.isSome_iff_exists.mp accepted with ⟨⟨cost, distance⟩, found⟩
    rcases priced_of_verdict found with ⟨source, goal, steps, -⟩
    refine ⟨source, goal, ?_, steps⟩
    by_cases longer : 2 ≤ path.length
    · exact unblocked_of_verdict found longer
    · rcases source with ⟨front, first, sourceSeeded⟩
      rcases goal with ⟨back, last, goalSeeded⟩
      rcases path with _ | ⟨v, _ | ⟨next, rest⟩⟩
      · cases first
      · cases first
        cases last
        intro v member
        rw [List.mem_singleton.mp member]
        exact Bool.eq_false_iff.mpr fun blocked => together ⟨_, rfl, sourceSeeded, goalSeeded, blocked⟩
      · exact absurd (Nat.le_add_left 2 _) longer

end Proof

/-! ## A blocked vertex alone -/

/-- Both seeds at vertex 1 of the line. -/
def aloneTables : EndTables ℚ :=
  ⟨fun v => if v = 1 then 0 else -1, fun v => if v = 1 then 0 else -1, fun _ => kNoBearing, fun _ => kNoBearing⟩

/-- A search that may not enter vertex 1. -/
def aloneOptions : SearchOptions ℚ :=
  { lineOptions false with nodeFilter := ⟨1, 2, none⟩ }

/-- The blocked vertex is accepted. -/
theorem not_acceptsTheSearchable_alone :
    (verdict lineGraph aloneOptions lineEarth aloneTables [1]).isSome = true ∧
      ¬ AcceptsTheSearchable lineGraph aloneOptions lineEarth aloneTables [1] := by
  have alone : BlockedAlone aloneOptions aloneTables [1] := ⟨1, rfl, by decide, by decide, by decide⟩
  have accepted : (verdict lineGraph aloneOptions lineEarth aloneTables [1]).isSome = true :=
    isSome_verdict_of_blockedAlone alone
  refine ⟨accepted, fun right => ?_⟩
  have passes := (right.accepts.mp accepted).unblocked 1 List.mem_cons_self
  have blocks : aloneOptions.nodeFilter.blocks 1 = true := by decide
  exact Bool.noConfusion (passes.symm.trans blocks)

/-- Longer paths are judged rightly, such as this one, whose end is blocked. -/
theorem acceptsTheSearchable_iff_line :
    AcceptsTheSearchable lineGraph aloneOptions lineEarth aloneTables [0, 1] :=
  (acceptsTheSearchable_iff lineGraph aloneOptions lineEarth aloneTables [0, 1]).mpr fun alone => by
    rcases alone with ⟨v, same, -⟩
    cases same

end BravoFinder
