import BravoFinder.Graph.Journey

namespace BravoFinder

/-!
# Turns that keep the order of approaches

The search keeps one label per vertex, with one heading.  Nothing is lost by that
along a path on which an approach that is no dearer at a vertex stays no dearer
over the next step, whatever its heading.  Then the search is no dearer than the
path.
-/

namespace SearchSetup

variable {R : Type} [Field R] [LinearOrder R] [IsStrictOrderedRing R] (setup : SearchSetup R)

/-- The cost of a path up to its last vertex, with the turn there onto a heading. -/
def approachCost (sources : List (SeededEndpoint R)) (path : List Int) (outbound : R) : Option R :=
  match path with
  | [] => none
  | front :: _ =>
      (costOfPath setup.engine.earth setup.graph path setup.options (setup.tables.sourceBearing front)
        outbound).map fun total => buildSeedTable sources setup.graph.vertexCount front + total.1

/-- The heading of the next step of a path, or that of the goal. -/
def nextHeading (u : Int) : List Int -> R
  | [] => setup.tables.goalBearing u
  | v :: _ => setup.engine.earth.bearingTo (setup.graph.coordOf u) (setup.graph.coordOf v)

/-- At every vertex of a path, an approach that is no dearer than the path stays
no dearer over its next step. -/
def KeepsOrderAlong (sources : List (SeededEndpoint R)) (path : List Int) : Prop :=
  forall before u after other, path = before ++ u :: after -> setup.Approach sources (other ++ [u]) ->
    forall cost less costOn lessOn,
      setup.approachCost sources (before ++ [u]) kNoBearing = some cost ->
      setup.approachCost sources (other ++ [u]) kNoBearing = some less ->
      setup.approachCost sources (before ++ [u]) (setup.nextHeading u after) = some costOn ->
      setup.approachCost sources (other ++ [u]) (setup.nextHeading u after) = some lessOn ->
      less ≤ cost -> lessOn ≤ costOn

/-! ## The cost of an approach -/

omit [IsStrictOrderedRing R] in
theorem approachCost_eq (sources : List (SeededEndpoint R)) {path : List Int} {front : Int}
    (first : path.head? = some front)
    (unblocked : forall v, v ∈ path -> setup.options.nodeFilter.blocks v = false) {cost distance : R}
    (edges : edgeCosts setup.graph setup.options path (0, 0) = some (cost, distance)) (outbound : R) :
    setup.approachCost sources path outbound =
      some (buildSeedTable sources setup.graph.vertexCount front + setup.costTo front path cost +
        setup.turnCharge
          (arrivalBearing setup.engine.earth setup.graph (setup.tables.sourceBearing front) path)
          outbound) := by
  cases path with
  | nil => cases first
  | cons head rest =>
      cases first
      simp only [approachCost, costOfPath_eq setup.engine.earth setup.graph (List.cons_ne_nil _ rest) unblocked
        _ _ edges, Option.map_some]
      unfold costTo turnCharge
      by_cases enabled : setup.options.turnPenalty.enabled = true
      · simp only [enabled, if_true, add_assoc]
      · simp only [enabled, if_false, Bool.false_eq_true, add_zero]

omit [IsStrictOrderedRing R] in
theorem approachCost_eq_turns (sources : List (SeededEndpoint R)) {path : List Int} {front : Int}
    (first : path.head? = some front)
    (unblocked : forall v, v ∈ path -> setup.options.nodeFilter.blocks v = false) {cost distance : R}
    (edges : edgeCosts setup.graph setup.options path (0, 0) = some (cost, distance)) (outbound : R) :
    setup.approachCost sources path outbound =
      some (buildSeedTable sources setup.graph.vertexCount front + (cost +
        turnSum setup.options.turnPenalty (setup.tables.sourceBearing front ::
          edgeBearings setup.engine.earth setup.graph path ++ [outbound]))) := by
  cases path with
  | nil => cases first
  | cons head rest =>
      cases first
      have enroute := costOfPath_eq setup.engine.earth setup.graph (List.cons_ne_nil front rest) unblocked
        (setup.tables.sourceBearing front) outbound edges
      rcases costOfPath_eq_some (List.cons_ne_nil front rest) enroute with ⟨edgesCost, same, total⟩
      cases same.symm.trans edges
      simp only [approachCost, enroute, Option.map_some, total]

variable {setup} {sources : List (SeededEndpoint R)}

omit [IsStrictOrderedRing R] in
theorem Arrives.approachCost_eq {path : List Int} {v : Int} {heading cost : R}
    (arrives : setup.Arrives sources path v heading cost) (outbound : R) :
    setup.approachCost sources path outbound = some (cost + setup.turnCharge heading outbound) := by
  rcases arrives.priced with ⟨front, edgesCost, distance, first, edges, rfl, rfl⟩
  exact setup.approachCost_eq sources first arrives.approach.unblocked edges outbound

/-- An approach takes an allowed edge at every step. -/
theorem Approach.exists_edgeCosts {path : List Int} (approach : setup.Approach sources path) :
    exists cost distance, edgeCosts setup.graph setup.options path (0, 0) = some (cost, distance) := by
  have nonempty : path ≠ [] := by
    rcases approach.starts with ⟨_, _, first⟩
    rintro rfl
    cases first
  rcases isLeast_edgeCosts nonempty (approach.steps.imp fun _ _ step => ⟨step.banned, step.edge⟩) with
    ⟨cost, distance, edges, _⟩
  exact ⟨cost, distance, edges⟩

omit [IsStrictOrderedRing R] in
/-- Without turns no order is lost. -/
theorem KeepsOrderAlong.of_turnOff (turnOff : setup.options.turnPenalty.enabled = false)
    (sources : List (SeededEndpoint R)) (path : List Int) : setup.KeepsOrderAlong sources path := by
  have same : forall way first second,
      setup.approachCost sources way first = setup.approachCost sources way second := by
    intro way first second
    unfold approachCost costOfPath
    simp only [turnOff, Bool.false_eq_true, false_and, if_false]
  intro before u after other _ _ cost less costOn lessOn here otherHere on otherOn le
  rw [same _ _ kNoBearing] at on otherOn
  cases here.symm.trans on
  cases otherHere.symm.trans otherOn
  exact le

/-! ## The search is no dearer -/

omit [IsStrictOrderedRing R] in
theorem KeepsOrderAlong.keepsOrder {path before after : List Int} {u : Int}
    (along : setup.KeepsOrderAlong sources path) (whole : path = before ++ u :: after) {heading cost : R}
    (arrives : setup.Arrives sources (before ++ [u]) u heading cost) :
    setup.KeepsOrder sources u heading cost (setup.nextHeading u after) := by
  intro path other less otherArrives le
  rcases List.getLast?_eq_some_iff.mp otherArrives.last with ⟨front, rfl⟩
  have price := arrives.approachCost_eq
  have otherPrice := otherArrives.approachCost_eq
  have here := price kNoBearing
  have otherHere := otherPrice kNoBearing
  rw [setup.turnCharge_unknown, add_zero] at here otherHere
  exact along before u after front whole otherArrives.approach _ _ _ _ here otherHere (price _)
    (otherPrice _) le

omit [IsStrictOrderedRing R] in
/-- The search may follow a path whose order the turns keep. -/
theorem exists_reaches (nonneg : forall source, source ∈ sources -> 0 ≤ source.cost) {path : List Int}
    (approach : setup.Approach sources path) (along : setup.KeepsOrderAlong sources path)
    (before : List Int) : forall u after, path = before ++ u :: after ->
      exists heading cost, setup.Arrives sources (before ++ [u]) u heading cost ∧
        setup.Reaches sources u heading cost := by
  induction before using List.reverseRecOn with
  | nil =>
      intro u after whole
      rw [whole] at approach
      rcases approach.starts with ⟨source, listed, first⟩
      cases first
      have inRange := approach.inRange source.vertex List.mem_cons_self
      have unblocked := approach.unblocked source.vertex List.mem_cons_self
      rcases (leastSeed_buildSeedTable setup.engine.sentinel_neg nonneg inRange).resolve_left
        fun unlisted => unlisted.2 source listed rfl with ⟨⟨least, leastListed, same, seed⟩, _, _⟩
      have reaches : setup.Reaches sources least.vertex (setup.tables.sourceBearing least.vertex) least.cost :=
        .source leastListed (same ▸ inRange) (same ▸ unblocked)
      rw [same] at reaches
      refine ⟨_, _, ⟨Approach.before approach, rfl, source.vertex, 0, 0, rfl, rfl, rfl, ?_⟩, reaches⟩
      have free : setup.costTo source.vertex [source.vertex] 0 = 0 := by
        unfold costTo
        split <;> rfl
      rw [List.nil_append, free, add_zero, seed]
  | append_singleton before w inductionHypothesis =>
      intro u after whole
      have earlier : path = before ++ w :: u :: after := by
        rw [whole, List.append_assoc, List.singleton_append]
      rcases inductionHypothesis w (u :: after) earlier with ⟨heading, cost, arrives, reaches⟩
      have keepsOrder := along.keepsOrder earlier arrives
      have steps := approach.steps
      rw [earlier] at steps
      have step := (List.isChain_cons_cons.mp (List.isChain_append.mp steps).2.1).1
      rcases step.edge with ⟨edge, listed, rfl, isAllowed⟩
      rcases Option.isSome_iff_exists.mp isAllowed with ⟨extraCost, allowed⟩
      rcases exists_selectEdge listed allowed with ⟨best, bestCost, selected, _⟩
      have choice := selected_selectEdge setup.options setup.graph w edge.toVertex
      rw [selected] at choice
      rcases choice with ⟨⟨bestListed, bestTarget, bestExtra, bestAllowed, bestEq⟩, _⟩
      rw [whole] at approach
      have unblocked := approach.unblocked edge.toVertex (List.mem_append_right _ List.mem_cons_self)
      have next := reaches.edge bestListed
        ⟨bestTarget.symm ▸ step.node, bestTarget.symm ▸ step.banned, bestAllowed⟩
        (bestTarget.symm ▸ keepsOrder)
      rw [bestTarget] at next
      refine ⟨_, _, ⟨Approach.before approach, List.getLast?_concat, ?_⟩, next⟩
      rcases arrives.priced with ⟨front, edgesCost, distance, first, edges, headingEq, costEq⟩
      refine ⟨front, edgesCost + bestCost, distance + best.distanceNm, ?_, ?_, ?_, ?_⟩
      · rw [List.head?_append_of_ne_nil _ (List.append_ne_nil_of_right_ne_nil _ (List.cons_ne_nil _ _)), first]
      · rw [List.append_assoc, List.singleton_append, edgeCosts_append, edges, Option.bind_some, edgeCosts,
          step.banned, selected]
        rfl
      · rw [List.append_assoc, List.singleton_append, arrivalBearing_concat]
      · rw [List.append_assoc, List.singleton_append, costTo_concat, ← headingEq, costEq, bestEq]
        ring

variable (setup) in
/-- The search is no dearer than a route whose order the turns keep. -/
theorem findShortestPathMulti_le_of_route (consistent : setup.Consistent)
    (nonneg : forall source, source ∈ sources -> 0 ≤ source.cost) {ws : SearchWorkspace R}
    (stamped : ws.Stamped) {path : List Int} {back : Int} {cost : R} (route : setup.Route sources path)
    (along : setup.KeepsOrderAlong sources path) (last : path.getLast? = some back)
    (priced : setup.approachCost sources path (setup.tables.goalBearing back) = some cost) :
    (setup.findShortestPathMulti sources ws).1.found = true ∧
      (setup.findShortestPathMulti sources ws).1.cost ≤ cost + setup.tables.goalSeed back := by
  rcases route.ends with ⟨goal, goalLast, isGoal⟩
  cases Option.some.inj (goalLast.symm.trans last)
  rcases List.getLast?_eq_some_iff.mp last with ⟨before, whole⟩
  rcases exists_reaches nonneg route.approach along before back [] whole with
    ⟨heading, arrival, arrives, reaches⟩
  rw [← whole] at arrives
  have same := (arrives.approachCost_eq (setup.tables.goalBearing back)).symm.trans priced
  rw [Option.some.injEq] at same
  rw [← same]
  exact setup.findShortestPathMulti_le consistent nonneg stamped reaches isGoal
    (along.keepsOrder whole (whole ▸ arrives))

/-! ## The price of a path -/

variable (setup) in
omit [IsStrictOrderedRing R] in
/-- A path costs its approach to the goal and the seed there. -/
theorem exists_approachCost {path : List Int} {total distance : R}
    (priced : costOfPathMulti setup.engine.earth setup.graph path
      (buildSeedTable sources setup.graph.vertexCount) setup.tables.goalSeed setup.tables.sourceBearing
      setup.tables.goalBearing setup.options = some (total, distance)) :
    exists back cost, path.getLast? = some back ∧
      setup.approachCost sources path (setup.tables.goalBearing back) = some cost ∧
      total = cost + setup.tables.goalSeed back := by
  cases path with
  | nil => cases priced
  | cons front rest =>
      have last : (front :: rest).getLast? = some ((front :: rest).getLastD front) := by
        rw [List.getLastD_eq_getLast?, List.getLast?_eq_some_getLast (List.cons_ne_nil front rest),
          Option.getD_some]
      unfold costOfPathMulti at priced
      simp only at priced
      split at priced
      · cases priced
      split at priced
      · cases priced
      rename_i enrouteCost enrouteDistance enroute
      cases priced
      refine ⟨_, _, last, ?_, rfl⟩
      rw [approachCost, enroute]
      rfl

variable (setup) in
omit [IsStrictOrderedRing R] in
theorem costOfPathMulti_of_approachCost {path : List Int} {front back : Int} {cost : R}
    (first : path.head? = some front) (last : path.getLast? = some back)
    (seeds : 0 ≤ buildSeedTable sources setup.graph.vertexCount front ∧ 0 ≤ setup.tables.goalSeed back)
    (priced : setup.approachCost sources path (setup.tables.goalBearing back) = some cost) :
    exists distance, costOfPathMulti setup.engine.earth setup.graph path
      (buildSeedTable sources setup.graph.vertexCount) setup.tables.goalSeed setup.tables.sourceBearing
      setup.tables.goalBearing setup.options = some (cost + setup.tables.goalSeed back, distance) := by
  cases path with
  | nil => cases first
  | cons head rest =>
      cases first
      have backEq : (front :: rest).getLastD front = back := by
        rw [List.getLastD_eq_getLast?, last, Option.getD_some]
      rcases Option.map_eq_some_iff.mp priced with ⟨⟨enrouteCost, enrouteDistance⟩, enroute, rfl⟩
      unfold costOfPathMulti
      simp only [backEq]
      rw [if_neg (not_or.mpr ⟨not_lt_of_ge seeds.1, not_lt_of_ge seeds.2⟩), enroute]
      exact ⟨_, rfl⟩

end SearchSetup
end BravoFinder
