import BravoFinder.Graph.TurnOrder
import BravoFinder.Graph.YenCost

namespace BravoFinder

/-!
# The order of the K-shortest results

The header promises ascending cost.  With the turn penalty on the search may drop
the heading that the rest of a path needs, and then a spur can find a cheaper
path than the one it spurs from.  Along paths whose order the turns keep nothing
is dropped: every spur search is an exact one, it answers with a cheapest
feasible path that continues its root by a step not taken yet, and so the results
come in ascending order.
-/

open Deviation

/-! ## Continuing a root -/

namespace KShortest

section Steps

variable {R : Type} [LinearOrder R] [NatCast R] [Zero R] [One R] [Neg R] [Add R] [Sub R] [Mul R]
  [Div R] (problem : KShortest R)

omit [NatCast R] [Add R] [Sub R] [Mul R] [Div R] in
/-- A goal of a spur keeps the seed it has for the caller. -/
theorem spurGoalSeed_eq {root : List Int} {taken : List (Option Int)} {v : Int}
    (elsewhere : none ∈ taken -> v ≠ spurNode root) :
    problem.spurGoalSeed root taken v = problem.base.tables.goalSeed v := by
  unfold spurGoalSeed
  split
  · rename_i ends
    exact Function.update_of_ne (elsewhere ends) _ _
  · rfl

omit [NatCast R] [Sub R] [Mul R] [Div R] in
/-- The search at the root's end may take the steps of a route that continues
the root by a step not taken yet. -/
theorem steps_nodeSearch {root tail : List Int} {taken : List (Option Int)} (nonempty : root ≠ [])
    (route : problem.base.Route problem.sources (root ++ tail)) (untaken : tail.head? ∉ taken)
    (takenInRange : forall v, some v ∈ taken -> problem.base.graph.InRange v) :
    (spurNode root :: tail).IsChain (problem.nodeSearch root taken).Step := by
  have split := eq_append_spurNode nonempty
  have whole : root ++ tail = root.dropLast ++ spurNode root :: tail := by
    conv_lhs => rw [split]
    rw [List.append_assoc, List.singleton_append]
  have distinct := route.nodup
  have chain := route.steps
  rw [whole] at distinct chain
  rcases List.nodup_append.mp distinct with ⟨_, tailDistinct, apart⟩
  have tailChain := (List.isChain_append.mp chain).2.1
  have bound : forall v, problem.base.graph.InRange v -> 0 ≤ v ∧ v < 2 ^ 31 := by
    intro v inRange
    have small := problem.base.graph.vertexCount_lt
    unfold NavGraph.InRange NavGraph.vertexCount at inRange
    omega
  have step : forall u v, problem.base.Step u v -> v ∈ tail ->
      (u = spurNode root -> some v ∉ taken) -> (problem.nodeSearch root taken).Step u v := by
    intro u v step member isOpen
    refine ⟨problem.unblocked_spurOptions.mpr ⟨fun early => ?_, step.node⟩,
      problem.unbanned_spurOptions.mpr ⟨fun banned => ?_, step.banned⟩, step.edge⟩
    · exact apart v early v (List.mem_cons_of_mem _ member) rfl
    · rcases List.mem_filterMap.mp banned with ⟨step, listed, key⟩
      cases step with
      | none => cases key
      | some target =>
          have vBound := bound v (route.inRange v (List.mem_append_right _ member))
          have targetBound := bound target (takenInRange target listed)
          rcases (edgeKey_inj targetBound.1 targetBound.2 vBound.1 vBound.2).mp
            (Option.some.inj key) with ⟨here, same⟩
          exact isOpen here.symm (same ▸ listed)
  cases tail with
  | nil => exact .singleton _
  | cons w rest =>
      rcases List.isChain_cons_cons.mp tailChain with ⟨first, others⟩
      refine List.isChain_cons_cons.mpr ⟨step _ _ first List.mem_cons_self fun _ => untaken, ?_⟩
      refine others.imp_of_mem_tail_imp fun u v uMember vMember inner => ?_
      refine step u v inner (List.mem_of_mem_tail vMember) fun same => ?_
      exact absurd (same ▸ uMember) (List.nodup_cons.mp tailDistinct).1

omit [NatCast R] [Sub R] [Mul R] [Div R] in
/-- A root with such a continuation is spurred. -/
theorem not_spurSkipped {root tail : List Int} {taken : List (Option Int)} (nonempty : root ≠ [])
    (route : problem.base.Route problem.sources (root ++ tail)) (untaken : tail.head? ∉ taken)
    (goalCount : problem.goalCount =
      problem.base.graph.vertices.countP fun v => decide (0 ≤ problem.base.tables.goalSeed v)) :
    ¬ problem.spurSkipped root taken := by
  rintro ⟨ends, nodeGoal, single⟩
  rcases route.ends with ⟨back, last, backGoal⟩
  have split := eq_append_spurNode nonempty
  have nodeMember : spurNode root ∈ root := by
    rw [split]
    exact List.mem_append_right _ (List.mem_singleton.mpr (by rw [← split]))
  cases tail with
  | nil => exact untaken ends
  | cons w rest =>
      rw [List.getLast?_append_of_ne_nil _ (List.cons_ne_nil w rest)] at last
      have backMember := List.mem_of_getLast? last
      have different : spurNode root ≠ back := by
        rintro same
        exact (List.nodup_append.mp route.nodup).2.2 _ nodeMember back backMember same
      have included : [spurNode root, back] ⊆ problem.base.graph.vertices.filter fun v =>
          decide (0 ≤ problem.base.tables.goalSeed v) := by
        intro v member
        rw [List.mem_filter, decide_eq_true_eq, NavGraph.mem_vertices]
        rcases List.mem_cons.mp member with same | later
        · rw [same]
          exact ⟨route.inRange _ (List.mem_append_left _ nodeMember), nodeGoal⟩
        · rw [List.mem_singleton.mp later]
          exact ⟨route.inRange _ (List.mem_append_right _ backMember), backGoal⟩
      have two := (List.subperm_of_subset (by simpa using different) included).length_le
      rw [goalCount, List.countP_eq_length_filter] at single
      simp only [List.length_cons, List.length_nil] at two
      omega

end Steps

variable {R : Type} [Field R] [LinearOrder R] [IsStrictOrderedRing R]

omit [IsStrictOrderedRing R] in
theorem consistent_nodeSearch {problem : KShortest R} (consistent : problem.base.Consistent)
    (root : List Int) (taken : List (Option Int)) : (problem.nodeSearch root taken).Consistent where
  goal v isGoal := by
    have known := problem.goal_of_spurGoalSeed isGoal
    have same := problem.spurGoalSeed_eq known.2
    exact (consistent.goal v known.1).trans (same ▸ le_rfl)
  edge := consistent.edge

variable (problem : KShortest R)

/-! ## What a spur charges -/

section

omit [IsStrictOrderedRing R]

/-- A spur enters its vertex as the root does. -/
theorem inboundAtSpur_eq {root : List Int} {front : Int} (first : root.head? = some front) :
    problem.inboundAtSpur root (root.length - 1) =
      arrivalBearing problem.base.engine.earth problem.base.graph
        (problem.base.tables.sourceBearing front) root := by
  rcases List.eq_nil_or_concat' root with rfl | ⟨before, v, rfl⟩
  · cases first
  · rcases List.eq_nil_or_concat' before with rfl | ⟨before, u, rfl⟩
    · cases first
      rfl
    · rw [List.append_assoc, List.singleton_append, arrivalBearing_concat]
      have length : (before ++ [u, v]).length - 1 = before.length + 1 := by
        simp only [List.length_append, List.length_cons, List.length_nil]
        omega
      have node : (before ++ [u, v]).getD (before.length + 1) kNoVertex = v := by
        rw [List.getD_eq_getElem?_getD, List.getElem?_append_right (Nat.le_add_right _ _),
          Nat.add_sub_cancel_left]
        rfl
      have previous : (before ++ [u, v]).getD before.length kNoVertex = u := by
        rw [List.getD_eq_getElem?_getD, List.getElem?_append_right (Nat.le_refl _), Nat.sub_self]
        rfl
      simp only [inboundAtSpur, length, Nat.add_one_ne_zero, if_false, Nat.add_sub_cancel, node, previous]

/-- The bans of a spur change no price. -/
theorem edgeCosts_of_nodeSearch {root : List Int} {taken : List (Option Int)} {path : List Int}
    {total result : R × R}
    (edges : edgeCosts problem.base.graph (problem.nodeSearch root taken).options path total = some result) :
    edgeCosts problem.base.graph problem.base.options path total = some result := by
  induction path generalizing total with
  | nil => exact edges
  | cons u rest inductionHypothesis =>
      cases rest with
      | nil => exact edges
      | cons v rest =>
          rw [edgeCosts] at edges ⊢
          split at edges
          · cases edges
          rename_i unbanned
          rw [Bool.not_eq_true] at unbanned
          rw [if_neg (by rw [(problem.unbanned_spurOptions.mp unbanned).2]; exact Bool.false_ne_true)]
          have sameEdge : selectEdge (problem.nodeSearch root taken).options problem.base.graph u v =
              selectEdge problem.base.options problem.base.graph u v := rfl
          rw [sameEdge] at edges
          split at edges
          · cases edges
          · exact inductionHypothesis edges

theorem nodeSource_nonneg {root : List Int} (source : SeededEndpoint R) (listed : source ∈ [nodeSource root]) :
    0 ≤ source.cost := by
  rw [List.mem_singleton.mp listed]
  exact le_rfl

theorem seed_nodeSource {root : List Int} (inRange : problem.base.graph.InRange (spurNode root)) :
    buildSeedTable [nodeSource (R := R) root] problem.base.graph.vertexCount (spurNode root) = 0 := by
  rcases (leastSeed_buildSeedTable problem.base.engine.sentinel_neg nodeSource_nonneg inRange).resolve_left
    fun unlisted => unlisted.2 _ (List.mem_singleton.mpr rfl) rfl with ⟨⟨source, listed, _, seed⟩, _⟩
  rw [← seed, List.mem_singleton.mp listed]
  rfl

end

/-- What a spur charges adds to the cost of its root. -/
theorem approachCost_stitch {root tail : List Int} {taken : List (Option Int)} (nonempty : root ≠ [])
    (rootApproach : problem.base.Approach problem.sources root)
    (tailApproach : (problem.nodeSearch root taken).Approach [nodeSource root] (spurNode root :: tail))
    {rootCost cost outbound : R}
    (rootPriced : problem.base.approachCost problem.sources root kNoBearing = some rootCost)
    (priced : (problem.nodeSearch root taken).approachCost [nodeSource root] (spurNode root :: tail) outbound =
      some cost) :
    problem.base.approachCost problem.sources (root ++ tail) outbound = some (rootCost + cost) := by
  have whole := problem.approach_stitch nonempty rootApproach tailApproach
  rcases rootApproach.starts with ⟨source, _, first⟩
  rcases rootApproach.exists_edgeCosts with ⟨rootEdges, rootDistance, rootSum⟩
  rcases tailApproach.exists_edgeCosts with ⟨tailEdges, tailDistance, tailSum⟩
  have sentinel : (kNoBearing : R) < 0 := problem.base.engine.sentinel_neg
  rw [problem.base.approachCost_eq_turns _ first rootApproach.unblocked rootSum,
    turnSum_concat_unknown _ sentinel, Option.some.injEq] at rootPriced
  rw [(problem.nodeSearch root taken).approachCost_eq_turns _ rfl tailApproach.unblocked tailSum,
    Option.some.injEq] at priced
  have split := eq_append_spurNode nonempty
  have joined : root ++ tail = root.dropLast ++ spurNode root :: tail := by
    conv_lhs => rw [split]
    rw [List.append_assoc, List.singleton_append]
  have edges : edgeCosts problem.base.graph problem.base.options (root ++ tail) (0, 0) =
      some (rootEdges + tailEdges, rootDistance + tailDistance) := by
    have shifted := edgeCosts_add problem.base.graph problem.base.options (spurNode root :: tail) rootEdges
      rootDistance 0 0
    rw [problem.edgeCosts_of_nodeSearch tailSum, add_zero, add_zero] at shifted
    rw [joined, edgeCosts_append, ← split, rootSum, Option.bind_some, shifted]
    rfl
  have bearings : edgeBearings problem.base.engine.earth problem.base.graph (root ++ tail) =
      edgeBearings problem.base.engine.earth problem.base.graph root ++
        edgeBearings problem.base.engine.earth problem.base.graph (spurNode root :: tail) := by
    rw [joined, edgeBearings_append, ← split]
  have entered : (problem.nodeSearch root taken).tables.sourceBearing (spurNode root) =
      problem.inboundAtSpur root (root.length - 1) := by
    simp only [nodeSearch, spurSetup, spurSourceBearing, Function.update_self]
  have inbound : (problem.nodeSearch root taken).tables.sourceBearing (spurNode root) =
      (edgeBearings problem.base.engine.earth problem.base.graph root).getLastD
        (problem.base.tables.sourceBearing source.vertex) :=
    entered.trans (problem.inboundAtSpur_eq first)
  have turns : turnSum problem.base.options.turnPenalty
      (problem.base.tables.sourceBearing source.vertex ::
        edgeBearings problem.base.engine.earth problem.base.graph (root ++ tail) ++ [outbound]) =
      turnSum problem.base.options.turnPenalty (problem.base.tables.sourceBearing source.vertex ::
        edgeBearings problem.base.engine.earth problem.base.graph root) +
      turnSum problem.base.options.turnPenalty
        ((problem.nodeSearch root taken).tables.sourceBearing (spurNode root) ::
          edgeBearings problem.base.engine.earth problem.base.graph (spurNode root :: tail) ++ [outbound]) := by
    rw [bearings, inbound, List.cons_append, List.append_assoc, ← List.cons_append, turnSum_join]
    rfl
  rw [problem.base.approachCost_eq_turns _ (by rw [List.head?_append_of_ne_nil _ nonempty, first])
    whole.unblocked edges, turns, ← rootPriced, ← priced]
  have noSeed : buildSeedTable [nodeSource (R := R) root]
      (problem.nodeSearch root taken).graph.vertexCount (spurNode root) = 0 :=
    problem.seed_nodeSource (tailApproach.inRange _ List.mem_cons_self)
  rw [noSeed, zero_add, add_add_add_comm rootEdges, ← add_assoc]
  rfl

/-- The turns keep the order along what is left of a path after a root. -/
theorem keepsOrderAlong_nodeSearch {root tail : List Int} {taken : List (Option Int)} (nonempty : root ≠ [])
    (rootApproach : problem.base.Approach problem.sources root)
    (tailApproach : (problem.nodeSearch root taken).Approach [nodeSource root] (spurNode root :: tail))
    (along : problem.base.KeepsOrderAlong problem.sources (root ++ tail)) :
    (problem.nodeSearch root taken).KeepsOrderAlong [nodeSource root] (spurNode root :: tail) := by
  rcases rootApproach.starts with ⟨source, _, first⟩
  rcases rootApproach.exists_edgeCosts with ⟨_, _, rootEdges⟩
  obtain ⟨rootCost, rootPriced⟩ : exists rootCost,
      problem.base.approachCost problem.sources root kNoBearing = some rootCost :=
    ⟨_, problem.base.approachCost_eq problem.sources first rootApproach.unblocked rootEdges kNoBearing⟩
  intro before u after other whole otherApproach cost less costOn lessOn here otherHere on otherOn le
  -- An approach of the spur, and what it is along the root.
  have joins : forall front, (problem.nodeSearch root taken).Approach [nodeSource root] (front ++ [u]) ->
      exists stitched, problem.base.Approach problem.sources (stitched ++ [u]) ∧
        stitched = root.dropLast ++ front ∧
        forall outbound price,
          (problem.nodeSearch root taken).approachCost [nodeSource root] (front ++ [u]) outbound = some price ->
          problem.base.approachCost problem.sources (stitched ++ [u]) outbound = some (rootCost + price) := by
    intro front approach
    rcases approach.starts with ⟨node, listed, starts⟩
    rw [List.mem_singleton.mp listed] at starts
    obtain ⟨rest, restEq⟩ : exists rest, front ++ [u] = spurNode root :: rest := by
      cases split : front ++ [u] with
      | nil => exact absurd split (List.append_ne_nil_of_right_ne_nil _ (List.cons_ne_nil _ _))
      | cons head rest =>
          rw [split] at starts
          cases starts
          exact ⟨rest, rfl⟩
    have joined : root.dropLast ++ front ++ [u] = root ++ rest := by
      rw [List.append_assoc, restEq, ← stitch_spurNode nonempty rest, stitch]
    rw [restEq] at approach
    refine ⟨root.dropLast ++ front, ?_, rfl, fun outbound price priced => ?_⟩
    · rw [joined]
      exact problem.approach_stitch nonempty rootApproach approach
    · rw [restEq] at priced
      rw [joined]
      exact problem.approachCost_stitch nonempty rootApproach approach rootPriced priced
  have beforeApproach : (problem.nodeSearch root taken).Approach [nodeSource root] (before ++ [u]) := by
    rw [whole] at tailApproach
    exact tailApproach.before
  rcases joins before beforeApproach with ⟨_, _, rfl, price⟩
  rcases joins other otherApproach with ⟨_, stitchedApproach, rfl, otherPrice⟩
  have wholePath : root ++ tail = root.dropLast ++ before ++ u :: after := by
    rw [List.append_assoc, ← whole, ← stitch_spurNode nonempty tail, stitch]
  have kept := along _ u after _ wholePath stitchedApproach _ _ _ _ (price _ _ here) (otherPrice _ _ otherHere)
    (price _ _ on) (otherPrice _ _ otherOn) (add_le_add_right le _)
  exact le_of_add_le_add_left kept

/-! ## What a spur finds -/

omit [IsStrictOrderedRing R] in
/-- A route begins with an approach of every root of it. -/
theorem approach_root {root tail : List Int} (nonempty : root ≠ [])
    (route : problem.base.Route problem.sources (root ++ tail)) :
    problem.base.Approach problem.sources root := by
  have split := eq_append_spurNode nonempty
  have approach := route.approach
  rw [split, List.append_assoc, List.singleton_append] at approach
  rw [split]
  exact approach.before

omit [IsStrictOrderedRing R] in
/-- A path that continues a root by a step not taken yet is a route of the spur's
search, with the goal's own seed. -/
theorem route_tail {root tail : List Int} {taken : List (Option Int)} (nonempty : root ≠ [])
    (takenInRange : forall v, some v ∈ taken -> problem.base.graph.InRange v)
    (route : problem.base.Route problem.sources (root ++ tail)) (untaken : tail.head? ∉ taken) {back : Int}
    (last : (root ++ tail).getLast? = some back) :
    (problem.nodeSearch root taken).Route [nodeSource root] (spurNode root :: tail) ∧
      (spurNode root :: tail).getLast? = some back ∧
      (problem.nodeSearch root taken).tables.goalSeed back = problem.base.tables.goalSeed back := by
  have whole : root ++ tail = root.dropLast ++ spurNode root :: tail := by
    conv_lhs => rw [eq_append_spurNode nonempty]
    rw [List.append_assoc, List.singleton_append]
  have distinct := route.nodup
  rw [whole] at distinct
  rcases List.nodup_append.mp distinct with ⟨_, tailDistinct, apart⟩
  have member : forall {v}, v ∈ spurNode root :: tail -> v ∈ root ++ tail := fun member =>
    whole ▸ List.mem_append_right _ member
  have tailLast : (spurNode root :: tail).getLast? = some back := by
    rw [whole, List.getLast?_append_of_ne_nil _ (List.cons_ne_nil _ _)] at last
    exact last
  have goalOpen : none ∈ taken -> back ≠ spurNode root := by
    intro ends same
    cases tail with
    | nil => exact untaken ends
    | cons w rest =>
        rw [List.getLast?_cons_cons] at tailLast
        exact (List.nodup_cons.mp tailDistinct).1 (same ▸ List.mem_of_getLast? tailLast)
  have goalSeed := problem.spurGoalSeed_eq goalOpen
  rcases route.ends with ⟨goal, goalLast, isGoal⟩
  cases Option.some.inj (goalLast.symm.trans last)
  refine ⟨⟨List.cons_ne_nil _ _, tailDistinct, fun v inTail => route.inRange v (member inTail), fun v inTail => ?_,
    ⟨nodeSource root, List.mem_singleton.mpr rfl, rfl⟩, ⟨back, tailLast, isGoal.trans_eq goalSeed.symm⟩,
    problem.steps_nodeSearch nonempty route untaken takenInRange⟩, tailLast, goalSeed⟩
  exact problem.unblocked_spurOptions.mpr
    ⟨fun early => apart v early v inTail rfl, route.unblocked v (member inTail)⟩

/-- What a spur that is found adds to the price of its root. -/
theorem approachCost_nodeSpur {root : List Int} {taken : List (Option Int)} (nonempty : root ≠ [])
    (rootApproach : problem.base.Approach problem.sources root) {rootCost : R}
    (rootPriced : problem.base.approachCost problem.sources root kNoBearing = some rootCost)
    (found : (problem.spurTail root taken).found = true) :
    exists spurBack spurCost,
      (stitch root (problem.spurTail root taken).vertices).getLast? = some spurBack ∧
      0 ≤ problem.base.tables.goalSeed spurBack ∧
      problem.base.approachCost problem.sources (stitch root (problem.spurTail root taken).vertices)
        (problem.base.tables.goalBearing spurBack) = some (rootCost + spurCost) ∧
      (problem.spurTail root taken).cost = spurCost + problem.base.tables.goalSeed spurBack := by
  rcases problem.route_of_nodeSpur nonempty found with ⟨_, searched, spurRoute⟩
  have priced := (problem.nodeSearch root taken).costOfPathMulti_of_found nodeSource_nonneg
    SearchWorkspace.stamped_empty (searched ▸ found)
  rw [← searched] at priced
  rcases (problem.nodeSearch root taken).exists_approachCost priced with
    ⟨spurBack, spurCost, spurLast, spurPriced, total⟩
  rcases problem.nodeSpur_tail nonempty found with ⟨rest, vertices, _⟩
  rcases spurRoute.ends with ⟨spurGoal, spurGoalLast, spurIsGoal⟩
  cases Option.some.inj (spurGoalLast.symm.trans spurLast)
  rcases problem.goal_of_spurGoalSeed spurIsGoal with ⟨known, elsewhere⟩
  have spurSeed : (problem.nodeSearch root taken).tables.goalSeed spurBack =
      problem.base.tables.goalSeed spurBack := problem.spurGoalSeed_eq elsewhere
  rw [spurSeed] at total
  rw [vertices] at spurRoute spurPriced spurLast
  refine ⟨spurBack, spurCost, ?_, known, ?_, total⟩
  · rw [vertices, stitch, List.getLast?_append_of_ne_nil _ (List.cons_ne_nil _ _), spurLast]
  · rw [vertices, stitch_spurNode nonempty]
    exact problem.approachCost_stitch nonempty rootApproach spurRoute.approach rootPriced spurPriced

/-- The spur at the end of a root is no dearer than a path that continues it by a
step not taken yet. -/
theorem nodeSpur_le {root tail : List Int} {taken : List (Option Int)} (nonempty : root ≠ [])
    (takenInRange : forall v, some v ∈ taken -> problem.base.graph.InRange v)
    (consistent : problem.base.Consistent)
    (goalCount : problem.goalCount =
      problem.base.graph.vertices.countP fun v => decide (0 ≤ problem.base.tables.goalSeed v))
    (route : problem.base.Route problem.sources (root ++ tail)) (untaken : tail.head? ∉ taken)
    (along : problem.base.KeepsOrderAlong problem.sources (root ++ tail)) {back : Int} {cost : R}
    (last : (root ++ tail).getLast? = some back)
    (priced : problem.base.approachCost problem.sources (root ++ tail)
      (problem.base.tables.goalBearing back) = some cost) :
    (problem.spurTail root taken).found = true ∧
      exists spurBack spurCost,
        (stitch root (problem.spurTail root taken).vertices).getLast? = some spurBack ∧
        0 ≤ problem.base.tables.goalSeed spurBack ∧
        problem.base.approachCost problem.sources (stitch root (problem.spurTail root taken).vertices)
          (problem.base.tables.goalBearing spurBack) = some spurCost ∧
        spurCost + problem.base.tables.goalSeed spurBack ≤ cost + problem.base.tables.goalSeed back := by
  have searched : problem.spurTail root taken =
      ((problem.nodeSearch root taken).findShortestPathMulti [nodeSource root] .empty).1 := by
    rw [spurTail, if_neg (fun empty => nonempty (List.isEmpty_iff.mp empty)),
      if_neg (problem.not_spurSkipped nonempty route untaken goalCount)]
  -- The path splits into its root and an approach of the spur.
  have rootApproach := problem.approach_root nonempty route
  rcases problem.route_tail nonempty takenInRange route untaken last with ⟨tailRoute, tailLast, goalSeed⟩
  have tailApproach := tailRoute.approach
  rcases rootApproach.starts with ⟨source, _, first⟩
  rcases rootApproach.exists_edgeCosts with ⟨_, _, rootEdges⟩
  rcases tailApproach.exists_edgeCosts with ⟨_, _, tailEdges⟩
  obtain ⟨rootCost, rootPriced⟩ : exists rootCost,
      problem.base.approachCost problem.sources root kNoBearing = some rootCost :=
    ⟨_, problem.base.approachCost_eq problem.sources first rootApproach.unblocked rootEdges kNoBearing⟩
  obtain ⟨tailCost, tailPriced⟩ : exists tailCost, (problem.nodeSearch root taken).approachCost
      [nodeSource root] (spurNode root :: tail) (problem.base.tables.goalBearing back) = some tailCost :=
    ⟨_, (problem.nodeSearch root taken).approachCost_eq _ rfl tailApproach.unblocked tailEdges _⟩
  have sum := priced.symm.trans (problem.approachCost_stitch nonempty rootApproach tailApproach rootPriced
    tailPriced)
  rw [Option.some.injEq] at sum
  -- The search is no dearer than that approach, and its path continues the root.
  rcases (problem.nodeSearch root taken).findShortestPathMulti_le_of_route
    (consistent_nodeSearch consistent root taken) nodeSource_nonneg SearchWorkspace.stamped_empty tailRoute
    (problem.keepsOrderAlong_nodeSearch nonempty rootApproach tailApproach along) tailLast tailPriced with
    ⟨found, bound⟩
  rw [← searched] at found bound
  rcases problem.approachCost_nodeSpur nonempty rootApproach rootPriced found with
    ⟨spurBack, spurCost, spurLast, known, spurPriced, total⟩
  refine ⟨found, spurBack, rootCost + spurCost, spurLast, known, spurPriced, ?_⟩
  rw [total, goalSeed] at bound
  rw [sum, add_assoc, add_assoc]
  exact add_le_add_right bound rootCost

omit [IsStrictOrderedRing R] in
/-- The sources of a spur at the super-source keep their seeds. -/
theorem seed_openSources (nonneg : forall source, source ∈ problem.sources -> 0 ≤ source.cost)
    {taken : List (Option Int)} {v : Int} (inRange : problem.base.graph.InRange v)
    (untaken : some v ∉ taken) (listed : exists source, source ∈ problem.sources ∧ source.vertex = v) :
    buildSeedTable (problem.openSources taken) problem.base.graph.vertexCount v =
      buildSeedTable problem.sources problem.base.graph.vertexCount v := by
  have included : forall source, source ∈ problem.openSources taken -> source ∈ problem.sources :=
    fun source member => (List.mem_filter.mp member).1
  have kept : forall source, source ∈ problem.sources -> source.vertex = v ->
      source ∈ problem.openSources taken := fun source member same =>
    List.mem_filter.mpr ⟨member, decide_eq_true (same ▸ untaken)⟩
  rcases listed with ⟨source, member, same⟩
  rcases (leastSeed_buildSeedTable problem.base.engine.sentinel_neg nonneg inRange).resolve_left
    fun unlisted => unlisted.2 source member same with ⟨⟨least, leastMember, leastSame, seed⟩, _, below⟩
  rcases (leastSeed_buildSeedTable problem.base.engine.sentinel_neg
    (fun source member => nonneg source (included source member)) inRange).resolve_left
    fun unlisted => unlisted.2 source (kept source member same) same with
    ⟨⟨first, firstMember, firstSame, firstSeed⟩, _, firstBelow⟩
  apply le_antisymm
  · rw [← seed]
    exact firstBelow least (kept least leastMember leastSame) leastSame
  · rw [← firstSeed]
    exact below first (included first firstMember) firstSame

omit [IsStrictOrderedRing R] in
theorem approachCost_openSources (nonneg : forall source, source ∈ problem.sources -> 0 ≤ source.cost)
    {taken : List (Option Int)} {path : List Int}
    (approach : problem.base.Approach (problem.openSources taken) path) (outbound : R) :
    problem.base.approachCost (problem.openSources taken) path outbound =
      problem.base.approachCost problem.sources path outbound := by
  rcases approach.starts with ⟨source, listed, first⟩
  rcases List.mem_filter.mp listed with ⟨member, isOpen⟩
  have same := problem.seed_openSources nonneg (approach.inRange _ (List.mem_of_head? first))
    (of_decide_eq_true isOpen) ⟨source, member, rfl⟩
  cases path with
  | nil => cases first
  | cons front rest =>
      cases first
      simp only [SearchSetup.approachCost, same]

/-- The spur at the super-source is no dearer than a path from another source. -/
theorem sourceSpur_le (nonneg : forall source, source ∈ problem.sources -> 0 ≤ source.cost)
    (consistent : problem.base.Consistent) {path : List Int} {taken : List (Option Int)}
    (route : problem.base.Route problem.sources path) (untaken : path.head? ∉ taken)
    (along : problem.base.KeepsOrderAlong problem.sources path) {back : Int} {cost : R}
    (last : path.getLast? = some back)
    (priced : problem.base.approachCost problem.sources path (problem.base.tables.goalBearing back) =
      some cost) :
    (problem.spurTail [] taken).found = true ∧
      exists spurBack spurCost, (problem.spurTail [] taken).vertices.getLast? = some spurBack ∧
        0 ≤ problem.base.tables.goalSeed spurBack ∧
        problem.base.approachCost problem.sources (problem.spurTail [] taken).vertices
          (problem.base.tables.goalBearing spurBack) = some spurCost ∧
        spurCost + problem.base.tables.goalSeed spurBack ≤ cost + problem.base.tables.goalSeed back := by
  have included : forall source, source ∈ problem.openSources taken -> source ∈ problem.sources :=
    fun source member => (List.mem_filter.mp member).1
  have openNonneg : forall source, source ∈ problem.openSources taken -> 0 ≤ source.cost :=
    fun source member => nonneg source (included source member)
  have openRoute : problem.base.Route (problem.openSources taken) path := by
    refine ⟨route.nonempty, route.nodup, route.inRange, route.unblocked, ?_, route.ends, route.steps⟩
    rcases route.starts with ⟨source, listed, first⟩
    exact ⟨source, List.mem_filter.mpr ⟨listed, decide_eq_true (first ▸ untaken)⟩, first⟩
  have openAlong : problem.base.KeepsOrderAlong (problem.openSources taken) path := by
    intro before u after other whole otherApproach cost less costOn lessOn here otherHere on otherOn
    have approach := openRoute.approach
    rw [whole] at approach
    rw [problem.approachCost_openSources nonneg approach.before] at here on
    rw [problem.approachCost_openSources nonneg otherApproach] at otherHere otherOn
    exact along before u after other whole (otherApproach.mono included) _ _ _ _ here otherHere on otherOn
  have openPriced := (problem.approachCost_openSources nonneg openRoute.approach _).trans priced
  have bound := problem.base.findShortestPathMulti_le_of_route consistent openNonneg
    SearchWorkspace.stamped_empty openRoute openAlong last openPriced
  have foundPriced := problem.base.costOfPathMulti_of_found openNonneg SearchWorkspace.stamped_empty bound.1
  have foundRoute := problem.base.isRoute_of_found (problem.openSources taken) SearchWorkspace.stamped_empty
    bound.1
  rcases problem.base.exists_approachCost foundPriced with ⟨spurBack, spurCost, spurLast, spurPriced, total⟩
  rcases foundRoute.ends with ⟨spurGoal, spurGoalLast, isGoal⟩
  cases Option.some.inj (spurGoalLast.symm.trans spurLast)
  refine ⟨bound.1, spurBack, spurCost, spurLast, isGoal, ?_, total ▸ bound.2⟩
  exact (problem.approachCost_openSources nonneg foundRoute.approach _).symm.trans spurPriced

end KShortest

/-! ## Queries whose order the turns keep -/

variable {R : Type} [Field R] [LinearOrder R] [IsStrictOrderedRing R]

/-- What is assumed of `MultiGoalHeuristic`. -/
structure ConsistentHeuristic (engine : Engine R) (graph : NavGraph R R)
    (goals : List (SeededEndpoint R)) (options : SearchOptions R) : Prop where
  goal : forall goal, goal ∈ goals -> graph.InRange goal.vertex ->
    multiGoalHeuristic engine graph goals goal.vertex ≤ goal.cost
  edge : forall u edge extraCost, graph.InRange u -> edge ∈ graph.edgesFrom u ->
    edgeAllowed options graph edge u = some extraCost ->
    multiGoalHeuristic engine graph goals u ≤
      ((edge.distanceNm + extraCost : R) : WithTop R) +
        multiGoalHeuristic engine graph goals edge.toVertex

/-- On every path a query may return the turns keep the order: at each of its
vertices an approach that is no dearer stays no dearer over its next step. -/
def TurnsKeepOrder (engine : Engine R) (graph : NavGraph R R) (sources goals : List (SeededEndpoint R))
    (options : SearchOptions R) : Prop :=
  forall path, FeasiblePath graph sources goals options path ->
    (searchSetup engine graph sources goals options).KeepsOrderAlong sources path

/-- A query whose order the turns keep, with no negative seed and a consistent
heuristic. -/
structure OrderedQuery (engine : Engine R) (graph : NavGraph R R)
    (sources goals : List (SeededEndpoint R)) (options : SearchOptions R) : Prop where
  sourcesNonneg : forall source, source ∈ sources -> 0 ≤ source.cost
  goalsNonneg : forall goal, goal ∈ goals -> 0 ≤ goal.cost
  heuristic : ConsistentHeuristic engine graph goals options
  turns : TurnsKeepOrder engine graph sources goals options

namespace OrderedQuery

variable {engine : Engine R} {graph : NavGraph R R} {sources goals : List (SeededEndpoint R)}
  {options : SearchOptions R} (query : OrderedQuery engine graph sources goals options)

include query

section

omit [IsStrictOrderedRing R]

theorem consistent (endpoints : List (SeededEndpoint R)) :
    (searchSetup engine graph endpoints goals options).Consistent where
  goal v isGoal := by
    have inRange : graph.InRange v := inRange_of_buildSeedTable engine.sentinel_neg isGoal
    rcases leastSeed_buildSeedTable engine.sentinel_neg query.goalsNonneg inRange with
      ⟨negative, _⟩ | ⟨⟨goal, listed, rfl, cost⟩, _, _⟩
    · exact absurd isGoal (not_le_of_gt negative)
    · have bound := query.heuristic.goal goal listed inRange
      rw [cost] at bound
      exact bound
  edge := query.heuristic.edge

theorem route_iff (path : List Int) :
    (kShortest engine graph sources goals options).base.Route sources path ↔
      FeasiblePath graph sources goals options path :=
  route_iff_feasiblePath engine sources query.goalsNonneg path

/-- A feasible path has a price, which is that of its approach and the seed of
its goal. -/
theorem exists_price {path : List Int} (feasible : FeasiblePath graph sources goals options path)
    {back : Int} {cost : R} (last : path.getLast? = some back)
    (priced : (kShortest engine graph sources goals options).base.approachCost sources path
      ((kShortest engine graph sources goals options).base.tables.goalBearing back) = some cost) :
    exists distance, (kShortest engine graph sources goals options).pathCost path =
      some (cost + (kShortest engine graph sources goals options).base.tables.goalSeed back, distance) := by
  have route := (query.route_iff path).mpr feasible
  rcases route.starts with ⟨source, listed, first⟩
  rcases route.ends with ⟨goal, goalLast, isGoal⟩
  cases Option.some.inj (goalLast.symm.trans last)
  have inRange : graph.InRange source.vertex := route.inRange _ (List.mem_of_head? first)
  rcases (leastSeed_buildSeedTable engine.sentinel_neg query.sourcesNonneg inRange).resolve_left
    fun unlisted => unlisted.2 source listed rfl with ⟨_, known, _⟩
  exact (kShortest engine graph sources goals options).base.costOfPathMulti_of_approachCost first last
    ⟨known, isGoal⟩ priced

end

/-- A feasible path is ranked by its approach to its goal. -/
theorem exists_approach {path : List Int} (feasible : FeasiblePath graph sources goals options path) :
    exists back cost, path.getLast? = some back ∧
      (kShortest engine graph sources goals options).base.approachCost sources path
        ((kShortest engine graph sources goals options).base.tables.goalBearing back) = some cost ∧
      (kShortest engine graph sources goals options).deviation.price
          ((kShortest engine graph sources goals options).deviation.label path) =
        cost + (kShortest engine graph sources goals options).base.tables.goalSeed back := by
  have route := (query.route_iff path).mpr feasible
  rcases route.starts with ⟨source, _, first⟩
  rcases route.ends with ⟨back, last, _⟩
  rcases route.approach.exists_edgeCosts with ⟨_, _, edges⟩
  have priced := (kShortest engine graph sources goals options).base.approachCost_eq sources first
    route.unblocked edges ((kShortest engine graph sources goals options).base.tables.goalBearing back)
  rcases query.exists_price feasible last priced with ⟨distance, price⟩
  refine ⟨back, _, last, priced, ?_⟩
  simp only [KShortest.deviation, price, Option.getD_some]

/-- The first search is no dearer than any feasible path. -/
theorem first_le {path : List Int} (feasible : FeasiblePath graph sources goals options path) :
    (findShortestPathMulti engine graph sources goals options).found = true ∧
      (findShortestPathMulti engine graph sources goals options).cost ≤
        (kShortest engine graph sources goals options).deviation.price
          ((kShortest engine graph sources goals options).deviation.label path) := by
  rcases query.exists_approach feasible with ⟨back, cost, last, priced, price⟩
  rw [price]
  exact (kShortest engine graph sources goals options).base.findShortestPathMulti_le_of_route
    (query.consistent sources) query.sourcesNonneg SearchWorkspace.stamped_empty
    ((query.route_iff path).mpr feasible) (query.turns path feasible) last priced

/-- The path problem of the query has an exact spur search. -/
theorem exact_deviation :
    Deviation.Problem.Exact (kShortest engine graph sources goals options).deviation
      (FeasiblePath graph sources goals options) where
  feasible := by
    intro root taken path source feasible shares answer
    exact (query.route_iff path).mp ((kShortest engine graph sources goals options).route_of_spurAnswer
      ((query.route_iff source).mpr feasible) shares answer)
  least := by
    intro root taken source other sourceFeasible sourceShares takenFeasible feasible shares untaken
    have takenInRange : forall v, some v ∈ taken -> graph.InRange v := by
      intro v member
      rcases takenFeasible _ member with ⟨path, pathFeasible, step⟩
      exact pathFeasible.inRange v (List.mem_of_getElem? step)
    rcases shares with ⟨tail, rfl⟩
    rw [KShortest.next_append] at untaken
    rcases query.exists_approach feasible with ⟨back, cost, last, priced, price⟩
    have route := (query.route_iff _).mpr feasible
    have along := query.turns _ feasible
    have cheaper : ((kShortest engine graph sources goals options).spurTail root taken).found = true ∧
        exists spurBack spurCost, (KShortest.stitch root
            ((kShortest engine graph sources goals options).spurTail root taken).vertices).getLast? =
          some spurBack ∧
          0 ≤ (kShortest engine graph sources goals options).base.tables.goalSeed spurBack ∧
          (kShortest engine graph sources goals options).base.approachCost sources
            (KShortest.stitch root
              ((kShortest engine graph sources goals options).spurTail root taken).vertices)
            ((kShortest engine graph sources goals options).base.tables.goalBearing spurBack) =
            some spurCost ∧
          spurCost + (kShortest engine graph sources goals options).base.tables.goalSeed spurBack ≤
            cost + (kShortest engine graph sources goals options).base.tables.goalSeed back := by
      by_cases nonempty : root = []
      · subst nonempty
        exact (kShortest engine graph sources goals options).sourceSpur_le query.sourcesNonneg
          (query.consistent sources) route untaken along last priced
      · exact (kShortest engine graph sources goals options).nodeSpur_le nonempty takenInRange
          (query.consistent sources) rfl route untaken along last priced
    rcases cheaper with ⟨found, spurBack, spurCost, spurLast, _, spurPriced, below⟩
    have stitched := (query.route_iff _).mp ((kShortest engine graph sources goals options).route_of_spurTail
      ((query.route_iff source).mpr sourceFeasible) sourceShares found)
    rcases query.exists_price stitched spurLast spurPriced with ⟨distance, spurPrice⟩
    have someVertex : ((kShortest engine graph sources goals options).spurTail root
        taken).vertices.isEmpty = false := by
      rw [List.isEmpty_eq_false_iff]
      by_cases nonempty : root = []
      · subst nonempty
        exact stitched.nonempty
      · exact ((kShortest engine graph sources goals options).route_of_nodeSpur nonempty
          found).2.2.nonempty
    refine ⟨KShortest.stitch root
      ((kShortest engine graph sources goals options).spurTail root taken).vertices, ?_, ?_⟩
    · simp only [KShortest.deviation, KShortest.spurAnswer, found, someVertex, spurPrice, Bool.not_true,
        Bool.or_self, Bool.false_eq_true, if_false, Option.isSome_some, if_true]
    · rw [price]
      simp only [KShortest.deviation, spurPrice, Option.getD_some]
      exact below

/-- The first path starts a run that accepts cheapest paths only. -/
theorem cheapest_first (found : (findShortestPathMulti engine graph sources goals options).found = true) :
    Deviation.Problem.Cheapest (kShortest engine graph sources goals options).deviation
      (FeasiblePath graph sources goals options)
      ((kShortest engine graph sources goals options).deviation.initial
        (KShortest.entry (findShortestPathMulti engine graph sources goals options))) :=
  Deviation.Problem.cheapest_initial
    ((query.route_iff _).mp (SearchSetup.isRoute_of_found (searchSetup engine graph sources goals options)
      sources SearchWorkspace.stamped_empty found))
    (fun _ feasible => (query.first_le feasible).2)

end OrderedQuery

/-! ## Ascending cost -/

/-- There the way from fix 2 reaches fix 1 cheaper than the one from fix 0, and
leaves it dearer. -/
theorem not_turnsKeepOrder_line : ¬ TurnsKeepOrder lineEngine lineGraph [lineEndpoint 0, lineEndpoint 2]
    [lineEndpoint 3] (lineOptions true) := by
  intro keeps
  have step : forall {u v}, (u, v) ∈ [((0 : Int), (1 : Int)), (1, 3), (2, 1)] ->
      AllowedStep lineGraph (lineOptions true) u v := by
    intro u v listed
    simp only [List.mem_cons, List.not_mem_nil, or_false, Prod.mk.injEq] at listed
    rcases listed with ⟨rfl, rfl⟩ | ⟨rfl, rfl⟩ | ⟨rfl, rfl⟩
    · exact ⟨rfl, lineEdge 1 120, by decide, rfl, rfl⟩
    · exact ⟨rfl, lineEdge 3 180, by decide, rfl, rfl⟩
    · exact ⟨rfl, lineEdge 1 60, by decide, rfl, rfl⟩
  have straight : FeasiblePath lineGraph [lineEndpoint 0, lineEndpoint 2] [lineEndpoint 3] (lineOptions true)
      [0, 1, 3] :=
    ⟨by decide, by decide, by decide, by decide, ⟨lineEndpoint 0, by decide, rfl⟩,
      ⟨lineEndpoint 3, by decide, rfl⟩, .cons_cons (step (by decide)) (.cons_cons (step (by decide)) (.singleton _))⟩
  have turnsBack : (searchSetup lineEngine lineGraph [lineEndpoint 0, lineEndpoint 2] [lineEndpoint 3]
      (lineOptions true)).Approach [lineEndpoint 0, lineEndpoint 2] [2, 1] := by
    refine ⟨by decide, by decide, by decide, ⟨lineEndpoint 2, by decide, rfl⟩, ?_⟩
    have two := step (u := 2) (v := 1) (by decide)
    exact .cons_cons ⟨by decide, two.1, two.2⟩ (.singleton _)
  have kept := keeps [0, 1, 3] straight [0] 1 [3] [2] rfl turnsBack 120 60 120 260 (by decide +kernel)
    (by decide +kernel) (by decide +kernel) (by decide +kernel) (by norm_num)
  norm_num at kept

/-- On the line an edge is as long as the chord over it. -/
theorem consistentHeuristic_line {goal : SeededEndpoint ℚ} {turns : Bool}
    (atGoal : multiGoalHeuristic lineEngine lineGraph [goal] goal.vertex ≤ goal.cost)
    (overEdges : forall u, u ∈ lineGraph.vertices -> forall edge, edge ∈ lineGraph.edgesFrom u ->
      multiGoalHeuristic lineEngine lineGraph [goal] u ≤
        (edge.distanceNm : WithTop ℚ) + multiGoalHeuristic lineEngine lineGraph [goal] edge.toVertex) :
    ConsistentHeuristic lineEngine lineGraph [goal] (lineOptions turns) where
  goal := by
    intro other listed _
    rw [List.mem_singleton.mp listed]
    exact atGoal
  edge := by
    intro u edge extraCost inRange listed allowed
    have free : extraCost = 0 := (Option.some.inj allowed).symm
    rw [free, add_zero]
    exact overEdges u ((lineGraph.mem_vertices u).mpr inRange) edge listed

end BravoFinder
