import BravoFinder.Graph.StitchedCost
import Mathlib.Algebra.Order.Field.Basic

namespace BravoFinder

/-!
# The search is optimal along walks that keep their order

With a consistent heuristic the search returns a goal that is as cheap as any it
could reach by a walk whose order the turns keep: at no vertex of the walk does
an approach that is no dearer become dearer over the next step.  Without turns
that is every walk.  The argument is the classical one.  A vertex on such a walk
that is not yet closed has a queued vertex ahead of it whose estimate is no
larger (`Frontier.exists_queued`); so the vertex with the least estimate is closed
at no more than the cost of the walk, and once no estimate can beat the best
total nothing cheaper is left.
-/

namespace SearchSetup

variable {R : Type} [Field R] [LinearOrder R] [IsStrictOrderedRing R] (setup : SearchSetup R)

/-! ## Approaches -/

/-- An approach to a vertex, with its heading there and its cost. -/
structure Arrives (sources : List (SeededEndpoint R)) (path : List Int) (v : Int) (heading cost : R) :
    Prop where
  approach : setup.Approach sources path
  last : path.getLast? = some v
  priced : exists front edgesCost distance, path.head? = some front ∧
    edgeCosts setup.graph setup.options path (0, 0) = some (edgesCost, distance) ∧
    heading = arrivalBearing setup.engine.earth setup.graph (setup.tables.sourceBearing front) path ∧
    cost = buildSeedTable sources setup.graph.vertexCount front + setup.costTo front path edgesCost

/-- Whatever approaches a vertex no dearer than at this cost stays no dearer
after the turn onto a heading out of it. -/
def KeepsOrder (sources : List (SeededEndpoint R)) (v : Int) (heading cost outbound : R) : Prop :=
  forall path other less, setup.Arrives sources path v other less -> less ≤ cost ->
    less + setup.turnCharge other outbound ≤ cost + setup.turnCharge heading outbound

/-- A walk from a source whose order the turns keep reaches a vertex on a heading
at a cost.  It may repeat vertices. -/
inductive Reaches (sources : List (SeededEndpoint R)) : Int -> R -> R -> Prop
  | source {source : SeededEndpoint R} : source ∈ sources -> setup.graph.InRange source.vertex ->
      setup.options.nodeFilter.blocks source.vertex = false ->
      Reaches sources source.vertex (setup.tables.sourceBearing source.vertex) source.cost
  | edge {u : Int} {heading cost : R} {edge : GraphEdge R} {extraCost : R} :
      Reaches sources u heading cost -> edge ∈ setup.graph.edgesFrom u ->
      setup.Usable u edge extraCost ->
      setup.KeepsOrder sources u heading cost
        (setup.engine.earth.bearingTo (setup.graph.coordOf u) (setup.graph.coordOf edge.toVertex)) ->
      Reaches sources edge.toVertex
        (setup.engine.earth.bearingTo (setup.graph.coordOf u) (setup.graph.coordOf edge.toVertex))
        (cost + (edge.distanceNm + extraCost + setup.turnCharge heading
          (setup.engine.earth.bearingTo (setup.graph.coordOf u) (setup.graph.coordOf edge.toVertex))))

/-- What is assumed of the heuristic: no goal is estimated above its seed, and no
edge lowers the estimate by more than it costs. -/
structure Consistent : Prop where
  goal : forall v, 0 ≤ setup.tables.goalSeed v -> setup.heuristic v ≤ setup.tables.goalSeed v
  edge : forall u edge extraCost, setup.graph.InRange u -> edge ∈ setup.graph.edgesFrom u ->
    edgeAllowed setup.options setup.graph edge u = some extraCost ->
    setup.heuristic u ≤ ((edge.distanceNm + extraCost : R) : WithTop R) + setup.heuristic edge.toVertex

variable {setup} in
omit [IsStrictOrderedRing R] in
theorem Reaches.inRange {sources : List (SeededEndpoint R)} {v : Int} {heading cost : R}
    (reaches : setup.Reaches sources v heading cost) : setup.graph.InRange v := by
  cases reaches with
  | source _ inRange _ => exact inRange
  | edge _ listed _ _ => exact setup.graph.inRange_toVertex listed

variable {setup} in
theorem KeepsOrder.of_turnOff (turnOff : setup.options.turnPenalty.enabled = false)
    (sources : List (SeededEndpoint R)) (v : Int) (heading cost outbound : R) :
    setup.KeepsOrder sources v heading cost outbound := by
  intro path other less _ le
  rw [setup.turnCharge_turnOff turnOff, setup.turnCharge_turnOff turnOff]
  exact add_le_add_left le 0

theorem turnCharge_nonneg (inbound outbound : R) : 0 ≤ setup.turnCharge inbound outbound := by
  unfold turnCharge
  split
  · exact setup.options.turnPenalty.between_nonneg inbound outbound
  · exact le_rfl

variable {setup} in
omit [IsStrictOrderedRing R] in
/-- Every label is the cost of an approach. -/
theorem exists_arrives {sources : List (SeededEndpoint R)} {ws : SearchWorkspace R}
    (sound : setup.Sound sources ws)
    (priced : setup.Priced (buildSeedTable sources setup.graph.vertexCount) ws) {v : Int} (live : ws.Live v) :
    exists path heading, exists cost : R, setup.Arrives sources path v heading cost ∧ ws.gOf v = cost ∧
      forall outbound, setup.turnCharge (ws.inboundOf v) outbound = setup.turnCharge heading outbound := by
  rcases sound.trail v live with ⟨rest, trail⟩
  rcases labels_of_trail sound priced trail v rfl with ⟨front, cost, distance, last, _, labels⟩
  have head : (v :: rest).reverse.head? = some front := by rw [List.head?_reverse, last]
  refine ⟨(v :: rest).reverse, _, _, ⟨sound.approach_of_trail trail, ?_, front, cost, distance, head,
    labels.edges, rfl, rfl⟩, labels.g, labels.turnCharge_eq⟩
  rw [List.getLast?_reverse, List.head?_cons]

/-! ## What relaxing keeps -/

/-- The queue holds the estimate of every open label and nothing below an
estimate. -/
structure Tracks (ws : SearchWorkspace R) : Prop where
  queued : forall v, ws.Live v -> ws.closed v = false ->
    ⟨ws.gOf v + setup.heuristic v, v⟩ ∈ ws.heap
  bounded : forall node, node ∈ ws.heap -> ws.gOf node.vertex + setup.heuristic node.vertex ≤ node.f

variable {setup}

theorem Tracks.relaxAndPush {ws : SearchWorkspace R} (tracks : setup.Tracks ws) {vertex : Int}
    {cost : WithTop R} (cheaper : cost < ws.gOf vertex) (geo : R) (prev : Int) (inbound : R) :
    setup.Tracks (setup.relaxAndPush ws vertex cost geo prev inbound) := by
  have lower : forall v, (setup.relaxAndPush ws vertex cost geo prev inbound).gOf v ≤ ws.gOf v := by
    intro v
    rw [gOf_relaxAndPush]
    split
    · rename_i same
      rw [same]
      exact cheaper.le
    · exact le_rfl
  constructor
  · intro v live isOpen
    rw [gOf_relaxAndPush, heap_relaxAndPush, StdHeap.mem_push]
    by_cases same : v = vertex
    · rw [if_pos same, same]
      exact Or.inl rfl
    · rw [if_neg same]
      exact Or.inr (tracks.queued v
        (((setup.live_relaxAndPush ws _ _ _ _ _ _).mp live).resolve_left same) isOpen)
  · intro node member
    rw [heap_relaxAndPush, StdHeap.mem_push] at member
    rcases member with same | old
    · rw [same, gOf_relaxAndPush, if_pos rfl]
    · exact (add_le_add_left (lower node.vertex) _).trans (tracks.bounded node old)

theorem Tracks.expand {ws : SearchWorkspace R} (tracks : setup.Tracks ws) (u : Int) :
    setup.Tracks (setup.expand u ws) := by
  refine setup.expand_induction setup.Tracks u ws tracks ?_
  intro current tracks edge _
  rcases setup.relaxEdge_cases u (setup.inboundAt ws u) current edge with
    ⟨same, _⟩ | ⟨extraCost, _, _, cheaper, same⟩ <;> rw [same]
  · exact tracks
  · exact tracks.relaxAndPush cheaper _ _ _

variable (setup) in
omit [IsStrictOrderedRing R] in
/-- After a visit no usable edge out of the visited vertex leads to a dearer
label. -/
theorem gOf_expand_le {ws : SearchWorkspace R} {u : Int} (closed : ws.closed u = true) :
    (forall v, (setup.expand u ws).gOf v ≤ ws.gOf v) ∧
    forall edge extraCost, edge ∈ setup.graph.edgesFrom u -> setup.Usable u edge extraCost ->
      ws.closed edge.toVertex = false ->
      (setup.expand u ws).gOf edge.toVertex ≤ setup.tentative ws u (setup.inboundAt ws u) edge extraCost := by
  unfold expand
  generalize setup.inboundAt ws u = inbound
  have run : forall edges current, (forall v, current.closed v = ws.closed v) ->
      current.gOf u = ws.gOf u ->
      (forall v, (List.foldl (setup.relaxEdge u inbound) current edges).gOf v ≤ current.gOf v) ∧
      forall edge extraCost, edge ∈ edges -> setup.Usable u edge extraCost ->
        ws.closed edge.toVertex = false ->
        (List.foldl (setup.relaxEdge u inbound) current edges).gOf edge.toVertex ≤
          setup.tentative ws u inbound edge extraCost := by
    intro edges
    induction edges with
    | nil => exact fun _ _ _ => ⟨fun _ => le_rfl, fun _ _ member => absurd member List.not_mem_nil⟩
    | cons first rest inductionHypothesis =>
        intro current sameClosed sameG
        have total : forall extraCost, setup.tentative current u inbound first extraCost =
            setup.tentative ws u inbound first extraCost := by
          intro extraCost
          rw [tentative, sameG, tentative]
        have step : (setup.relaxEdge u inbound current first).gOf u = ws.gOf u ∧
            (forall v, (setup.relaxEdge u inbound current first).gOf v ≤ current.gOf v) ∧
            forall extraCost, setup.Usable u first extraCost -> ws.closed first.toVertex = false ->
              (setup.relaxEdge u inbound current first).gOf first.toVertex ≤
                setup.tentative ws u inbound first extraCost := by
          rcases setup.relaxEdge_cases u inbound current first with
            ⟨same, reason⟩ | ⟨extraCost, usable, isOpen, cheaper, same⟩ <;> rw [same]
          · refine ⟨sameG, fun _ => le_rfl, fun extraCost usable isOpen => ?_⟩
            rw [← total extraCost]
            exact reason extraCost usable ((sameClosed _).trans isOpen)
          · refine ⟨?_, fun v => ?_, fun otherExtra otherUsable _ => ?_⟩
            · rw [gOf_relaxAndPush, if_neg, sameG]
              intro equal
              rw [← equal, sameClosed, closed] at isOpen
              cases isOpen
            · rw [gOf_relaxAndPush]
              split
              · rename_i equal
                rw [equal]
                exact cheaper.le
              · exact le_rfl
            · have equal := Option.some.inj (usable.allowed.symm.trans otherUsable.allowed)
              rw [gOf_relaxAndPush, if_pos rfl, total, equal]
        have others := inductionHypothesis (setup.relaxEdge u inbound current first)
          (fun v => (setup.closed_relaxEdge u inbound current first v).trans (sameClosed v)) step.1
        refine ⟨fun v => (others.1 v).trans (step.2.1 v), ?_⟩
        intro edge extraCost member usable isOpen
        rcases List.mem_cons.mp member with same | later
        · subst same
          exact (others.1 _).trans (step.2.2 extraCost usable isOpen)
        · exact others.2 edge extraCost later usable isOpen
  exact run (setup.graph.edgesFrom u) ws (fun _ => rfl) rfl

/-! ## The frontier -/

variable (setup) in
/-- The invariant of a run.  The labels of closed vertices are final, and the
best total accounts for every closed goal. -/
structure Frontier (sources : List (SeededEndpoint R)) (state : SearchState R) : Prop where
  tracks : setup.Tracks state.ws
  seeded : forall source, source ∈ sources -> setup.graph.InRange source.vertex ->
    setup.options.nodeFilter.blocks source.vertex = false ->
    state.ws.gOf source.vertex ≤ source.cost
  relaxed : forall u, state.ws.closed u = true -> forall edge extraCost,
    edge ∈ setup.graph.edgesFrom u -> setup.Usable u edge extraCost ->
    state.ws.closed edge.toVertex = false ->
    state.ws.gOf edge.toVertex ≤ setup.tentative state.ws u (setup.inboundAt state.ws u) edge extraCost
  least : forall u, state.ws.closed u = true -> forall heading cost,
    setup.Reaches sources u heading cost -> state.ws.gOf u ≤ cost
  best : forall u, state.ws.closed u = true -> 0 ≤ setup.tables.goalSeed u ->
    state.bestTotal ≤ setup.totalAt state.ws u

omit [Field R] [IsStrictOrderedRing R] in
/-- A vertex with a finite label is live. -/
theorem live_of_gOf_le {ws : SearchWorkspace R} {v : Int} {cost : R} (le : ws.gOf v ≤ cost) :
    ws.Live v := by
  by_contra dead
  rw [SearchWorkspace.gOf, if_neg dead] at le
  exact absurd (lt_of_le_of_lt le (WithTop.coe_lt_top cost)) (lt_irrefl _)

/-- A vertex that a walk reaches is closed, or an open vertex on the way to it is
queued with an estimate that is no larger. -/
theorem Frontier.exists_queued (consistent : setup.Consistent) {sources : List (SeededEndpoint R)}
    {state : SearchState R} (sound : setup.Sound sources state.ws)
    (priced : setup.Priced (buildSeedTable sources setup.graph.vertexCount) state.ws)
    (frontier : setup.Frontier sources state) {v : Int} {heading cost : R}
    (reaches : setup.Reaches sources v heading cost) :
    state.ws.closed v = true ∨ exists node, node ∈ state.ws.heap ∧
      node.f ≤ (cost : WithTop R) + setup.heuristic v := by
  have ofLabel : forall {v cost}, state.ws.gOf v ≤ ((cost : R) : WithTop R) ->
      state.ws.closed v = true ∨ exists node, node ∈ state.ws.heap ∧
        node.f ≤ (cost : WithTop R) + setup.heuristic v := by
    intro v cost label
    by_cases closed : state.ws.closed v = true
    · exact Or.inl closed
    · exact Or.inr ⟨_, frontier.tracks.queued v (live_of_gOf_le label) (Bool.eq_false_iff.mpr closed),
        add_le_add_left label _⟩
  induction reaches with
  | source listed inRange unblocked => exact ofLabel (frontier.seeded _ listed inRange unblocked)
  | @edge u heading cost edge extraCost before listed usable keepsOrder inductionHypothesis =>
      rcases inductionHypothesis with closed | ⟨node, member, estimate⟩
      · by_cases targetClosed : state.ws.closed edge.toVertex = true
        · exact Or.inl targetClosed
        apply ofLabel
        refine (frontier.relaxed u closed edge extraCost listed usable
          (Bool.eq_false_iff.mpr targetClosed)).trans ?_
        -- The label of `u` is an approach no dearer than the walk, and stays so.
        rcases exists_arrives sound priced (sound.closedLive u closed) with
          ⟨path, other, less, arrives, label, turns⟩
        have below := frontier.least u closed heading cost before
        rw [label, WithTop.coe_le_coe] at below
        have kept := keepsOrder path other less arrives below
        rw [tentative, label, turnOnto_eq, turnCharge_inboundAt, turns, ← WithTop.coe_add,
          ← WithTop.coe_add, ← WithTop.coe_add, WithTop.coe_le_coe]
        linarith only [kept]
      · refine Or.inr ⟨node, member, estimate.trans ?_⟩
        have step := consistent.edge u edge extraCost before.inRange listed usable.allowed
        refine (add_le_add_right step _).trans ?_
        rw [← add_assoc, ← WithTop.coe_add]
        refine add_le_add_left (WithTop.coe_le_coe.mpr ?_) _
        exact add_le_add_right (le_add_of_nonneg_right (setup.turnCharge_nonneg _ _)) _

/-- The vertex with the least estimate has its final label. -/
theorem Frontier.least_of_popped (consistent : setup.Consistent) {sources : List (SeededEndpoint R)}
    {state : SearchState R} (sound : setup.Sound sources state.ws)
    (priced : setup.Priced (buildSeedTable sources setup.graph.vertexCount) state.ws)
    (frontier : setup.Frontier sources state) {top : QueueNode R} {rest : List (QueueNode R)}
    (popped : Popped state.ws.heap top rest) (isOpen : state.ws.closed top.vertex = false)
    (less : top.f < state.bestTotal) {heading cost : R}
    (reaches : setup.Reaches sources top.vertex heading cost) : state.ws.gOf top.vertex ≤ cost := by
  have estimate := frontier.tracks.bounded top ((popped.remaining top).mpr (Or.inl rfl))
  have finite : setup.heuristic top.vertex ≠ ⊤ := by
    intro infinite
    rw [infinite, WithTop.add_top, top_le_iff] at estimate
    exact not_top_lt (estimate ▸ less)
  rcases frontier.exists_queued consistent sound priced reaches with closed | ⟨node, member, ahead⟩
  · rw [isOpen] at closed
    cases closed
  · have total := (estimate.trans (popped.least node member)).trans ahead
    exact (WithTop.add_le_add_iff_right finite).mp total

variable (setup) in
omit [IsStrictOrderedRing R] in
/-- A visit lowers the best total to that of its vertex, if that is a goal. -/
theorem bestTotal_visit_le (u : Int) (state : SearchState R) :
    (setup.visit u state).bestTotal ≤ state.bestTotal ∧
      (0 ≤ setup.tables.goalSeed u ->
        (setup.visit u state).bestTotal ≤ setup.totalAt (state.ws.markClosed u) u) := by
  rcases setup.finishAt_cases u { state with ws := state.ws.markClosed u } with
    ⟨same, notLess⟩ | ⟨_, less, same⟩
  · simp only [visit, same]
    exact ⟨le_rfl, notLess⟩
  · simp only [visit, same]
    exact ⟨less.le, fun _ => le_rfl⟩

theorem Frontier.visit (consistent : setup.Consistent) {sources : List (SeededEndpoint R)}
    {state : SearchState R} (sound : setup.Sound sources state.ws)
    (priced : setup.Priced (buildSeedTable sources setup.graph.vertexCount) state.ws)
    (frontier : setup.Frontier sources state) {top : QueueNode R} {rest : List (QueueNode R)}
    (popped : Popped state.ws.heap top rest) (isOpen : state.ws.closed top.vertex = false)
    (less : top.f < state.bestTotal) :
    setup.Frontier sources (setup.visit top.vertex { state with ws := state.ws.withHeap rest }) := by
  -- The workspace in which the edges out of the vertex are relaxed.
  generalize wsEq : (state.ws.withHeap rest).markClosed top.vertex = ws
  have sameG : forall v, ws.gOf v = state.ws.gOf v := fun v => by rw [← wsEq]; rfl
  have closedHere : ws.closed top.vertex = true := by
    rw [← wsEq]
    exact SearchWorkspace.closed_markClosed_self _ _
  have closedCases : forall v, ws.closed v = true -> v = top.vertex ∨ state.ws.closed v = true := by
    intro v closed
    rw [← wsEq, SearchWorkspace.closed_markClosed, Bool.or_eq_true, decide_eq_true_eq] at closed
    exact closed
  have openBefore : forall v, ws.closed v = false -> state.ws.closed v = false := by
    intro v stillOpen
    rw [← wsEq, SearchWorkspace.closed_markClosed, Bool.or_eq_false_iff] at stillOpen
    exact stillOpen.2
  have tracks : setup.Tracks ws := by
    constructor
    · intro v isLive stillOpen
      rw [← wsEq] at isLive stillOpen
      rw [SearchWorkspace.closed_markClosed, Bool.or_eq_false_iff, decide_eq_false_iff_not] at stillOpen
      have queued := frontier.tracks.queued v isLive stillOpen.2
      rw [sameG, ← wsEq]
      exact ((popped.remaining _).mp queued).resolve_left fun same =>
        stillOpen.1 (congrArg QueueNode.vertex same)
    · intro node member
      rw [← wsEq] at member
      rw [sameG]
      exact frontier.tracks.bounded node ((popped.remaining node).mpr (Or.inr member))
  have least : forall u, ws.closed u = true -> forall heading cost,
      setup.Reaches sources u heading cost -> ws.gOf u ≤ cost := by
    intro u closed heading cost reaches
    rw [sameG]
    rcases closedCases u closed with same | old
    · subst same
      exact frontier.least_of_popped consistent sound priced popped isOpen less reaches
    · exact frontier.least u old heading cost reaches
  have keeps : forall v, ws.closed v = true ->
      SearchWorkspace.SameLabel (setup.expand top.vertex ws) ws v :=
    fun v closed => setup.sameLabel_expand ws closed
  have lowers := setup.gOf_expand_le closedHere
  have wsAfter : (setup.visit top.vertex { state with ws := state.ws.withHeap rest }).ws =
      setup.expand top.vertex ws := by rw [visit_ws, wsEq]
  have total := setup.bestTotal_visit_le top.vertex
    { state with ws := state.ws.withHeap rest }
  simp only [wsEq] at total
  constructor
  · rw [wsAfter]
    exact tracks.expand top.vertex
  · intro source listed inRange unblocked
    rw [wsAfter]
    exact (lowers.1 _).trans ((sameG _).le.trans (frontier.seeded source listed inRange unblocked))
  · intro u closed edge extraCost listed usable targetOpen
    rw [wsAfter] at closed targetOpen ⊢
    rw [closed_expand] at closed targetOpen
    rw [tentative, (keeps u closed).g, inboundAt_congr (keeps u closed)]
    rcases closedCases u closed with same | old
    · subst same
      exact lowers.2 edge extraCost listed usable targetOpen
    · have relaxed := frontier.relaxed u old edge extraCost listed usable (openBefore _ targetOpen)
      have sameInbound : setup.inboundAt ws u = setup.inboundAt state.ws u := by rw [← wsEq]; rfl
      rw [sameG, sameInbound]
      exact (lowers.1 _).trans ((sameG _).le.trans relaxed)
  · intro u closed heading cost reaches
    rw [wsAfter] at closed ⊢
    rw [closed_expand] at closed
    rw [(keeps u closed).g]
    exact least u closed heading cost reaches
  · intro u closed isGoal
    rw [wsAfter] at closed ⊢
    rw [closed_expand] at closed
    rw [setup.totalAt_congr (keeps u closed)]
    rcases closedCases u closed with same | old
    · subst same
      exact total.2 isGoal
    · have sameTotal : setup.totalAt ws u = setup.totalAt state.ws u := by rw [← wsEq]; rfl
      rw [sameTotal]
      exact total.1.trans (frontier.best u old isGoal)

omit [IsStrictOrderedRing R] in
theorem Frontier.skip {sources : List (SeededEndpoint R)} {state : SearchState R}
    (frontier : setup.Frontier sources state) {top : QueueNode R} {rest : List (QueueNode R)}
    (popped : Popped state.ws.heap top rest) (closed : state.ws.closed top.vertex = true) :
    setup.Frontier sources { state with ws := state.ws.withHeap rest } where
  tracks :=
    { queued := fun v isLive isOpen =>
        ((popped.remaining _).mp (frontier.tracks.queued v isLive isOpen)).resolve_left fun same => by
          have vertex := congrArg QueueNode.vertex same
          simp only at vertex
          rw [SearchWorkspace.closed_withHeap, vertex, closed] at isOpen
          cases isOpen
      bounded := fun node member =>
        frontier.tracks.bounded node ((popped.remaining node).mpr (Or.inr member)) }
  seeded := frontier.seeded
  relaxed := frontier.relaxed
  least := frontier.least
  best := frontier.best

variable (setup) in
omit [IsStrictOrderedRing R] in
theorem gOf_seedSource_le (ws : SearchWorkspace R) (source : SeededEndpoint R) :
    (forall v, (setup.seedSource ws source).gOf v ≤ ws.gOf v) ∧
      (setup.graph.InRange source.vertex -> setup.options.nodeFilter.blocks source.vertex = false ->
        (setup.seedSource ws source).gOf source.vertex ≤ source.cost) := by
  rcases setup.seedSource_cases ws source with ⟨same, notLess⟩ | ⟨_, _, cheaper, same⟩ <;> rw [same]
  · exact ⟨fun _ => le_rfl, notLess⟩
  · refine ⟨fun v => ?_, fun _ _ => ?_⟩
    · rw [gOf_relaxAndPush]
      split
      · rename_i equal
        rw [equal]
        exact cheaper.le
      · exact le_rfl
    · rw [gOf_relaxAndPush, if_pos rfl]

variable (setup) in
theorem frontier_searchInit (sources : List (SeededEndpoint R)) {ws : SearchWorkspace R}
    (stamped : ws.Stamped) : setup.Frontier sources (setup.searchInit sources ws) := by
  have noneClosed := (setup.sound_searchInit sources stamped).1
  have dead : forall v, ¬ (ws.nextGeneration.withHeap []).Live v := stamped.not_live_nextGeneration
  have tracks : setup.Tracks (setup.searchInit sources ws).ws := by
    apply setup.searchInit_induction setup.Tracks sources ws
    · exact ⟨fun v live => absurd live (dead v), fun _ member => absurd member List.not_mem_nil⟩
    · intro current tracks source _
      rcases setup.seedSource_cases current source with ⟨same, _⟩ | ⟨_, _, cheaper, same⟩ <;> rw [same]
      · exact tracks
      · exact tracks.relaxAndPush cheaper _ _ _
  have seeded : forall source, source ∈ sources -> setup.graph.InRange source.vertex ->
      setup.options.nodeFilter.blocks source.vertex = false ->
      (setup.searchInit sources ws).ws.gOf source.vertex ≤ source.cost := by
    intro source listed inRange unblocked
    rcases List.append_of_mem listed with ⟨before, after, split⟩
    unfold searchInit
    simp only
    rw [split, List.foldl_append, List.foldl_cons]
    generalize List.foldl setup.seedSource _ before = current
    have seededHere := (setup.gOf_seedSource_le current source).2 inRange unblocked
    exact List.foldlRecOn after setup.seedSource
      (motive := fun later => later.gOf source.vertex ≤ (source.cost : WithTop R)) seededHere
      fun later holds other _ => ((setup.gOf_seedSource_le later other).1 _).trans holds
  refine ⟨tracks, seeded, ?_, ?_, ?_⟩
  · intro u closed
    rw [noneClosed u] at closed
    cases closed
  · intro u closed
    rw [noneClosed u] at closed
    cases closed
  · intro u closed
    rw [noneClosed u] at closed
    cases closed

/-! ## The result -/

variable (setup) in
/-- A search finds a goal no dearer than any that a walk reaches, if the turns
keep its order at the goal as well. -/
theorem findShortestPathMulti_le (consistent : setup.Consistent) {sources : List (SeededEndpoint R)}
    (nonneg : forall source, source ∈ sources -> 0 ≤ source.cost) {ws : SearchWorkspace R}
    (stamped : ws.Stamped) {goal : Int} {heading cost : R} (reaches : setup.Reaches sources goal heading cost)
    (isGoal : 0 ≤ setup.tables.goalSeed goal)
    (keepsOrder : setup.KeepsOrder sources goal heading cost (setup.tables.goalBearing goal)) :
    (setup.findShortestPathMulti sources ws).1.found = true ∧
      (setup.findShortestPathMulti sources ws).1.cost ≤
        cost + setup.turnCharge heading (setup.tables.goalBearing goal) + setup.tables.goalSeed goal := by
  rcases setup.findShortestPathMulti_spec
    (fun state => setup.Priced (buildSeedTable sources setup.graph.vertexCount) state.ws ∧
      setup.Frontier sources state)
    sources stamped ⟨setup.priced_searchInit nonneg stamped, setup.frontier_searchInit sources stamped⟩
    (fun _ _ holds _ _ popped closed => ⟨⟨holds.1.source, holds.1.step⟩, holds.2.skip popped closed⟩)
    (fun _ sound holds _ _ popped isOpen less => ⟨holds.1.visit sound popped,
      holds.2.visit consistent sound holds.1 popped isOpen less⟩) with
    ⟨final, sound, best, ⟨priced, frontier⟩, exhausted, equal⟩
  have total : final.bestTotal ≤ ((cost + setup.turnCharge heading (setup.tables.goalBearing goal) +
      setup.tables.goalSeed goal : R) : WithTop R) := by
    rcases frontier.exists_queued consistent sound priced reaches with closed | ⟨node, member, ahead⟩
    · refine (frontier.best goal closed isGoal).trans ?_
      rcases exists_arrives sound priced (sound.closedLive goal closed) with
        ⟨path, other, less, arrives, label, turns⟩
      have below := frontier.least goal closed heading cost reaches
      rw [label, WithTop.coe_le_coe] at below
      have kept := keepsOrder path other less arrives below
      rw [totalAt_eq_turnCharge, label, turns, ← WithTop.coe_add, WithTop.coe_le_coe, ← add_assoc]
      exact add_le_add_left kept _
    · refine ((exhausted node member).trans ahead).trans ?_
      refine (add_le_add_right (consistent.goal goal isGoal) _).trans ?_
      rw [← WithTop.coe_add, WithTop.coe_le_coe]
      exact add_le_add_left (le_add_of_nonneg_right (setup.turnCharge_nonneg _ _)) _
  rw [equal]
  rcases sound.searchResult_cases best with ⟨noTotal, _⟩ | ⟨_, _, _, _, totalAt, same⟩
  · rw [noTotal, top_le_iff] at total
    exact absurd total (WithTop.coe_ne_top)
  · rw [same]
    refine ⟨rfl, ?_⟩
    simp only
    exact WithTop.untopD_le total

end SearchSetup
end BravoFinder
