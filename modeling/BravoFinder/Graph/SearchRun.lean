import BravoFinder.Graph.AStar
import Mathlib.Algebra.Order.BigOperators.Group.List
import Mathlib.Algebra.Order.Ring.Nat

namespace BravoFinder

/-!
# Runs of the search

What one relaxation, one visit and one whole run of the main loop can do, with
no law of arithmetic assumed.  `searchLoop_spec` is the induction over the run:
an invariant kept by skipping a stale entry and by visiting a vertex holds when
the loop stops, and the loop stops by itself, because each round either uses up
a queued entry or closes one more vertex.

`Sound` is the invariant behind every structural fact about a found path.  The
labels of a closed vertex never change again, so the predecessors of a live
vertex form a trail of closed vertices back to a source.
-/

namespace SearchSetup

variable {R : Type} [LinearOrder R] [NatCast R] [Zero R] [One R] [Neg R] [Add R] [Sub R] [Mul R]
  [Div R] (setup : SearchSetup R)

/-! ## One relaxation -/

/-- The checks an edge out of `u` passes before its cost is compared. -/
structure Usable (u : Int) (edge : GraphEdge R) (extraCost : R) : Prop where
  node : setup.options.nodeFilter.blocks edge.toVertex = false
  banned : setup.options.edgeFilter.blocks u edge.toVertex = false
  allowed : edgeAllowed setup.options setup.graph edge u = some extraCost

/-- A relaxation leaves the workspace alone, for a reason, or records a cheaper
label. -/
theorem relaxEdge_cases (u : Int) (inbound : R) (ws : SearchWorkspace R) (edge : GraphEdge R) :
    (setup.relaxEdge u inbound ws edge = ws ∧
      forall extraCost, setup.Usable u edge extraCost -> ws.closed edge.toVertex = false ->
        ws.gOf edge.toVertex ≤ setup.tentative ws u inbound edge extraCost) ∨
    exists extraCost, setup.Usable u edge extraCost ∧ ws.closed edge.toVertex = false ∧
      setup.tentative ws u inbound edge extraCost < ws.gOf edge.toVertex ∧
      setup.relaxEdge u inbound ws edge =
        setup.relaxAndPush ws edge.toVertex (setup.tentative ws u inbound edge extraCost)
          (ws.geoOf u + edge.distanceNm) u (setup.outboundBearing u edge.toVertex) := by
  unfold relaxEdge
  by_cases closed : ws.closed edge.toVertex = true
  · refine Or.inl ⟨if_pos closed, fun _ _ isOpen => ?_⟩
    rw [closed] at isOpen
    cases isOpen
  rw [if_neg closed]
  by_cases node : setup.options.nodeFilter.blocks edge.toVertex = true
  · refine Or.inl ⟨if_pos node, fun _ usable _ => ?_⟩
    rw [usable.node] at node
    cases node
  rw [if_neg node]
  by_cases banned : setup.options.edgeFilter.blocks u edge.toVertex = true
  · refine Or.inl ⟨if_pos banned, fun _ usable _ => ?_⟩
    rw [usable.banned] at banned
    cases banned
  rw [if_neg banned]
  cases allowed : edgeAllowed setup.options setup.graph edge u with
  | none =>
      refine Or.inl ⟨rfl, fun _ usable _ => ?_⟩
      rw [usable.allowed] at allowed
      cases allowed
  | some extraCost =>
      simp only
      by_cases cheaper :
          setup.tentative ws u inbound edge extraCost < ws.gOf edge.toVertex
      · have usable : setup.Usable u edge extraCost :=
          ⟨Bool.eq_false_iff.mpr node, Bool.eq_false_iff.mpr banned, allowed⟩
        exact Or.inr ⟨extraCost, usable, Bool.eq_false_iff.mpr closed, cheaper, if_pos cheaper⟩
      · refine Or.inl ⟨if_neg cheaper, fun other usable _ => ?_⟩
        have same := Option.some.inj (allowed.symm.trans usable.allowed)
        rw [← same]
        exact le_of_not_gt cheaper

omit [NatCast R] [Sub R] [Mul R] [Div R] in
/-- A source is skipped, already labelled no dearer, or labelled. -/
theorem seedSource_cases (ws : SearchWorkspace R) (source : SeededEndpoint R) :
    (setup.seedSource ws source = ws ∧
      (setup.graph.InRange source.vertex ->
        setup.options.nodeFilter.blocks source.vertex = false ->
        ws.gOf source.vertex ≤ source.cost)) ∨
    setup.graph.InRange source.vertex ∧
      setup.options.nodeFilter.blocks source.vertex = false ∧
      (source.cost : WithTop R) < ws.gOf source.vertex ∧
      setup.seedSource ws source =
        setup.relaxAndPush ws source.vertex source.cost source.cost kNoVertex
          (setup.tables.sourceBearing source.vertex) := by
  unfold seedSource
  by_cases outside : source.vertex < 0 ∨ setup.graph.vertexCount ≤ source.vertex
  · refine Or.inl ⟨if_pos outside, fun inRange _ => ?_⟩
    unfold NavGraph.InRange at inRange
    omega
  rw [if_neg outside]
  have inRange : setup.graph.InRange source.vertex := by
    unfold NavGraph.InRange
    omega
  by_cases node : setup.options.nodeFilter.blocks source.vertex = true
  · refine Or.inl ⟨if_pos node, fun _ unblocked => ?_⟩
    rw [unblocked] at node
    cases node
  rw [if_neg node]
  by_cases cheaper : (source.cost : WithTop R) < ws.gOf source.vertex
  · exact Or.inr ⟨inRange, Bool.eq_false_iff.mpr node, cheaper, if_pos cheaper⟩
  · exact Or.inl ⟨if_neg cheaper, fun _ _ => le_of_not_gt cheaper⟩

/-! ## What labelling a vertex changes -/

section Label

variable (ws : SearchWorkspace R) (vertex other : Int) (g : WithTop R) (geo : R) (prev : Int)
  (inbound : R)

section

omit [NatCast R] [Sub R] [Mul R] [Div R]

@[simp] theorem gOf_relaxAndPush :
    (setup.relaxAndPush ws vertex g geo prev inbound).gOf other =
      if other = vertex then g else ws.gOf other :=
  ws.gOf_relax vertex other g geo prev inbound

@[simp] theorem geoOf_relaxAndPush :
    (setup.relaxAndPush ws vertex g geo prev inbound).geoOf other =
      if other = vertex then geo else ws.geoOf other :=
  ws.geoOf_relax vertex other g geo prev inbound

@[simp] theorem prevOf_relaxAndPush :
    (setup.relaxAndPush ws vertex g geo prev inbound).prevOf other =
      if other = vertex then prev else ws.prevOf other :=
  ws.prevOf_relax vertex other g geo prev inbound

@[simp] theorem inboundOf_relaxAndPush :
    (setup.relaxAndPush ws vertex g geo prev inbound).inboundOf other =
      if other = vertex then inbound else ws.inboundOf other :=
  ws.inboundOf_relax vertex other g geo prev inbound

@[simp] theorem heap_relaxAndPush :
    (setup.relaxAndPush ws vertex g geo prev inbound).heap =
      setup.engine.openSet.push ws.heap ⟨g + setup.heuristic vertex, vertex⟩ := rfl

@[simp] theorem closed_relaxAndPush :
    (setup.relaxAndPush ws vertex g geo prev inbound).closed other = ws.closed other := rfl

theorem live_relaxAndPush :
    (setup.relaxAndPush ws vertex g geo prev inbound).Live other ↔ other = vertex ∨ ws.Live other :=
  ws.live_relax vertex other g geo prev inbound

end

variable {vertex other}

omit [NatCast R] [Sub R] [Mul R] [Div R] in
theorem sameLabel_relaxAndPush (different : other ≠ vertex) :
    SearchWorkspace.SameLabel (setup.relaxAndPush ws vertex g geo prev inbound) ws other :=
  have same := SearchWorkspace.SameLabel.relax ws different g geo prev inbound
  ⟨same.live, same.g, same.geo, same.prev, same.inbound⟩

end Label

/-! ## One visit -/

/-- Closing a vertex leaves the best goal alone or makes that vertex it. -/
theorem finishAt_cases (u : Int) (state : SearchState R) :
    (setup.finishAt u state = state ∧
      (0 ≤ setup.tables.goalSeed u -> state.bestTotal ≤ setup.totalAt state.ws u)) ∨
    0 ≤ setup.tables.goalSeed u ∧ setup.totalAt state.ws u < state.bestTotal ∧
      setup.finishAt u state =
        { state with bestTotal := setup.totalAt state.ws u, bestGoal := u } := by
  unfold finishAt
  by_cases goal : 0 ≤ setup.tables.goalSeed u
  · rw [if_pos goal]
    by_cases cheaper : setup.totalAt state.ws u < state.bestTotal
    · exact Or.inr ⟨goal, cheaper, if_pos cheaper⟩
    · exact Or.inl ⟨if_neg cheaper, fun _ => le_of_not_gt cheaper⟩
  · exact Or.inl ⟨if_neg goal, fun isGoal => absurd isGoal goal⟩

theorem finishAt_ws (u : Int) (state : SearchState R) : (setup.finishAt u state).ws = state.ws := by
  rcases setup.finishAt_cases u state with ⟨same, _⟩ | ⟨_, _, same⟩ <;> rw [same]

@[simp] theorem visit_ws (u : Int) (state : SearchState R) :
    (setup.visit u state).ws = setup.expand u (state.ws.markClosed u) := by
  simp only [visit, finishAt_ws]

/-- An invariant kept by every relaxation out of `u` is kept by closing `u`. -/
theorem expand_induction (Inv : SearchWorkspace R -> Prop) (u : Int) (ws : SearchWorkspace R)
    (start : Inv ws)
    (step : forall current, Inv current -> forall edge, edge ∈ setup.graph.edgesFrom u ->
      Inv (setup.relaxEdge u (setup.inboundAt ws u) current edge)) :
    Inv (setup.expand u ws) :=
  List.foldlRecOn (setup.graph.edgesFrom u) (setup.relaxEdge u (setup.inboundAt ws u)) start step

/-- The relaxations of one visit close no vertex. -/
theorem closed_relaxEdge (u : Int) (inbound : R) (ws : SearchWorkspace R) (edge : GraphEdge R)
    (vertex : Int) : (setup.relaxEdge u inbound ws edge).closed vertex = ws.closed vertex := by
  rcases setup.relaxEdge_cases u inbound ws edge with ⟨same, _⟩ | ⟨_, _, _, _, same⟩ <;> rw [same]
  rw [closed_relaxAndPush]

theorem closed_expand (u : Int) (ws : SearchWorkspace R) (vertex : Int) :
    (setup.expand u ws).closed vertex = ws.closed vertex :=
  setup.expand_induction (fun current => current.closed vertex = ws.closed vertex) u ws rfl
    (fun current same edge _ => (setup.closed_relaxEdge u _ current edge vertex).trans same)

/-- A relaxation pushes at most one entry. -/
theorem length_heap_relaxEdge_le (u : Int) (inbound : R) (ws : SearchWorkspace R)
    (edge : GraphEdge R) :
    (setup.relaxEdge u inbound ws edge).heap.length ≤ ws.heap.length + 1 := by
  rcases setup.relaxEdge_cases u inbound ws edge with ⟨same, _⟩ | ⟨_, _, _, _, same⟩ <;> rw [same]
  · exact Nat.le_succ _
  · rw [heap_relaxAndPush, StdHeap.length_push]

theorem length_heap_expand_le (u : Int) (ws : SearchWorkspace R) :
    (setup.expand u ws).heap.length ≤ ws.heap.length + (setup.graph.edgesFrom u).length := by
  unfold expand
  generalize setup.inboundAt ws u = inbound
  induction setup.graph.edgesFrom u generalizing ws with
  | nil => exact Nat.le_refl _
  | cons edge rest inductionHypothesis =>
      have one := setup.length_heap_relaxEdge_le u inbound ws edge
      have others := inductionHypothesis (setup.relaxEdge u inbound ws edge)
      simp only [List.foldl_cons, List.length_cons]
      omega

/-! ## Whole runs -/

/-- The open set is a heap of vertices of the graph. -/
structure Queued (ws : SearchWorkspace R) : Prop where
  isHeap : setup.engine.openSet.IsHeap ws.heap
  inRange : forall node, node ∈ ws.heap -> setup.graph.InRange node.vertex

omit [NatCast R] [Sub R] [Mul R] [Div R] in
theorem Queued.relaxAndPush {setup : SearchSetup R} {ws : SearchWorkspace R} (queued : setup.Queued ws)
    {vertex : Int} (inRange : setup.graph.InRange vertex) (g : WithTop R) (geo : R) (prev : Int)
    (inbound : R) : setup.Queued (setup.relaxAndPush ws vertex g geo prev inbound) where
  isHeap := setup.engine.openSet.isHeap_push queued.isHeap _
  inRange node member := by
    rw [heap_relaxAndPush, StdHeap.mem_push] at member
    rcases member with same | old
    · rw [same]
      exact inRange
    · exact queued.inRange node old

theorem Queued.expand {setup : SearchSetup R} {ws : SearchWorkspace R} (queued : setup.Queued ws)
    (u : Int) : setup.Queued (setup.expand u ws) := by
  apply setup.expand_induction setup.Queued u ws queued
  intro current queued edge listed
  rcases setup.relaxEdge_cases u (setup.inboundAt ws u) current edge with
    ⟨same, _⟩ | ⟨_, _, _, _, same⟩ <;> rw [same]
  · exact queued
  · exact queued.relaxAndPush (setup.graph.inRange_toVertex listed) _ _ _ _

omit [NatCast R] [Sub R] [Mul R] [Div R] in
theorem Queued.seedSource {setup : SearchSetup R} {ws : SearchWorkspace R} (queued : setup.Queued ws)
    (source : SeededEndpoint R) : setup.Queued (setup.seedSource ws source) := by
  rcases setup.seedSource_cases ws source with ⟨same, _⟩ | ⟨inRange, _, _, same⟩ <;> rw [same]
  · exact queued
  · exact queued.relaxAndPush inRange _ _ _ _

/-- How many entries the loop may still take: those queued, and one for each
edge out of a vertex that is not closed yet. -/
def budget (ws : SearchWorkspace R) : Nat :=
  ws.heap.length + (setup.graph.vertices.map fun vertex =>
    if ws.closed vertex then 0 else (setup.graph.edgesFrom vertex).length).sum

/-- Zeroing one summand takes exactly that summand off a sum. -/
private theorem sum_map_zeroed {values : List Int} (distinct : values.Nodup) {value : Int}
    (member : value ∈ values) (weight zeroed : Int -> Nat) (atValue : zeroed value = 0)
    (elsewhere : forall other, other ≠ value -> zeroed other = weight other) :
    (values.map zeroed).sum + weight value = (values.map weight).sum := by
  have rest : (values.erase value).map zeroed = (values.erase value).map weight := by
    apply List.map_congr_left
    intro other erased
    exact elsewhere other ((distinct.mem_erase_iff.mp erased).1)
  have split := (List.perm_cons_erase member)
  rw [(split.map zeroed).sum_nat, (split.map weight).sum_nat, List.map_cons, List.map_cons,
    List.sum_cons, List.sum_cons, rest, atValue]
  omega

theorem budget_visit_le (ws : SearchWorkspace R) (u : Int) (inRange : setup.graph.InRange u)
    (isOpen : ws.closed u = false) :
    setup.budget (setup.expand u (ws.markClosed u)) ≤ setup.budget ws := by
  have pushed := setup.length_heap_expand_le u (ws.markClosed u)
  have zeroed := sum_map_zeroed setup.graph.nodup_vertices ((setup.graph.mem_vertices u).mpr inRange)
    (fun vertex => if ws.closed vertex then 0 else (setup.graph.edgesFrom vertex).length)
    (fun vertex => if (setup.expand u (ws.markClosed u)).closed vertex then 0
      else (setup.graph.edgesFrom vertex).length)
    (by simp only [closed_expand, SearchWorkspace.closed_markClosed, decide_true, Bool.true_or,
          if_true])
    (by
      intro other different
      simp only [closed_expand, SearchWorkspace.closed_markClosed, decide_eq_false different,
        Bool.false_or])
  simp only [isOpen, Bool.false_eq_true, if_false] at zeroed
  unfold budget
  simp only [SearchWorkspace.heap_markClosed] at pushed
  omega

omit [NatCast R] [Add R] [Sub R] [Mul R] [Div R] in
theorem budget_withHeap (ws : SearchWorkspace R) {rest : List (QueueNode R)}
    (shorter : ws.heap.length = rest.length + 1) :
    setup.budget ws = setup.budget (ws.withHeap rest) + 1 := by
  unfold budget
  rw [SearchWorkspace.heap_withHeap, shorter]
  exact Nat.add_right_comm _ _ _

/-- Nothing queued can beat the best total. -/
def Exhausted (state : SearchState R) : Prop :=
  forall node, node ∈ state.ws.heap -> state.bestTotal ≤ node.f

/-- What a pop of the open set tells about the entry that left. -/
structure Popped (heap : List (QueueNode R)) (top : QueueNode R) (rest : List (QueueNode R)) :
    Prop where
  remaining : forall node, node ∈ heap ↔ node = top ∨ node ∈ rest
  least : forall node, node ∈ heap -> top.f ≤ node.f

omit [NatCast R] [Add R] [Sub R] [Mul R] [Div R] in
theorem Queued.popped {setup : SearchSetup R} {ws : SearchWorkspace R} (queued : setup.Queued ws)
    {top : QueueNode R} {rest : List (QueueNode R)}
    (taken : setup.engine.openSet.pop ws.heap = some (top, rest)) : Popped ws.heap top rest :=
  ⟨setup.engine.openSet.mem_of_pop queued.isHeap taken, fun node member =>
    le_of_not_gt (setup.engine.openSet.pop_least queued.isHeap taken node member)⟩

omit [NatCast R] [Add R] [Sub R] [Mul R] [Div R] in
theorem Queued.rest {setup : SearchSetup R} {ws : SearchWorkspace R} (queued : setup.Queued ws)
    {top : QueueNode R} {rest : List (QueueNode R)}
    (taken : setup.engine.openSet.pop ws.heap = some (top, rest)) :
    setup.Queued (ws.withHeap rest) :=
  ⟨setup.engine.openSet.pop_isHeap queued.isHeap taken,
    fun node member => queued.inRange node (((queued.popped taken).remaining node).mpr (Or.inr member))⟩

/-- The induction over a run.  Given fuel for its budget the loop stops in a
state that satisfies the invariant and has nothing left to gain, up to the
entries of its open set. -/
theorem searchLoop_spec (Inv : SearchState R -> Prop)
    (skip : forall state, Inv state -> forall top rest, Popped state.ws.heap top rest ->
      state.ws.closed top.vertex = true -> Inv { state with ws := state.ws.withHeap rest })
    (visit : forall state, Inv state -> forall top rest, Popped state.ws.heap top rest ->
      state.ws.closed top.vertex = false -> top.f < state.bestTotal ->
      Inv (setup.visit top.vertex { state with ws := state.ws.withHeap rest }))
    (fuel : Nat) (state : SearchState R) (queued : setup.Queued state.ws) (start : Inv state)
    (enough : setup.budget state.ws ≤ fuel) :
    exists before heap, Inv before ∧ Exhausted before ∧
      setup.searchLoop fuel state = { before with ws := before.ws.withHeap heap } := by
  induction fuel generalizing state with
  | zero =>
      have empty : state.ws.heap = [] := by
        apply List.eq_nil_of_length_eq_zero
        unfold budget at enough
        omega
      refine ⟨state, state.ws.heap, start, ?_, rfl⟩
      intro node member
      rw [empty] at member
      cases member
  | succ fuel inductionHypothesis =>
      unfold searchLoop
      cases taken : setup.engine.openSet.pop state.ws.heap with
      | none =>
          have empty := setup.engine.openSet.eq_nil_of_pop_eq_none queued.isHeap taken
          refine ⟨state, state.ws.heap, start, ?_, rfl⟩
          intro node member
          rw [empty] at member
          cases member
      | some result =>
          rcases result with ⟨top, rest⟩
          have popped := queued.popped taken
          have queuedRest := queued.rest taken
          have topInRange := queued.inRange top ((popped.remaining top).mpr (Or.inl rfl))
          have fewer := setup.budget_withHeap state.ws
            (setup.engine.openSet.length_of_pop queued.isHeap taken)
          have enoughRest : setup.budget (state.ws.withHeap rest) ≤ fuel :=
            Nat.le_of_succ_le_succ (fewer.symm.le.trans enough)
          simp only
          by_cases closed : state.ws.closed top.vertex = true
          · rw [if_pos closed]
            exact inductionHypothesis _ queuedRest (skip state start top rest popped closed) enoughRest
          rw [if_neg closed]
          by_cases done : state.bestTotal ≤ top.f
          · rw [if_pos done]
            exact ⟨state, rest, start, fun node member => done.trans (popped.least node member), rfl⟩
          · rw [if_neg done]
            have isOpen := Bool.eq_false_iff.mpr closed
            have queuedClosed : setup.Queued ((state.ws.withHeap rest).markClosed top.vertex) :=
              ⟨queuedRest.isHeap, queuedRest.inRange⟩
            have less := setup.budget_visit_le (state.ws.withHeap rest) top.vertex topInRange isOpen
            refine inductionHypothesis _ ?_
              (visit state start top rest popped isOpen (lt_of_not_ge done)) ?_
            · rw [visit_ws]
              exact queuedClosed.expand top.vertex
            · rw [visit_ws]
              exact less.trans enoughRest

/-! ## The seeded start -/

section

omit [NatCast R] [Sub R] [Mul R] [Div R]

/-- An invariant kept by seeding holds once every source is seeded. -/
theorem searchInit_induction (Inv : SearchWorkspace R -> Prop) (sources : List (SeededEndpoint R))
    (ws : SearchWorkspace R) (start : Inv (ws.nextGeneration.withHeap []))
    (step : forall current, Inv current -> forall source, source ∈ sources ->
      Inv (setup.seedSource current source)) :
    Inv (setup.searchInit sources ws).ws :=
  List.foldlRecOn sources setup.seedSource start step

theorem queued_searchInit (sources : List (SeededEndpoint R)) (ws : SearchWorkspace R) :
    setup.Queued (setup.searchInit sources ws).ws := by
  apply setup.searchInit_induction setup.Queued sources ws
  · exact ⟨setup.engine.openSet.isHeap_nil, fun _ member => absurd member List.not_mem_nil⟩
  · exact fun _ queued source _ => queued.seedSource source

theorem length_heap_seedSource_le (ws : SearchWorkspace R) (source : SeededEndpoint R) :
    (setup.seedSource ws source).heap.length ≤ ws.heap.length + 1 := by
  rcases setup.seedSource_cases ws source with ⟨same, _⟩ | ⟨_, _, _, same⟩ <;> rw [same]
  · exact Nat.le_succ _
  · rw [heap_relaxAndPush, StdHeap.length_push]

/-- The fuel of a search covers its seeded start. -/
theorem budget_searchInit_le (sources : List (SeededEndpoint R)) (ws : SearchWorkspace R) :
    setup.budget (setup.searchInit sources ws).ws ≤ setup.searchFuel sources := by
  have heapBound : forall current : SearchWorkspace R,
      (sources.foldl setup.seedSource current).heap.length ≤ current.heap.length + sources.length := by
    induction sources with
    | nil => exact fun _ => Nat.le_refl _
    | cons source rest inductionHypothesis =>
        intro current
        have one := setup.length_heap_seedSource_le current source
        have others := inductionHypothesis (setup.seedSource current source)
        simp only [List.foldl_cons, List.length_cons]
        omega
  have pushed := heapBound (ws.nextGeneration.withHeap [])
  rw [SearchWorkspace.heap_withHeap, List.length_nil, Nat.zero_add] at pushed
  refine Nat.add_le_add pushed (List.sum_le_sum fun vertex _ => ?_)
  split
  · exact Nat.zero_le _
  · exact Nat.le_refl _

end

end SearchSetup
end BravoFinder
