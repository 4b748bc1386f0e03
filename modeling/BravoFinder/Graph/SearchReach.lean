import BravoFinder.Graph.SearchExact

namespace BravoFinder

/-!
# A search that finds nothing

With turns the search keeps one label for each vertex and may miss the cheapest
path, but not every path.  A vertex that has a label is closed or queued, and
closing it labels all that it leads to.  So when the open set runs out without
a goal, whatever can be reached has been closed, and no goal was among it.
-/

namespace SearchSetup

variable {R : Type} [Field R] [LinearOrder R] [IsStrictOrderedRing R] {setup : SearchSetup R}

variable (setup) in
/-- The invariant of a run, whatever it charges: what can be reached is labelled
before it can be forgotten. -/
structure Covers (sources : List (SeededEndpoint R)) (state : SearchState R) : Prop where
  queued : forall v, state.ws.Live v -> state.ws.closed v = false ->
    ⟨state.ws.gOf v + setup.heuristic v, v⟩ ∈ state.ws.heap
  seeded : forall source, source ∈ sources -> setup.graph.InRange source.vertex ->
    setup.options.nodeFilter.blocks source.vertex = false -> state.ws.Live source.vertex
  relaxed : forall u, state.ws.closed u = true -> forall edge extraCost,
    edge ∈ setup.graph.edgesFrom u -> setup.Usable u edge extraCost -> state.ws.Live edge.toVertex
  best : forall u, state.ws.closed u = true -> 0 ≤ setup.tables.goalSeed u -> state.bestTotal ≠ ⊤

/-! ## What relaxing keeps -/

section

omit [IsStrictOrderedRing R]

theorem queued_relaxAndPush {ws : SearchWorkspace R}
    (queued : forall v, ws.Live v -> ws.closed v = false -> ⟨ws.gOf v + setup.heuristic v, v⟩ ∈ ws.heap)
    (vertex : Int) (g : WithTop R) (geo : R) (prev : Int) (inbound : R) (v : Int)
    (live : (setup.relaxAndPush ws vertex g geo prev inbound).Live v)
    (isOpen : (setup.relaxAndPush ws vertex g geo prev inbound).closed v = false) :
    ⟨(setup.relaxAndPush ws vertex g geo prev inbound).gOf v + setup.heuristic v, v⟩ ∈
      (setup.relaxAndPush ws vertex g geo prev inbound).heap := by
  rw [closed_relaxAndPush] at isOpen
  rw [gOf_relaxAndPush, heap_relaxAndPush, StdHeap.mem_push]
  by_cases same : v = vertex
  · rw [if_pos same, same]
    exact .inl rfl
  · rw [if_neg same]
    exact .inr (queued v (((setup.live_relaxAndPush ws _ _ _ _ _ _).mp live).resolve_left same) isOpen)

theorem queued_expand {ws : SearchWorkspace R}
    (queued : forall v, ws.Live v -> ws.closed v = false -> ⟨ws.gOf v + setup.heuristic v, v⟩ ∈ ws.heap) (u : Int) :
    forall v, (setup.expand u ws).Live v -> (setup.expand u ws).closed v = false ->
      ⟨(setup.expand u ws).gOf v + setup.heuristic v, v⟩ ∈ (setup.expand u ws).heap := by
  apply setup.expand_induction
    (fun current => forall v, current.Live v -> current.closed v = false ->
      ⟨current.gOf v + setup.heuristic v, v⟩ ∈ current.heap) u ws queued
  intro current kept edge _
  rcases setup.relaxEdge_cases u (setup.inboundAt ws u) current edge with ⟨same, _⟩ | ⟨_, _, _, _, same⟩ <;> rw [same]
  · exact kept
  · exact queued_relaxAndPush kept _ _ _ _ _

theorem live_relaxEdge (u : Int) (inbound : R) {ws : SearchWorkspace R} (edge : GraphEdge R) {v : Int}
    (live : ws.Live v) : (setup.relaxEdge u inbound ws edge).Live v := by
  rcases setup.relaxEdge_cases u inbound ws edge with ⟨same, _⟩ | ⟨_, _, _, _, same⟩ <;> rw [same]
  · exact live
  · exact (setup.live_relaxAndPush ws _ _ _ _ _ _).mpr (.inr live)

end

omit [Field R] [IsStrictOrderedRing R] in
/-- A label below a finite one belongs to a live vertex. -/
theorem live_of_le_finite {ws : SearchWorkspace R} {v : Int} {bound : WithTop R} (finite : bound ≠ ⊤)
    (le : ws.gOf v ≤ bound) : ws.Live v := by
  by_contra dead
  rw [SearchWorkspace.gOf, if_neg dead, top_le_iff] at le
  exact finite le

omit [IsStrictOrderedRing R] in
theorem tentative_ne_top {ws : SearchWorkspace R} {u : Int} (finite : ws.gOf u ≠ ⊤) (inbound : R)
    (edge : GraphEdge R) (extraCost : R) : setup.tentative ws u inbound edge extraCost ≠ ⊤ := by
  rcases WithTop.ne_top_iff_exists.mp finite with ⟨g, label⟩
  rw [tentative, ← label]
  exact WithTop.coe_ne_top

omit [IsStrictOrderedRing R] in
/-- Closing a vertex labels what it leads to. -/
theorem live_expand {sources : List (SeededEndpoint R)} {ws : SearchWorkspace R} (sound : setup.Sound sources ws)
    {u : Int} (closed : ws.closed u = true) :
    (forall v, ws.Live v -> (setup.expand u ws).Live v) ∧
      forall edge extraCost, edge ∈ setup.graph.edgesFrom u -> setup.Usable u edge extraCost ->
        (setup.expand u ws).Live edge.toVertex := by
  have run : forall (edges : List (GraphEdge R)) (current : SearchWorkspace R),
      (forall edge, edge ∈ edges -> edge ∈ setup.graph.edgesFrom u) -> setup.Sound sources current ->
      current.closed u = true ->
      (forall v, current.Live v -> (edges.foldl (setup.relaxEdge u (setup.inboundAt ws u)) current).Live v) ∧
        forall edge extraCost, edge ∈ edges -> setup.Usable u edge extraCost ->
          (edges.foldl (setup.relaxEdge u (setup.inboundAt ws u)) current).Live edge.toVertex := by
    intro edges
    induction edges with
    | nil => exact fun _ _ _ _ => ⟨fun _ live => live, fun _ _ member => absurd member List.not_mem_nil⟩
    | cons first rest inductionHypothesis =>
        intro current listed sound closed
        have listedFirst := listed first List.mem_cons_self
        have stepped := sound.relaxEdge closed (setup.inboundAt ws u) listedFirst
        have others := inductionHypothesis _ (fun edge member => listed edge (List.mem_cons_of_mem first member))
          stepped ((setup.closed_relaxEdge u (setup.inboundAt ws u) current first u).trans closed)
        refine ⟨fun v live => others.1 v (live_relaxEdge u _ first live), fun edge extraCost member usable => ?_⟩
        rcases List.mem_cons.mp member with rfl | later
        · apply others.1
          have finite := sound.finite u (sound.closedLive u closed)
          rcases setup.relaxEdge_cases u (setup.inboundAt ws u) current edge with
            ⟨same, reason⟩ | ⟨_, _, _, _, same⟩ <;> rw [same]
          · by_cases targetClosed : current.closed edge.toVertex = true
            · exact sound.closedLive _ targetClosed
            · exact live_of_le_finite (tentative_ne_top finite _ edge extraCost)
                (reason extraCost usable (Bool.eq_false_iff.mpr targetClosed))
          · exact (setup.live_relaxAndPush current _ _ _ _ _ _).mpr (.inl rfl)
        · exact others.2 edge extraCost later usable
  exact run (setup.graph.edgesFrom u) ws (fun _ listed => listed) sound closed

/-! ## What a run keeps -/

section

omit [IsStrictOrderedRing R]

theorem totalAt_ne_top {ws : SearchWorkspace R} {u : Int} (finite : ws.gOf u ≠ ⊤) : setup.totalAt ws u ≠ ⊤ := by
  rcases WithTop.ne_top_iff_exists.mp finite with ⟨g, label⟩
  rw [totalAt, ← label]
  split_ifs <;> exact WithTop.coe_ne_top

theorem Covers.visit {sources : List (SeededEndpoint R)} {state : SearchState R}
    (sound : setup.Sound sources state.ws) (covers : setup.Covers sources state) {top : QueueNode R}
    {rest : List (QueueNode R)} (popped : Popped state.ws.heap top rest) :
    setup.Covers sources (setup.visit top.vertex { state with ws := state.ws.withHeap rest }) := by
  have live := sound.queuedLive top ((popped.remaining top).mpr (Or.inl rfl))
  have soundRest := (sound.withHeap fun node member =>
    (popped.remaining node).mpr (Or.inr member)).markClosed live
  have total := setup.bestTotal_visit_le top.vertex { state with ws := state.ws.withHeap rest }
  have wsAfter : (setup.visit top.vertex { state with ws := state.ws.withHeap rest }).ws =
      setup.expand top.vertex ((state.ws.withHeap rest).markClosed top.vertex) := visit_ws _ _ _
  have closedHere := SearchWorkspace.closed_markClosed_self (state.ws.withHeap rest) top.vertex
  have closedCases : forall v, ((state.ws.withHeap rest).markClosed top.vertex).closed v = true ->
      v = top.vertex ∨ state.ws.closed v = true := by
    intro v closed
    rw [SearchWorkspace.closed_markClosed, Bool.or_eq_true, decide_eq_true_eq] at closed
    exact closed
  have labels := live_expand soundRest closedHere
  constructor
  · rw [wsAfter]
    apply queued_expand
    intro v isLive isOpen
    rw [SearchWorkspace.closed_markClosed, Bool.or_eq_false_iff, decide_eq_false_iff_not] at isOpen
    have queued := covers.queued v isLive isOpen.2
    exact ((popped.remaining _).mp queued).resolve_left fun same => isOpen.1 (congrArg QueueNode.vertex same)
  · intro source listed inRange unblocked
    rw [wsAfter]
    exact labels.1 _ (covers.seeded source listed inRange unblocked)
  · intro u closed edge extraCost listed usable
    rw [wsAfter] at closed ⊢
    rw [closed_expand] at closed
    rcases closedCases u closed with rfl | old
    · exact labels.2 edge extraCost listed usable
    · exact labels.1 _ (covers.relaxed u old edge extraCost listed usable)
  · intro u closed isGoal
    rw [wsAfter, closed_expand] at closed
    rcases closedCases u closed with rfl | old
    · exact ne_top_of_le_ne_top (totalAt_ne_top (soundRest.finite _ live)) (total.2 isGoal)
    · exact ne_top_of_le_ne_top (covers.best u old isGoal) total.1

theorem Covers.skip {sources : List (SeededEndpoint R)} {state : SearchState R}
    (covers : setup.Covers sources state) {top : QueueNode R} {rest : List (QueueNode R)}
    (popped : Popped state.ws.heap top rest) (closed : state.ws.closed top.vertex = true) :
    setup.Covers sources { state with ws := state.ws.withHeap rest } where
  queued := fun v isLive isOpen =>
    ((popped.remaining _).mp (covers.queued v isLive isOpen)).resolve_left fun same => by
      have vertex : v = top.vertex := congrArg QueueNode.vertex same
      rw [SearchWorkspace.closed_withHeap, vertex, closed] at isOpen
      cases isOpen
  seeded := covers.seeded
  relaxed := covers.relaxed
  best := covers.best

theorem live_seedSource (ws : SearchWorkspace R) (source : SeededEndpoint R) :
    (forall v, ws.Live v -> (setup.seedSource ws source).Live v) ∧
      (setup.graph.InRange source.vertex -> setup.options.nodeFilter.blocks source.vertex = false ->
        (setup.seedSource ws source).Live source.vertex) := by
  rcases setup.seedSource_cases ws source with ⟨same, notLess⟩ | ⟨_, _, _, same⟩ <;> rw [same]
  · exact ⟨fun _ live => live, fun inRange unblocked => live_of_gOf_le (notLess inRange unblocked)⟩
  · exact ⟨fun v live => (setup.live_relaxAndPush ws _ _ _ _ _ _).mpr (.inr live),
      fun _ _ => (setup.live_relaxAndPush ws _ _ _ _ _ _).mpr (.inl rfl)⟩

theorem covers_searchInit (sources : List (SeededEndpoint R)) {ws : SearchWorkspace R} (stamped : ws.Stamped) :
    setup.Covers sources (setup.searchInit sources ws) := by
  have noneClosed := (setup.sound_searchInit sources stamped).1
  constructor
  · apply setup.searchInit_induction
      (fun current => forall v, current.Live v -> current.closed v = false ->
        ⟨current.gOf v + setup.heuristic v, v⟩ ∈ current.heap) sources ws
    · exact fun v live => absurd live (stamped.not_live_nextGeneration v)
    · intro current queued source _
      rcases setup.seedSource_cases current source with ⟨same, _⟩ | ⟨_, _, _, same⟩ <;> rw [same]
      · exact queued
      · exact queued_relaxAndPush queued _ _ _ _ _
  · intro source listed inRange unblocked
    rcases List.append_of_mem listed with ⟨before, after, split⟩
    have foldLive : forall (others : List (SeededEndpoint R)) (current : SearchWorkspace R),
        current.Live source.vertex -> (others.foldl setup.seedSource current).Live source.vertex := by
      intro others
      induction others with
      | nil => exact fun _ live => live
      | cons first rest inductionHypothesis =>
          exact fun current live => inductionHypothesis _ ((live_seedSource current first).1 _ live)
    have whole : (setup.searchInit sources ws).ws =
        after.foldl setup.seedSource (setup.seedSource (before.foldl setup.seedSource
          (ws.nextGeneration.withHeap [])) source) := by
      rw [searchInit, split, List.foldl_append, List.foldl_cons]
    rw [whole]
    exact foldLive after _ ((live_seedSource _ source).2 inRange unblocked)
  · intro u closed
    rw [noneClosed u] at closed
    cases closed
  · intro u closed
    rw [noneClosed u] at closed
    cases closed

end

/-! ## The result -/

omit [IsStrictOrderedRing R] in
/-- Where steps lead from a source is closed when nothing was found. -/
theorem Covers.closed_of_steps {sources : List (SeededEndpoint R)} {state : SearchState R}
    (sound : setup.Sound sources state.ws) (covers : setup.Covers sources state) (exhausted : Exhausted state)
    (nothing : state.bestTotal = ⊤) (finite : forall v, setup.heuristic v ≠ ⊤) {path : List Int}
    (steps : path.IsChain setup.Step) {front back : Int} (first : path.head? = some front)
    (last : path.getLast? = some back) (live : state.ws.Live front) : state.ws.closed back = true := by
  have closedOfLive : forall v, state.ws.Live v -> state.ws.closed v = true := by
    intro v live
    by_contra isOpen
    have least := exhausted _ (covers.queued v live (Bool.eq_false_iff.mpr isOpen))
    rw [nothing, top_le_iff, WithTop.add_eq_top] at least
    exact least.elim (sound.finite v live) (finite v)
  induction path generalizing front with
  | nil => cases first
  | cons u rest inductionHypothesis =>
      cases first
      cases rest with
      | nil =>
          cases last
          exact closedOfLive _ live
      | cons v rest =>
          rcases List.isChain_cons_cons.mp steps with ⟨step, others⟩
          rcases step.edge with ⟨edge, listed, target, isAllowed⟩
          rcases Option.isSome_iff_exists.mp isAllowed with ⟨extraCost, allowed⟩
          subst target
          exact inductionHypothesis others rfl last
            (covers.relaxed u (closedOfLive u live) edge extraCost listed ⟨step.node, step.banned, allowed⟩)

variable (setup) in
omit [IsStrictOrderedRing R] in
/-- A search finds a path exactly when there is a walk, whatever turns cost. -/
theorem found_iff_walk (finite : forall v, setup.heuristic v ≠ ⊤) (sources : List (SeededEndpoint R))
    {ws : SearchWorkspace R} (stamped : ws.Stamped) :
    (setup.findShortestPathMulti sources ws).1.found = true ↔ exists path, setup.Walk sources path := by
  constructor
  · exact fun found => ⟨_, (setup.isRoute_of_found sources stamped found).walk⟩
  · rintro ⟨path, walk⟩
    rcases walk.starts with ⟨source, listed, first, inRange, unblocked⟩
    rcases walk.ends with ⟨goal, last, isGoal⟩
    rcases setup.findShortestPathMulti_spec (setup.Covers sources) sources stamped
      (covers_searchInit sources stamped)
      (fun _ _ covers _ _ popped closed => covers.skip popped closed)
      (fun _ sound covers _ _ popped _ _ => covers.visit sound popped) with
      ⟨final, sound, best, covers, exhausted, equal⟩
    rw [equal]
    rcases sound.searchResult_cases best with ⟨nothing, _⟩ | ⟨_, _, _, _, _, same⟩
    · have closed := covers.closed_of_steps sound exhausted nothing finite walk.steps first last
        (covers.seeded source listed inRange unblocked)
      exact absurd nothing (covers.best goal closed isGoal)
    · rw [same]

end SearchSetup
end BravoFinder
