import BravoFinder.Graph.SearchRun
import Mathlib.Data.List.Chain

namespace BravoFinder

/-!
# The structure of a found path

`Sound` is the invariant of a run that needs no arithmetic.  The labels of a
closed vertex never change again, so the predecessors of a live vertex form a
trail of closed vertices back to a source.  A vertex joins the front of such a
trail only while it is open, so no trail repeats a vertex.

`isRoute_of_found` is what a caller gets from it: the path of a search that
found a goal starts at a source, ends at a goal, repeats no vertex, enters no
blocked vertex and takes an allowed edge at every step.
-/

/-! ## Trails of predecessors -/

/-- The predecessors of the first vertex, back to a source through closed
vertices. -/
inductive Trail {R : Type} [Zero R] [One R] [Neg R] (ws : SearchWorkspace R) : List Int -> Prop
  | source {v : Int} : ws.Live v -> ws.prevOf v = kNoVertex -> Trail ws [v]
  | step {v u : Int} {rest : List Int} : ws.Live v -> ws.prevOf v = u -> ws.closed u = true ->
      v ∉ u :: rest -> Trail ws (u :: rest) -> Trail ws (v :: u :: rest)

namespace Trail

variable {R : Type} [Zero R] [One R] [Neg R] {ws other : SearchWorkspace R}

theorem live {path : List Int} (trail : Trail ws path) : forall v, v ∈ path.head? -> ws.Live v := by
  cases trail with
  | source live _ =>
      intro v first
      cases first
      exact live
  | step live _ _ _ _ =>
      intro v first
      cases first
      exact live

theorem nodup {path : List Int} (trail : Trail ws path) : path.Nodup := by
  induction trail with
  | source _ _ => exact List.nodup_singleton _
  | step _ _ _ fresh _ inductionHypothesis => exact List.nodup_cons.mpr ⟨fresh, inductionHypothesis⟩

/-- Every vertex behind the first one is closed. -/
theorem closed_of_mem_tail {path : List Int} (trail : Trail ws path) :
    forall w, w ∈ path.tail -> ws.closed w = true := by
  induction trail with
  | source _ _ =>
      intro w member
      cases member
  | step _ _ closed _ _ inductionHypothesis =>
      intro w member
      rcases List.mem_cons.mp member with same | later
      · rw [same]
        exact closed
      · exact inductionHypothesis w later

/-- A trail survives every change that keeps its labels and closes more. -/
theorem frame {path : List Int} (trail : Trail ws path)
    (labels : forall v, v ∈ path -> SearchWorkspace.SameLabel other ws v)
    (closes : forall v, ws.closed v = true -> other.closed v = true) : Trail other path := by
  induction trail with
  | source live prev =>
      have label := labels _ (List.mem_singleton.mpr rfl)
      exact .source (label.live.mpr live) (label.prev.trans prev)
  | step live prev closed fresh _ inductionHypothesis =>
      have label := labels _ List.mem_cons_self
      exact .step (label.live.mpr live) (label.prev.trans prev) (closes _ closed) fresh
        (inductionHypothesis fun v member => labels v (List.mem_cons_of_mem _ member))

/-- Walking back from the first vertex spells out the trail. -/
theorem walkBack_eq {path : List Int} (trail : Trail ws path)
    (vertices : forall v, v ∈ path -> v ≠ kNoVertex) :
    forall fuel, path.length ≤ fuel -> forall v, path.head? = some v ->
      SearchSetup.walkBack ws fuel v = path := by
  induction trail with
  | @source v live prev =>
      intro fuel enough first same
      cases same
      obtain ⟨fuel, rfl⟩ : exists smaller, fuel = smaller + 1 := ⟨fuel - 1, by
        simp only [List.length_singleton] at enough
        omega⟩
      rw [SearchSetup.walkBack, if_neg (vertices v (List.mem_singleton.mpr rfl)), prev]
      cases fuel with
      | zero => rfl
      | succ _ => rw [SearchSetup.walkBack, if_pos rfl]
  | @step v u rest live prev closed fresh _ inductionHypothesis =>
      intro fuel enough first same
      cases same
      obtain ⟨fuel, rfl⟩ : exists smaller, fuel = smaller + 1 := ⟨fuel - 1, by
        simp only [List.length_cons] at enough
        omega⟩
      have shorter : (u :: rest).length ≤ fuel := Nat.le_of_succ_le_succ enough
      rw [SearchSetup.walkBack, if_neg (vertices v List.mem_cons_self), prev,
        inductionHypothesis (fun w member => vertices w (List.mem_cons_of_mem _ member)) fuel shorter
          u rfl]

end Trail

namespace SearchSetup

variable {R : Type} [LinearOrder R] [NatCast R] [Zero R] [One R] [Neg R] [Add R] [Sub R] [Mul R]
  [Div R] (setup : SearchSetup R)

/-! ## The structural invariant -/

/-- The search may step from `u` to `v`. -/
structure Step (u v : Int) : Prop where
  node : setup.options.nodeFilter.blocks v = false
  banned : setup.options.edgeFilter.blocks u v = false
  edge : exists edge, edge ∈ setup.graph.edgesFrom u ∧ edge.toVertex = v ∧
    (edgeAllowed setup.options setup.graph edge u).isSome = true

omit [NatCast R] [Sub R] [Mul R] [Div R] in
theorem Usable.step {setup : SearchSetup R} {u : Int} {edge : GraphEdge R} {extraCost : R}
    (usable : setup.Usable u edge extraCost) (listed : edge ∈ setup.graph.edgesFrom u) :
    setup.Step u edge.toVertex :=
  ⟨usable.node, usable.banned, edge, listed, rfl, by rw [usable.allowed]; rfl⟩

/-- How a vertex got its label: as a source, or over an edge out of a closed
vertex. -/
def Reached (sources : List (SeededEndpoint R)) (ws : SearchWorkspace R) (v prev : Int) : Prop :=
  (prev = kNoVertex ∧ exists source, source ∈ sources ∧ source.vertex = v) ∨
    (prev ≠ kNoVertex ∧ ws.closed prev = true ∧ setup.Step prev v)

/-- What holds of the workspace all along a run. -/
structure Sound (sources : List (SeededEndpoint R)) (ws : SearchWorkspace R) : Prop where
  stamped : ws.Stamped
  finite : forall v, ws.Live v -> ws.gOf v ≠ ⊤
  closedLive : forall v, ws.closed v = true -> ws.Live v
  queuedLive : forall node, node ∈ ws.heap -> ws.Live node.vertex
  inRange : forall v, ws.Live v -> setup.graph.InRange v
  unblocked : forall v, ws.Live v -> setup.options.nodeFilter.blocks v = false
  reached : forall v, ws.Live v -> setup.Reached sources ws v (ws.prevOf v)
  trail : forall v, ws.Live v -> exists rest, Trail ws (v :: rest)

namespace Sound

variable {setup : SearchSetup R} {sources : List (SeededEndpoint R)} {ws : SearchWorkspace R}

omit [NatCast R] [Sub R] [Mul R] [Div R] in
/-- Labelling an open vertex from a source or from a closed vertex. -/
theorem relaxAndPush (sound : setup.Sound sources ws) {vertex : Int}
    (inRange : setup.graph.InRange vertex)
    (unblocked : setup.options.nodeFilter.blocks vertex = false)
    (isOpen : ws.closed vertex = false) {g : WithTop R} (finite : g ≠ ⊤) (geo : R) {prev : Int}
    (inbound : R) (reached : setup.Reached sources ws vertex prev) :
    setup.Sound sources (setup.relaxAndPush ws vertex g geo prev inbound) := by
  have live := fun other => setup.live_relaxAndPush ws vertex other g geo prev inbound
  have notClosed : forall {other}, ws.closed other = true -> other ≠ vertex := by
    intro other closed same
    rw [same, isOpen] at closed
    cases closed
  have label : forall {other}, other ≠ vertex -> SearchWorkspace.SameLabel
      (setup.relaxAndPush ws vertex g geo prev inbound) ws other :=
    fun different => setup.sameLabel_relaxAndPush ws g geo prev inbound different
  constructor
  · exact (sound.stamped.relax vertex g geo prev inbound).withHeap _
  · intro other isLive
    by_cases same : other = vertex
    · rw [gOf_relaxAndPush, if_pos same]
      exact finite
    · rw [(label same).g]
      exact sound.finite other ((label same).live.mp isLive)
  · intro other closed
    exact (live other).mpr (Or.inr (sound.closedLive other closed))
  · intro node member
    rw [heap_relaxAndPush, StdHeap.mem_push] at member
    rcases member with same | old
    · exact (live node.vertex).mpr (Or.inl (congrArg QueueNode.vertex same))
    · exact (live node.vertex).mpr (Or.inr (sound.queuedLive node old))
  · intro other isLive
    rcases (live other).mp isLive with same | old
    · rw [same]
      exact inRange
    · exact sound.inRange other old
  · intro other isLive
    rcases (live other).mp isLive with same | old
    · rw [same]
      exact unblocked
    · exact sound.unblocked other old
  · intro other isLive
    by_cases same : other = vertex
    · rw [prevOf_relaxAndPush, if_pos same, same]
      exact reached
    · rw [(label same).prev]
      exact sound.reached other ((label same).live.mp isLive)
  · intro other isLive
    -- A trail whose tail is closed does not pass the open vertex.
    have kept : forall {path}, Trail ws path -> (forall w, w ∈ path -> w ≠ vertex) ->
        Trail (setup.relaxAndPush ws vertex g geo prev inbound) path :=
      fun trail avoids => trail.frame (fun w member => label (avoids w member)) fun _ closed => closed
    by_cases same : other = vertex
    · subst same
      rcases reached with ⟨noPrev, _⟩ | ⟨_, closedPrev, _⟩
      · refine ⟨[], .source isLive ?_⟩
        rw [prevOf_relaxAndPush, if_pos rfl, noPrev]
      · rcases sound.trail prev (sound.closedLive prev closedPrev) with ⟨rest, trail⟩
        have avoids : forall w, w ∈ prev :: rest -> w ≠ other := by
          intro w member
          rcases List.mem_cons.mp member with isPrev | later
          · rw [isPrev]
            exact notClosed closedPrev
          · exact notClosed (trail.closed_of_mem_tail w later)
        refine ⟨prev :: rest, .step isLive ?_ closedPrev (fun member => avoids other member rfl)
          (kept trail avoids)⟩
        rw [prevOf_relaxAndPush, if_pos rfl]
    · rcases sound.trail other ((label same).live.mp isLive) with ⟨rest, trail⟩
      refine ⟨rest, kept trail fun w member => ?_⟩
      rcases List.mem_cons.mp member with isFirst | later
      · rw [isFirst]
        exact same
      · exact notClosed (trail.closed_of_mem_tail w later)

/-- Relaxing an edge out of a closed vertex. -/
theorem relaxEdge (sound : setup.Sound sources ws) {u : Int} (closed : ws.closed u = true)
    (inbound : R) {edge : GraphEdge R} (listed : edge ∈ setup.graph.edgesFrom u) :
    setup.Sound sources (setup.relaxEdge u inbound ws edge) := by
  rcases setup.relaxEdge_cases u inbound ws edge with
    ⟨same, _⟩ | ⟨extraCost, usable, isOpen, cheaper, same⟩ <;> rw [same]
  · exact sound
  · have uInRange := sound.inRange u (sound.closedLive u closed)
    have uVertex : u ≠ kNoVertex := by
      have nonneg := uInRange.1
      unfold kNoVertex
      omega
    exact sound.relaxAndPush (setup.graph.inRange_toVertex listed) usable.node isOpen
      (ne_top_of_lt cheaper) _ _ (Or.inr ⟨uVertex, closed, usable.step listed⟩)

theorem expand (sound : setup.Sound sources ws) {u : Int} (closed : ws.closed u = true) :
    setup.Sound sources (setup.expand u ws) := by
  have kept := setup.expand_induction
    (fun current => current.closed u = true ∧ setup.Sound sources current) u ws ⟨closed, sound⟩
    (fun current holds edge listed => ⟨(setup.closed_relaxEdge u _ current edge u).trans holds.1,
      holds.2.relaxEdge holds.1 _ listed⟩)
  exact kept.2

section

omit [NatCast R] [Sub R] [Mul R] [Div R]

theorem seedSource (sound : setup.Sound sources ws) (noneClosed : forall v, ws.closed v = false)
    {source : SeededEndpoint R} (listed : source ∈ sources) :
    setup.Sound sources (setup.seedSource ws source) := by
  rcases setup.seedSource_cases ws source with ⟨same, _⟩ | ⟨inRange, unblocked, _, same⟩ <;> rw [same]
  · exact sound
  · exact sound.relaxAndPush inRange unblocked (noneClosed source.vertex) (WithTop.coe_ne_top) _ _
      (Or.inl ⟨rfl, source, listed, rfl⟩)

theorem markClosed (sound : setup.Sound sources ws) {u : Int} (live : ws.Live u) :
    setup.Sound sources (ws.markClosed u) where
  stamped := sound.stamped.markClosed u
  finite := sound.finite
  closedLive v closed := by
    rw [SearchWorkspace.closed_markClosed, Bool.or_eq_true, decide_eq_true_eq] at closed
    rcases closed with same | old
    · rw [same]
      exact live
    · exact sound.closedLive v old
  queuedLive := sound.queuedLive
  inRange := sound.inRange
  unblocked := sound.unblocked
  reached v isLive := by
    rcases sound.reached v isLive with source | ⟨isVertex, closed, step⟩
    · exact Or.inl source
    · exact Or.inr ⟨isVertex, ws.closed_markClosed_of_closed u _ closed, step⟩
  trail v isLive := by
    rcases sound.trail v isLive with ⟨rest, trail⟩
    exact ⟨rest, trail.frame (fun _ _ => ⟨Iff.rfl, rfl, rfl, rfl, rfl⟩)
      fun w closed => ws.closed_markClosed_of_closed u w closed⟩

theorem withHeap (sound : setup.Sound sources ws) {heap : List (QueueNode R)}
    (fewer : forall node, node ∈ heap -> node ∈ ws.heap) :
    setup.Sound sources (ws.withHeap heap) where
  stamped := sound.stamped.withHeap heap
  finite := sound.finite
  closedLive := sound.closedLive
  queuedLive node member := sound.queuedLive node (fewer node member)
  inRange := sound.inRange
  unblocked := sound.unblocked
  reached := sound.reached
  trail v isLive := by
    rcases sound.trail v isLive with ⟨rest, trail⟩
    exact ⟨rest, trail.frame (fun _ _ => ⟨Iff.rfl, rfl, rfl, rfl, rfl⟩) fun _ closed => closed⟩

end

end Sound

omit [NatCast R] [Sub R] [Mul R] [Div R] in
theorem closed_seedSource (ws : SearchWorkspace R) (source : SeededEndpoint R) (v : Int) :
    (setup.seedSource ws source).closed v = ws.closed v := by
  rcases setup.seedSource_cases ws source with ⟨same, _⟩ | ⟨_, _, _, same⟩ <;> rw [same]
  rw [closed_relaxAndPush]

omit [NatCast R] [Sub R] [Mul R] [Div R] in
/-- The seeded start is sound, whatever the workspace was used for before. -/
theorem sound_searchInit (sources : List (SeededEndpoint R)) {ws : SearchWorkspace R}
    (stamped : ws.Stamped) :
    (forall v, (setup.searchInit sources ws).ws.closed v = false) ∧
      setup.Sound sources (setup.searchInit sources ws).ws := by
  have dead : forall v, ¬ (ws.nextGeneration.withHeap []).Live v := stamped.not_live_nextGeneration
  apply setup.searchInit_induction
    (fun current => (forall v, current.closed v = false) ∧ setup.Sound sources current)
  · refine ⟨stamped.closed_nextGeneration, ?_⟩
    exact {
      stamped := stamped.nextGeneration.withHeap []
      finite := fun v live => absurd live (dead v)
      closedLive := fun v closed => by
        rw [SearchWorkspace.closed_withHeap, stamped.closed_nextGeneration v] at closed
        cases closed
      queuedLive := fun _ member => absurd member List.not_mem_nil
      inRange := fun v live => absurd live (dead v)
      unblocked := fun v live => absurd live (dead v)
      reached := fun v live => absurd live (dead v)
      trail := fun v live => absurd live (dead v) }
  · rintro current ⟨noneClosed, sound⟩ source listed
    exact ⟨fun v => (setup.closed_seedSource current source v).trans (noneClosed v),
      sound.seedSource noneClosed listed⟩

/-! ## The best goal -/

/-- A closed vertex keeps its labels. -/
theorem sameLabel_expand {u w : Int} (ws : SearchWorkspace R) (closed : ws.closed w = true) :
    SearchWorkspace.SameLabel (setup.expand u ws) ws w := by
  have kept := setup.expand_induction
    (fun current => current.closed w = true ∧ SearchWorkspace.SameLabel current ws w) u ws
    ⟨closed, .refl ws w⟩ (by
      rintro current ⟨stillClosed, same⟩ edge _
      refine ⟨(setup.closed_relaxEdge u _ current edge w).trans stillClosed, ?_⟩
      rcases setup.relaxEdge_cases u (setup.inboundAt ws u) current edge with
        ⟨equal, _⟩ | ⟨_, _, isOpen, _, equal⟩ <;> rw [equal]
      · exact same
      · refine (setup.sameLabel_relaxAndPush current _ _ _ _ ?_).trans same
        intro equal
        rw [equal, isOpen] at stillClosed
        cases stillClosed)
  exact kept.2

theorem totalAt_congr {first second : SearchWorkspace R} {u : Int}
    (same : SearchWorkspace.SameLabel first second u) :
    setup.totalAt first u = setup.totalAt second u := by
  simp only [totalAt, same.g, same.inbound]

/-- What holds of the best goal all along a run. -/
def Best (state : SearchState R) : Prop :=
  (state.bestGoal = kNoVertex ∧ state.bestTotal = ⊤) ∨
    (state.ws.closed state.bestGoal = true ∧ 0 ≤ setup.tables.goalSeed state.bestGoal ∧
      state.bestTotal = setup.totalAt state.ws state.bestGoal)

theorem Best.visit {setup : SearchSetup R} {state : SearchState R} (best : setup.Best state) (u : Int) :
    setup.Best (setup.visit u state) := by
  have closes : forall v, (state.ws.markClosed u).closed v = true ->
      (setup.visit u state).ws.closed v = true := by
    intro v closed
    rw [visit_ws, closed_expand]
    exact closed
  have total : forall v, (state.ws.markClosed u).closed v = true ->
      setup.totalAt (setup.visit u state).ws v = setup.totalAt state.ws v := by
    intro v closed
    rw [visit_ws, setup.totalAt_congr (setup.sameLabel_expand _ closed)]
    exact setup.totalAt_congr ⟨Iff.rfl, rfl, rfl, rfl, rfl⟩
  have closedHere := state.ws.closed_markClosed_self u
  rcases setup.finishAt_cases u { state with ws := state.ws.markClosed u } with
    ⟨same, _⟩ | ⟨goal, _, same⟩
  · have bestSame : (setup.visit u state).bestGoal = state.bestGoal ∧
        (setup.visit u state).bestTotal = state.bestTotal := by
      simp only [SearchSetup.visit, same, and_self]
    rcases best with ⟨noGoal, noTotal⟩ | ⟨closed, isGoal, reached⟩
    · exact Or.inl ⟨bestSame.1.trans noGoal, bestSame.2.trans noTotal⟩
    · have stillClosed := state.ws.closed_markClosed_of_closed u state.bestGoal closed
      refine Or.inr ?_
      rw [bestSame.1, bestSame.2, total _ stillClosed]
      exact ⟨closes _ stillClosed, isGoal, reached⟩
  · have bestHere : (setup.visit u state).bestGoal = u ∧
        (setup.visit u state).bestTotal = setup.totalAt state.ws u := by
      simp only [SearchSetup.visit, same, true_and]
      exact setup.totalAt_congr ⟨Iff.rfl, rfl, rfl, rfl, rfl⟩
    refine Or.inr ?_
    rw [bestHere.1, bestHere.2, total u closedHere]
    exact ⟨closes u closedHere, goal, rfl⟩

/-! ## The rule for whole searches -/

/-- Any further invariant of a search, established by seeding and kept by a
visit, holds with the structural ones when the loop stops. -/
theorem search_spec (Inv : SearchState R -> Prop) (sources : List (SeededEndpoint R))
    {ws : SearchWorkspace R} (stamped : ws.Stamped) (start : Inv (setup.searchInit sources ws))
    (skip : forall state, setup.Sound sources state.ws -> Inv state ->
      forall top rest, Popped state.ws.heap top rest -> state.ws.closed top.vertex = true ->
        Inv { state with ws := state.ws.withHeap rest })
    (visit : forall state, setup.Sound sources state.ws -> Inv state ->
      forall top rest, Popped state.ws.heap top rest -> state.ws.closed top.vertex = false ->
        top.f < state.bestTotal ->
        Inv (setup.visit top.vertex { state with ws := state.ws.withHeap rest })) :
    exists before heap, setup.Sound sources before.ws ∧ setup.Best before ∧ Inv before ∧
      Exhausted before ∧
      setup.searchLoop (setup.searchFuel sources) (setup.searchInit sources ws) =
        { before with ws := before.ws.withHeap heap } := by
  have run := setup.searchLoop_spec
    (fun state => setup.Sound sources state.ws ∧ setup.Best state ∧ Inv state) ?_ ?_
    (setup.searchFuel sources) (setup.searchInit sources ws) (setup.queued_searchInit sources ws)
    ⟨(setup.sound_searchInit sources stamped).2, Or.inl ⟨rfl, rfl⟩, start⟩
    (setup.budget_searchInit_le sources ws)
  · rcases run with ⟨before, heap, ⟨sound, best, inv⟩, exhausted, equal⟩
    exact ⟨before, heap, sound, best, inv, exhausted, equal⟩
  · rintro state ⟨sound, best, inv⟩ top rest popped closed
    exact ⟨sound.withHeap fun node member => (popped.remaining node).mpr (Or.inr member), best,
      skip state sound inv top rest popped closed⟩
  · rintro state ⟨sound, best, inv⟩ top rest popped isOpen less
    have live := sound.queuedLive top ((popped.remaining top).mpr (Or.inl rfl))
    have soundRest := sound.withHeap fun node member => (popped.remaining node).mpr (Or.inr member)
    have closedHere := (state.ws.withHeap rest).closed_markClosed_self top.vertex
    have bestRest : setup.Best { state with ws := state.ws.withHeap rest } := best
    refine ⟨?_, bestRest.visit top.vertex,
      visit state sound inv top rest popped isOpen less⟩
    rw [visit_ws]
    exact (soundRest.markClosed live).expand closedHere

/-! ## What a search returns -/

omit [LinearOrder R] [NatCast R] [Zero R] [One R] [Neg R] [Add R] [Sub R] [Mul R] [Div R] in
/-- Only the predecessors decide where a walk back leads. -/
theorem walkBack_congr (first second : SearchWorkspace R)
    (same : forall v, first.prevOf v = second.prevOf v) (fuel : Nat) (v : Int) :
    walkBack first fuel v = walkBack second fuel v := by
  induction fuel generalizing v with
  | zero => rfl
  | succ fuel inductionHypothesis =>
      rw [walkBack, walkBack, same v, inductionHypothesis (second.prevOf v)]

/-- With no source the loop has nothing to pop, so the early return changes
nothing. -/
theorem findShortestPathMulti_fst (sources : List (SeededEndpoint R)) (ws : SearchWorkspace R) :
    (setup.findShortestPathMulti sources ws).1 =
      setup.searchResult
        (setup.searchLoop (setup.searchFuel sources) (setup.searchInit sources ws)) := by
  unfold findShortestPathMulti
  cases sources with
  | cons source rest => rfl
  | nil =>
      have idle : forall fuel, setup.searchLoop fuel (setup.searchInit [] ws) = setup.searchInit [] ws := by
        intro fuel
        cases fuel with
        | zero => rfl
        | succ fuel =>
            have nothing : setup.engine.openSet.pop (setup.searchInit [] ws).ws.heap = none :=
              setup.engine.openSet.pop_nil
            rw [searchLoop, nothing]
      rw [idle]
      rfl

/-- The rule of `search_spec`, read off the returned path and workspace. -/
theorem findShortestPathMulti_spec (Inv : SearchState R -> Prop) (sources : List (SeededEndpoint R))
    {ws : SearchWorkspace R} (stamped : ws.Stamped) (start : Inv (setup.searchInit sources ws))
    (skip : forall state, setup.Sound sources state.ws -> Inv state ->
      forall top rest, Popped state.ws.heap top rest -> state.ws.closed top.vertex = true ->
        Inv { state with ws := state.ws.withHeap rest })
    (visit : forall state, setup.Sound sources state.ws -> Inv state ->
      forall top rest, Popped state.ws.heap top rest -> state.ws.closed top.vertex = false ->
        top.f < state.bestTotal ->
        Inv (setup.visit top.vertex { state with ws := state.ws.withHeap rest })) :
    exists final, setup.Sound sources final.ws ∧ setup.Best final ∧ Inv final ∧ Exhausted final ∧
      (setup.findShortestPathMulti sources ws).1 = setup.searchResult final := by
  rcases setup.search_spec Inv sources stamped start skip visit with
    ⟨before, heap, sound, best, inv, exhausted, equal⟩
  refine ⟨before, sound, best, inv, exhausted, ?_⟩
  have path := walkBack_congr (before.ws.withHeap heap) before.ws (fun _ => rfl)
  rw [findShortestPathMulti_fst, equal]
  unfold searchResult
  simp only [path, SearchWorkspace.geoOf_withHeap]

/-- A search leaves its workspace fit for the next one. -/
theorem stamped_findShortestPathMulti (sources : List (SeededEndpoint R)) {ws : SearchWorkspace R}
    (stamped : ws.Stamped) : (setup.findShortestPathMulti sources ws).2.Stamped := by
  unfold findShortestPathMulti
  by_cases empty : sources.isEmpty = true
  · rw [if_pos empty]
    exact stamped
  · rw [if_neg empty]
    rcases setup.search_spec (fun _ => True) sources stamped trivial (fun _ _ _ _ _ _ _ => trivial)
      (fun _ _ _ _ _ _ _ _ => trivial) with ⟨before, heap, sound, _, _, _, equal⟩
    simp only [equal]
    exact sound.stamped.withHeap heap

/-- A path the search may return. -/
structure Route (sources : List (SeededEndpoint R)) (path : List Int) : Prop where
  nonempty : path ≠ []
  nodup : path.Nodup
  inRange : forall v, v ∈ path -> setup.graph.InRange v
  unblocked : forall v, v ∈ path -> setup.options.nodeFilter.blocks v = false
  starts : exists source, source ∈ sources ∧ path.head? = some source.vertex
  ends : exists goal, path.getLast? = some goal ∧ 0 ≤ setup.tables.goalSeed goal
  steps : path.IsChain setup.Step

/-- A simple path of the search from a source, wherever it ends. -/
structure Approach (sources : List (SeededEndpoint R)) (path : List Int) : Prop where
  nodup : path.Nodup
  inRange : forall v, v ∈ path -> setup.graph.InRange v
  unblocked : forall v, v ∈ path -> setup.options.nodeFilter.blocks v = false
  starts : exists source, source ∈ sources ∧ path.head? = some source.vertex
  steps : path.IsChain setup.Step

section

omit [NatCast R] [Sub R] [Mul R] [Div R]

theorem Route.approach {setup : SearchSetup R} {sources : List (SeededEndpoint R)} {path : List Int}
    (route : setup.Route sources path) : setup.Approach sources path :=
  ⟨route.nodup, route.inRange, route.unblocked, route.starts, route.steps⟩

theorem Approach.mono {setup : SearchSetup R} {sources others : List (SeededEndpoint R)} {path : List Int}
    (approach : setup.Approach sources path)
    (included : forall source, source ∈ sources -> source ∈ others) : setup.Approach others path :=
  ⟨approach.nodup, approach.inRange, approach.unblocked,
    approach.starts.imp fun source holds => ⟨included source holds.1, holds.2⟩, approach.steps⟩

/-- A path approaches each of its vertices. -/
theorem Approach.before {setup : SearchSetup R} {sources : List (SeededEndpoint R)} {before after : List Int}
    {u : Int} (approach : setup.Approach sources (before ++ u :: after)) :
    setup.Approach sources (before ++ [u]) := by
  rw [List.append_cons before u after] at approach
  refine ⟨(List.nodup_append.mp approach.nodup).1,
    fun v member => approach.inRange v (List.mem_append_left _ member),
    fun v member => approach.unblocked v (List.mem_append_left _ member), ?_,
    (List.isChain_append.mp approach.steps).1⟩
  rcases approach.starts with ⟨source, listed, first⟩
  rw [List.head?_append_of_ne_nil _ (List.append_ne_nil_of_right_ne_nil _ (List.cons_ne_nil _ _))] at first
  exact ⟨source, listed, first⟩

theorem Route.mono {setup : SearchSetup R} {sources others : List (SeededEndpoint R)} {path : List Int}
    (route : setup.Route sources path) (included : forall source, source ∈ sources -> source ∈ others) :
    setup.Route others path :=
  ⟨route.nonempty, route.nodup, route.inRange, route.unblocked,
    route.starts.imp fun source holds => ⟨included source holds.1, holds.2⟩, route.ends, route.steps⟩

end

namespace Sound

variable {setup : SearchSetup R} {sources : List (SeededEndpoint R)} {ws : SearchWorkspace R}

section

omit [NatCast R] [Sub R] [Mul R] [Div R]

/-- Every vertex of a trail is live. -/
theorem live_of_mem_trail (sound : setup.Sound sources ws) {path : List Int} (trail : Trail ws path)
    {v : Int} (member : v ∈ path) : ws.Live v := by
  cases path with
  | nil => cases member
  | cons first rest =>
      rcases List.mem_cons.mp member with same | later
      · exact trail.live v (by rw [same]; rfl)
      · exact sound.closedLive v (trail.closed_of_mem_tail v later)

/-- A trail ends at a source, and each step of it is one the search may take. -/
theorem steps_of_trail (sound : setup.Sound sources ws) {path : List Int} (trail : Trail ws path) :
    (exists source, source ∈ sources ∧ path.getLast? = some source.vertex) ∧
      path.IsChain (fun v u => setup.Step u v) := by
  induction trail with
  | @source v live prev =>
      rcases sound.reached v live with ⟨_, source, listed, same⟩ | ⟨isVertex, _⟩
      · exact ⟨⟨source, listed, by rw [List.getLast?_singleton, same]⟩, .singleton v⟩
      · exact absurd prev isVertex
  | @step v u rest live prev closed _ trail inductionHypothesis =>
      rcases inductionHypothesis with ⟨source, chain⟩
      have uVertex : u ≠ kNoVertex := by
        have nonneg := (sound.inRange u (sound.closedLive u closed)).1
        unfold kNoVertex
        omega
      have reached := sound.reached v live
      rw [prev] at reached
      rcases reached with ⟨noPrev, _⟩ | ⟨_, _, step⟩
      · exact absurd noPrev uVertex
      · exact ⟨by rw [List.getLast?_cons_cons]; exact source, List.isChain_cons_cons.mpr ⟨step, chain⟩⟩

/-- The trail of a vertex is an approach to it. -/
theorem approach_of_trail (sound : setup.Sound sources ws) {v : Int} {rest : List Int}
    (trail : Trail ws (v :: rest)) : setup.Approach sources (v :: rest).reverse := by
  rcases sound.steps_of_trail trail with ⟨⟨source, listed, last⟩, chain⟩
  constructor
  · exact List.nodup_reverse.mpr trail.nodup
  · exact fun v member => sound.inRange v (sound.live_of_mem_trail trail (List.mem_reverse.mp member))
  · exact fun v member => sound.unblocked v (sound.live_of_mem_trail trail (List.mem_reverse.mp member))
  · exact ⟨source, listed, by rw [List.head?_reverse, last]⟩
  · exact List.isChain_reverse.mpr chain

theorem route_of_trail (sound : setup.Sound sources ws) {goal : Int} {rest : List Int}
    (trail : Trail ws (goal :: rest)) (isGoal : 0 ≤ setup.tables.goalSeed goal) :
    setup.Route sources (goal :: rest).reverse := by
  have approach := sound.approach_of_trail trail
  exact ⟨fun empty => List.cons_ne_nil goal rest (List.reverse_eq_nil_iff.mp empty), approach.nodup,
    approach.inRange, approach.unblocked, approach.starts,
    ⟨goal, by rw [List.getLast?_reverse, List.head?_cons], isGoal⟩, approach.steps⟩

end

/-- What the result of a search that stopped in a sound state is. -/
theorem searchResult_cases {state : SearchState R} (sound : setup.Sound sources state.ws)
    (best : setup.Best state) :
    (state.bestTotal = ⊤ ∧ setup.searchResult state = .unreachable) ∨
    exists rest, Trail state.ws (state.bestGoal :: rest) ∧
      state.ws.closed state.bestGoal = true ∧ 0 ≤ setup.tables.goalSeed state.bestGoal ∧
      state.bestTotal = setup.totalAt state.ws state.bestGoal ∧
      setup.searchResult state =
        { vertices := (state.bestGoal :: rest).reverse
          distanceNm := state.ws.geoOf state.bestGoal + setup.tables.goalSeed state.bestGoal
          cost := state.bestTotal.untopD 0
          found := true } := by
  rcases best with ⟨noGoal, noTotal⟩ | ⟨closed, isGoal, total⟩
  · exact Or.inl ⟨noTotal, if_pos (by rw [noGoal]; decide)⟩
  · have live := sound.closedLive state.bestGoal closed
    have isVertex : ¬ state.bestGoal < 0 := not_lt_of_ge (sound.inRange state.bestGoal live).1
    rcases sound.trail state.bestGoal live with ⟨rest, trail⟩
    have inRange : forall v, v ∈ state.bestGoal :: rest -> v ∈ setup.graph.vertices := fun v member =>
      (setup.graph.mem_vertices v).mpr (sound.inRange v (sound.live_of_mem_trail trail member))
    have short : (state.bestGoal :: rest).length ≤ setup.graph.coords.length := by
      rw [← setup.graph.length_vertices]
      exact (List.subperm_of_subset trail.nodup inRange).length_le
    have vertices : forall v, v ∈ state.bestGoal :: rest -> v ≠ kNoVertex := by
      intro v member
      have nonneg := ((setup.graph.mem_vertices v).mp (inRange v member)).1
      unfold kNoVertex
      omega
    refine Or.inr ⟨rest, trail, closed, isGoal, total, ?_⟩
    rw [searchResult, if_neg isVertex,
      trail.walkBack_eq vertices _ (Nat.le_succ_of_le short) state.bestGoal rfl]

end Sound

/-- The path of a search that found a goal is a route. -/
theorem isRoute_of_found (sources : List (SeededEndpoint R)) {ws : SearchWorkspace R}
    (stamped : ws.Stamped) (found : (setup.findShortestPathMulti sources ws).1.found = true) :
    setup.Route sources (setup.findShortestPathMulti sources ws).1.vertices := by
  rcases setup.findShortestPathMulti_spec (fun _ => True) sources stamped trivial
    (fun _ _ _ _ _ _ _ => trivial) (fun _ _ _ _ _ _ _ _ => trivial) with
    ⟨final, sound, best, _, _, equal⟩
  rw [equal] at found ⊢
  rcases sound.searchResult_cases best with ⟨_, same⟩ | ⟨rest, trail, _, isGoal, _, same⟩
  · rw [same] at found
    cases found
  · rw [same]
    exact sound.route_of_trail trail isGoal

end SearchSetup
end BravoFinder
