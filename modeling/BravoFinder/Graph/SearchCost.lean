import BravoFinder.Graph.SearchTrail
import BravoFinder.Graph.CostOfPath
import Mathlib.Algebra.Order.Field.Basic
import Mathlib.Algebra.Order.Group.Defs
import Mathlib.Tactic.Ring
import Mathlib.Tactic.Linarith

namespace BravoFinder

/-!
# One cost model

The search adds up its cost edge by edge, always over the edge that is cheapest
at that moment.  In exact arithmetic the sum is the one `CostOfPathMulti` forms
over the finished path: one visit relaxes each neighbour over the edge that
`SelectEdge` picks, ties included, and the heading kept at a vertex is the
heading of the path's last edge.
-/

variable {R : Type} [Field R] [LinearOrder R] [IsStrictOrderedRing R]

/-! ## Turns in exact arithmetic -/

section

omit [IsStrictOrderedRing R]

theorem interiorTurns_add (turn : TurnPenalty) (bearings : List R) (cost extra : R) :
    interiorTurns turn bearings (cost + extra) = interiorTurns turn bearings cost + extra := by
  induction bearings generalizing cost with
  | nil => rfl
  | cons first rest inductionHypothesis =>
      cases rest with
      | nil => rfl
      | cons second rest =>
          simp only [interiorTurns]
          rw [add_right_comm, inductionHypothesis]

/-- One more edge adds its cost and the turn onto it. -/
theorem turnsTo_concat (turn : TurnPenalty) {bearings : List R}
    (known : forall bearing, bearing ∈ bearings -> 0 ≤ bearing) {outbound : R}
    (outboundKnown : 0 ≤ outbound) (srcBearing cost extra : R) :
    turnsTo turn (bearings ++ [outbound]) srcBearing (cost + extra) =
      turnsTo turn bearings srcBearing cost + extra +
        turn.between (bearings.getLastD srcBearing) outbound := by
  rcases List.eq_nil_or_concat' bearings with empty | ⟨front, last, whole⟩
  · subst empty
    rw [List.getLastD_nil]
    by_cases srcKnown : 0 ≤ srcBearing
    · simp only [turnsTo, List.nil_append, List.isEmpty_cons, List.isEmpty_nil, Bool.false_eq_true,
        if_false, if_true, interiorTurns, List.headD_cons, TurnPenalty.between, srcKnown,
        outboundKnown, and_self]
    · simp only [turnsTo, List.nil_append, List.isEmpty_cons, List.isEmpty_nil, Bool.false_eq_true,
        if_false, if_true, interiorTurns, TurnPenalty.between, srcKnown, false_and, add_zero]
  · subst whole
    have lastKnown := known last (List.mem_append_right front (List.mem_singleton.mpr rfl))
    have head : (front ++ [last] ++ [outbound]).headD 0 = (front ++ [last]).headD 0 := by
      cases front <;> rfl
    have nonempty : (front ++ [last]).isEmpty = false := by cases front <;> rfl
    have longer : (front ++ [last] ++ [outbound]).isEmpty = false := by cases front <;> rfl
    rw [List.getLastD_concat, turn.between_known lastKnown outboundKnown]
    simp only [turnsTo, nonempty, longer, head, Bool.false_eq_true, if_false]
    rw [List.append_assoc, List.singleton_append, interiorTurns_concat]
    congr 1
    rw [← interiorTurns_add]
    congr 1
    split
    · rw [add_right_comm]
    · rfl

/-- The cost of a path is that of its edges, the turns up to its last vertex and
the turn at the goal fix. -/
theorem costOfPath_eq (earth : Geodesy R) (graph : NavGraph R R) {path : List Int}
    {options : SearchOptions R} (nonempty : path ≠ [])
    (unblocked : forall v, v ∈ path -> options.nodeFilter.blocks v = false) (srcBearing goalBearing : R)
    {cost distance : R} (edges : edgeCosts graph options path (0, 0) = some (cost, distance)) :
    costOfPath earth graph path options srcBearing goalBearing =
      some (if options.turnPenalty.enabled then
          turnsTo options.turnPenalty (edgeBearings earth graph path) srcBearing cost +
            options.turnPenalty.between (arrivalBearing earth graph srcBearing path) goalBearing
        else cost, distance) := by
  have allowed : path.any options.nodeFilter.blocks = false := by
    rw [List.any_eq_false]
    intro v member
    rw [unblocked v member]
    exact Bool.false_ne_true
  by_cases short : path.length < 2
  · obtain ⟨single, rfl⟩ : exists single, path = [single] :=
      List.length_eq_one_iff.mp (by
        have positive := List.length_pos_of_ne_nil nonempty
        omega)
    cases edges
    have turns : turnsTo options.turnPenalty (edgeBearings earth graph [single]) srcBearing (0 : R) =
        0 := rfl
    have arrival : arrivalBearing earth graph srcBearing [single] = srcBearing := rfl
    rw [costOfPath, if_pos short, turns, arrival]
    by_cases enabled : options.turnPenalty.enabled = true
    · by_cases known : 0 ≤ srcBearing ∧ 0 ≤ goalBearing
      · rw [if_pos ⟨enabled, known⟩, if_pos enabled,
          options.turnPenalty.between_known known.1 known.2]
      · rw [if_neg fun holds => known holds.2, if_pos enabled,
          options.turnPenalty.between_unknown known, add_zero]
    · rw [if_neg fun holds => enabled holds.1, if_neg enabled]
  · rw [costOfPath, if_neg short, allowed, edges]
    simp only [Bool.false_eq_true, if_false]
    by_cases enabled : options.turnPenalty.enabled = true
    · have some' : exists front last, edgeBearings earth graph path = front ++ [last] := by
        rcases List.eq_nil_or_concat' (edgeBearings earth graph path) with empty | whole
        · match path, short, empty with
          | [], short, _ => exact absurd (Nat.zero_lt_two) short
          | [_], short, _ => exact absurd (Nat.one_lt_two) short
          | _ :: _ :: _, _, empty => cases empty
        · exact whole
      rcases some' with ⟨front, last, whole⟩
      have lastKnown : 0 ≤ last := edgeBearings_nonneg earth graph path last
        (whole ▸ List.mem_append_right front (List.mem_singleton.mpr rfl))
      have nonemptyBearings : (front ++ [last]).isEmpty = false := by cases front <;> rfl
      rw [if_pos enabled, if_pos enabled, arrivalBearing, whole, List.getLastD_concat, addTurns,
        turnsTo, nonemptyBearings, List.getLastD_concat]
      simp only [Bool.false_eq_true, if_false]
      by_cases known : 0 ≤ goalBearing
      · rw [options.turnPenalty.between_known lastKnown known]
        simp only [known, if_true]
      · rw [options.turnPenalty.between_unknown fun holds => known holds.2, add_zero]
        simp only [known, if_false]
    · rw [if_neg enabled, if_neg enabled]

end

/-! ## One visit relaxes over the selected edge -/

namespace SearchSetup

variable (setup : SearchSetup R)

/-- The cost of reaching `v` from `u` over an edge of effective cost `cost`. -/
def reachCost (ws : SearchWorkspace R) (u : Int) (inbound : R) (v : Int) (cost : R) : WithTop R :=
  ws.gOf u + cost + setup.turnOnto inbound u v

omit [IsStrictOrderedRing R] in
theorem tentative_eq_reachCost (ws : SearchWorkspace R) (u : Int) (inbound : R) (edge : GraphEdge R)
    (extraCost : R) :
    setup.tentative ws u inbound edge extraCost =
      setup.reachCost ws u inbound edge.toVertex (edge.distanceNm + extraCost) := by
  rw [tentative, reachCost, WithTop.coe_add, add_assoc (ws.gOf u)]

/-- The costs of two parallel edges compare as the costs of reaching their end. -/
theorem reachCost_lt_iff {ws : SearchWorkspace R} {u : Int} (finite : ws.gOf u ≠ ⊤) (inbound : R)
    (v : Int) (first second : R) :
    setup.reachCost ws u inbound v first < setup.reachCost ws u inbound v second ↔ first < second := by
  rcases WithTop.ne_top_iff_exists.mp finite with ⟨g, same⟩
  simp only [reachCost, ← same, ← WithTop.coe_add, WithTop.coe_lt_coe]
  constructor <;> intro less <;> linarith

/-- The filters let the search go from `u` to `v`. -/
def Enters (u v : Int) : Prop :=
  setup.options.nodeFilter.blocks v = false ∧ setup.options.edgeFilter.blocks u v = false

/-- `v` is relabelled from `u` over the edge `best`. -/
structure RelaxedBy (u : Int) (inbound : R) (start ws : SearchWorkspace R) (v : Int)
    (edge : GraphEdge R) (cost : R) : Prop where
  isOpen : start.closed v = false
  enters : setup.Enters u v
  cheaper : setup.reachCost start u inbound v cost < start.gOf v
  live : ws.Live v
  g : ws.gOf v = setup.reachCost start u inbound v cost
  geo : ws.geoOf v = start.geoOf u + edge.distanceNm
  prev : ws.prevOf v = u
  inboundOf : ws.inboundOf v = setup.outboundBearing u v

/-- `v` after some edges out of `u`, of which `best` is the one `SelectEdge`
keeps for it: as before, or relabelled over that edge, and no dearer. -/
structure Relaxation (u : Int) (inbound : R) (start ws : SearchWorkspace R) (v : Int)
    (best : Option (GraphEdge R × R)) : Prop where
  label : SearchWorkspace.SameLabel ws start v ∨
    exists edge cost, best = some (edge, cost) ∧ setup.RelaxedBy u inbound start ws v edge cost
  least : forall edge cost, best = some (edge, cost) -> start.closed v = false -> setup.Enters u v ->
    ws.gOf v ≤ setup.reachCost start u inbound v cost

variable {setup}

/-- One more edge out of `u`, seen from any vertex `v`. -/
theorem Relaxation.relaxEdge {u : Int} {inbound : R} {start ws : SearchWorkspace R} {v : Int}
    {best : Option (GraphEdge R × R)} (finite : start.gOf u ≠ ⊤)
    (closed : forall w, ws.closed w = start.closed w)
    (source : SearchWorkspace.SameLabel ws start u)
    (relaxation : setup.Relaxation u inbound start ws v best) (edge : GraphEdge R) :
    setup.Relaxation u inbound start (setup.relaxEdge u inbound ws edge) v
      (selectEdgeStep setup.options setup.graph u v best edge) := by
  have tentative : forall extraCost, setup.tentative ws u inbound edge extraCost =
      setup.reachCost start u inbound edge.toVertex (edge.distanceNm + extraCost) := by
    intro extraCost
    rw [tentative_eq_reachCost, reachCost, reachCost, source.g]
  by_cases target : edge.toVertex = v
  case neg =>
    rw [selectEdgeStep_skip best (Or.inl target)]
    rcases setup.relaxEdge_cases u inbound ws edge with ⟨same, _⟩ | ⟨_, _, _, _, same⟩ <;> rw [same]
    · exact relaxation
    · have label := setup.sameLabel_relaxAndPush ws (setup.tentative ws u inbound edge ‹R›)
        (ws.geoOf u + edge.distanceNm) u (setup.outboundBearing u edge.toVertex) (Ne.symm target)
      constructor
      · rcases relaxation.label with kept | ⟨bestEdge, cost, isBest, relabels⟩
        · exact Or.inl (label.trans kept)
        · exact Or.inr ⟨bestEdge, cost, isBest, relabels.isOpen, relabels.enters, relabels.cheaper,
            label.live.mpr relabels.live, label.g.trans relabels.g, label.geo.trans relabels.geo,
            label.prev.trans relabels.prev, label.inbound.trans relabels.inboundOf⟩
      · intro bestEdge cost isBest isOpen enters
        rw [label.g]
        exact relaxation.least bestEdge cost isBest isOpen enters
  case pos =>
    subst target
    rcases setup.relaxEdge_cases u inbound ws edge with
      ⟨same, reason⟩ | ⟨extraCost, usable, isOpen, cheaper, same⟩
    · rw [same]
      cases allowed : edgeAllowed setup.options setup.graph edge u with
      | none =>
          rw [selectEdgeStep_skip best (Or.inr allowed)]
          exact relaxation
      | some extraCost =>
          -- The edge is not relaxed, so it is barred or no cheaper than the label.
          have noCheaper : start.closed edge.toVertex = false -> setup.Enters u edge.toVertex ->
              ws.gOf edge.toVertex ≤
                setup.reachCost start u inbound edge.toVertex (edge.distanceNm + extraCost) := by
            intro isOpen enters
            rw [← tentative extraCost]
            exact reason extraCost ⟨enters.1, enters.2, allowed⟩ ((closed _).trans isOpen)
          rcases best with _ | ⟨keptEdge, keptCost⟩
          · rw [selectEdgeStep_first allowed]
            constructor
            · rcases relaxation.label with kept | ⟨_, _, impossible, _⟩
              · exact Or.inl kept
              · cases impossible
            · intro bestEdge cost isBest isOpen enters
              cases isBest
              exact noCheaper isOpen enters
          · rw [selectEdgeStep_later allowed]
            by_cases less : edge.distanceNm + extraCost < keptCost
            · rw [if_pos less]
              constructor
              · rcases relaxation.label with unchanged | ⟨oldEdge, oldCost, isOld, relabels⟩
                · exact Or.inl unchanged
                · cases isOld
                  have dearer := noCheaper relabels.isOpen relabels.enters
                  rw [relabels.g] at dearer
                  exact absurd ((setup.reachCost_lt_iff finite inbound _ _ _).mpr less)
                    (not_lt_of_ge dearer)
              · intro bestEdge cost isBest isOpen enters
                cases isBest
                exact noCheaper isOpen enters
            · rw [if_neg less]
              exact relaxation
    · have enters : setup.Enters u edge.toVertex := ⟨usable.node, usable.banned⟩
      have startOpen : start.closed edge.toVertex = false := (closed _).symm.trans isOpen
      rw [same]
      rw [tentative extraCost] at cheaper ⊢
      have better : setup.reachCost start u inbound edge.toVertex (edge.distanceNm + extraCost) <
          start.gOf edge.toVertex := by
        rcases relaxation.label with kept | ⟨_, _, _, relabels⟩
        · rw [← kept.g]
          exact cheaper
        · exact cheaper.trans (relabels.g ▸ relabels.cheaper)
      have selected : selectEdgeStep setup.options setup.graph u edge.toVertex best edge =
          some (edge, edge.distanceNm + extraCost) := by
        rcases best with _ | ⟨keptEdge, keptCost⟩
        · exact selectEdgeStep_first usable.allowed
        · have least := relaxation.least keptEdge keptCost rfl startOpen enters
          rw [selectEdgeStep_later usable.allowed]
          exact if_pos ((setup.reachCost_lt_iff finite inbound _ _ _).mp (cheaper.trans_le least))
      rw [selected]
      constructor
      · refine Or.inr ⟨edge, edge.distanceNm + extraCost, rfl, startOpen, enters, better, ?_, ?_, ?_,
          ?_, ?_⟩
        · exact (setup.live_relaxAndPush ws _ _ _ _ _ _).mpr (Or.inl rfl)
        · rw [gOf_relaxAndPush, if_pos rfl]
        · rw [geoOf_relaxAndPush, if_pos rfl, source.geo]
        · rw [prevOf_relaxAndPush, if_pos rfl]
        · rw [inboundOf_relaxAndPush, if_pos rfl]
      · intro bestEdge cost isBest _ _
        cases isBest
        rw [gOf_relaxAndPush, if_pos rfl]

variable (setup)

/-- Closing `u` relaxes every vertex over the edge `SelectEdge` picks. -/
theorem relaxation_expand {u : Int} {ws : SearchWorkspace R} (closed : ws.closed u = true)
    (finite : ws.gOf u ≠ ⊤) (v : Int) :
    setup.Relaxation u (setup.inboundAt ws u) ws (setup.expand u ws) v
      (selectEdge setup.options setup.graph u v) := by
  unfold expand selectEdge
  generalize setup.inboundAt ws u = inbound
  have run : forall edges current best,
      (forall w, current.closed w = ws.closed w) -> SearchWorkspace.SameLabel current ws u ->
      setup.Relaxation u inbound ws current v best ->
      setup.Relaxation u inbound ws (List.foldl (setup.relaxEdge u inbound) current edges) v
        (List.foldl (selectEdgeStep setup.options setup.graph u v) best edges) := by
    intro edges
    induction edges with
    | nil => exact fun _ _ _ _ relaxation => relaxation
    | cons edge rest inductionHypothesis =>
        intro current best sameClosed source relaxation
        refine inductionHypothesis _ _ ?_ ?_ (relaxation.relaxEdge finite sameClosed source edge)
        · exact fun w => (setup.closed_relaxEdge u inbound current edge w).trans (sameClosed w)
        · refine SearchWorkspace.SameLabel.trans ?_ source
          rcases setup.relaxEdge_cases u inbound current edge with
            ⟨same, _⟩ | ⟨_, _, isOpen, _, same⟩ <;> rw [same]
          · exact .refl current u
          · refine setup.sameLabel_relaxAndPush current _ _ _ _ ?_
            intro same
            rw [← same, sameClosed, closed] at isOpen
            cases isOpen
  refine run _ ws none (fun _ => rfl) (.refl ws u) ⟨Or.inl (.refl ws v), ?_⟩
  intro edge cost impossible
  cases impossible

/-! ## The labels of a run -/

/-- Every label is a source's seed, or the label of its predecessor extended by
the selected edge. -/
structure Priced (seed : Int -> R) (ws : SearchWorkspace R) : Prop where
  source : forall v, ws.Live v -> ws.prevOf v = kNoVertex ->
    0 ≤ seed v ∧ ws.gOf v = seed v ∧ ws.geoOf v = seed v ∧ ws.inboundOf v = setup.tables.sourceBearing v
  step : forall v, ws.Live v -> ws.prevOf v ≠ kNoVertex -> exists edge cost,
    selectEdge setup.options setup.graph (ws.prevOf v) v = some (edge, cost) ∧
    ws.gOf v = setup.reachCost ws (ws.prevOf v) (setup.inboundAt ws (ws.prevOf v)) v cost ∧
    ws.geoOf v = ws.geoOf (ws.prevOf v) + edge.distanceNm ∧
    ws.inboundOf v = setup.outboundBearing (ws.prevOf v) v

variable {setup}

omit [IsStrictOrderedRing R] in
theorem inboundAt_congr {first second : SearchWorkspace R} {u : Int}
    (same : SearchWorkspace.SameLabel first second u) :
    setup.inboundAt first u = setup.inboundAt second u := by
  simp only [inboundAt, same.inbound]

omit [IsStrictOrderedRing R] in
theorem reachCost_congr {first second : SearchWorkspace R} {u : Int}
    (same : SearchWorkspace.SameLabel first second u) (inbound : R) (v : Int) (cost : R) :
    setup.reachCost first u inbound v cost = setup.reachCost second u inbound v cost := by
  simp only [reachCost, same.g]

theorem Priced.expand {sources : List (SeededEndpoint R)} {seed : Int -> R} {ws : SearchWorkspace R}
    (sound : setup.Sound sources ws) (priced : setup.Priced seed ws) {u : Int}
    (closed : ws.closed u = true) : setup.Priced seed (setup.expand u ws) := by
  have live := sound.closedLive u closed
  have uVertex : u ≠ kNoVertex := by
    have nonneg := (sound.inRange u live).1
    unfold kNoVertex
    omega
  have source := setup.sameLabel_expand (u := u) ws closed
  have relaxation := setup.relaxation_expand closed (sound.finite u live)
  constructor
  · intro v isLive isSource
    rcases (relaxation v).label with same | ⟨_, _, _, relabels⟩
    · rw [same.prev] at isSource
      rcases priced.source v (same.live.mp isLive) isSource with ⟨known, g, geo, inbound⟩
      exact ⟨known, same.g.trans g, same.geo.trans geo, same.inbound.trans inbound⟩
    · exact absurd (relabels.prev.symm.trans isSource) uVertex
  · intro v isLive notSource
    rcases (relaxation v).label with same | ⟨edge, cost, selected, relabels⟩
    · rw [same.prev] at notSource ⊢
      have wasLive := same.live.mp isLive
      rcases priced.step v wasLive notSource with ⟨edge, cost, selected, g, geo, inbound⟩
      have prevClosed : ws.closed (ws.prevOf v) = true := by
        rcases sound.reached v wasLive with ⟨isSource, _⟩ | ⟨_, prevClosed, _⟩
        · exact absurd isSource notSource
        · exact prevClosed
      have prev := setup.sameLabel_expand (u := u) ws prevClosed
      refine ⟨edge, cost, selected, ?_, ?_, same.inbound.trans inbound⟩
      · rw [same.g, g, reachCost_congr prev, inboundAt_congr prev]
      · rw [same.geo, geo, prev.geo]
    · rw [relabels.prev]
      refine ⟨edge, cost, selected, ?_, ?_, relabels.inboundOf⟩
      · rw [relabels.g, reachCost_congr source, inboundAt_congr source]
      · rw [relabels.geo, source.geo]

theorem Priced.visit {sources : List (SeededEndpoint R)} {seed : Int -> R} {state : SearchState R}
    (sound : setup.Sound sources state.ws) (priced : setup.Priced seed state.ws) {top : QueueNode R}
    {rest : List (QueueNode R)} (popped : Popped state.ws.heap top rest) :
    setup.Priced seed (setup.visit top.vertex { state with ws := state.ws.withHeap rest }).ws := by
  have live := sound.queuedLive top ((popped.remaining top).mpr (Or.inl rfl))
  have soundRest := sound.withHeap fun node member => (popped.remaining node).mpr (Or.inr member)
  rw [visit_ws]
  exact Priced.expand (soundRest.markClosed live) ⟨priced.source, priced.step⟩
    ((state.ws.withHeap rest).closed_markClosed_self top.vertex)

variable (setup) in
/-- A vertex after some sources are seeded: its label is its entry of the seed
table, if it has one. -/
def Seeded (table : Int -> R) (ws : SearchWorkspace R) (v : Int) : Prop :=
  (table v < 0 ∧ ¬ ws.Live v) ∨
    (0 ≤ table v ∧ ws.Live v ∧ ws.gOf v = table v ∧ ws.geoOf v = table v ∧
      ws.prevOf v = kNoVertex ∧ ws.inboundOf v = setup.tables.sourceBearing v)

variable (setup)

omit [IsStrictOrderedRing R] in
/-- Seeding a source and entering it in the seed table do the same. -/
theorem seeded_step {table : Int -> R} {ws : SearchWorkspace R} {v : Int}
    (inRange : setup.graph.InRange v) (unblocked : setup.options.nodeFilter.blocks v = false)
    (seeded : setup.Seeded table ws v) {source : SeededEndpoint R} (nonneg : 0 ≤ source.cost) :
    setup.Seeded (seedTableStep setup.graph.vertexCount table source)
      (setup.seedSource ws source) v := by
  by_cases target : v = source.vertex
  · subst target
    have inside : ¬ (source.vertex < 0 ∨ setup.graph.vertexCount ≤ source.vertex) := by
      unfold NavGraph.InRange at inRange
      omega
    have notBlocked : ¬ setup.options.nodeFilter.blocks source.vertex = true := by
      rw [unblocked]
      exact Bool.false_ne_true
    -- The two tests agree: both compare with the least seed so far.
    have tests : ((source.cost : WithTop R) < ws.gOf source.vertex ↔
        (table source.vertex < 0 ∨ source.cost < table source.vertex)) := by
      rcases seeded with ⟨negative, dead⟩ | ⟨known, _, g, _⟩
      · have top : ws.gOf source.vertex = ⊤ := if_neg dead
        rw [top]
        exact iff_of_true (WithTop.coe_lt_top _) (Or.inl negative)
      · rw [g, WithTop.coe_lt_coe]
        exact (or_iff_right (not_lt_of_ge known)).symm
    unfold seedTableStep seedSource
    rw [if_neg inside, if_neg inside, if_neg notBlocked]
    by_cases cheaper : (source.cost : WithTop R) < ws.gOf source.vertex
    · rw [if_pos cheaper, if_pos (tests.mp cheaper)]
      refine Or.inr ?_
      rw [Function.update_self]
      refine ⟨nonneg, (setup.live_relaxAndPush ws _ _ _ _ _ _).mpr (Or.inl rfl), ?_, ?_, ?_, ?_⟩
      · rw [gOf_relaxAndPush, if_pos rfl]
      · rw [geoOf_relaxAndPush, if_pos rfl]
      · rw [prevOf_relaxAndPush, if_pos rfl]
      · rw [inboundOf_relaxAndPush, if_pos rfl]
    · rw [if_neg cheaper, if_neg (mt tests.mpr cheaper)]
      exact seeded
  · have tableSame : seedTableStep setup.graph.vertexCount table source v = table v :=
      seedTableStep_of_ne (Ne.symm target)
    have label : SearchWorkspace.SameLabel (setup.seedSource ws source) ws v := by
      rcases setup.seedSource_cases ws source with ⟨same, _⟩ | ⟨_, _, _, same⟩ <;> rw [same]
      · exact .refl ws v
      · exact setup.sameLabel_relaxAndPush ws _ _ _ _ target
    unfold Seeded
    rw [tableSame, label.live, label.g, label.geo, label.prev, label.inbound]
    exact seeded

theorem seeded_searchInit {sources : List (SeededEndpoint R)}
    (nonneg : forall source, source ∈ sources -> 0 ≤ source.cost) {ws : SearchWorkspace R}
    (stamped : ws.Stamped) {v : Int} (inRange : setup.graph.InRange v)
    (unblocked : setup.options.nodeFilter.blocks v = false) :
    setup.Seeded (buildSeedTable sources setup.graph.vertexCount)
      (setup.searchInit sources ws).ws v := by
  have start : setup.Seeded (fun _ => -1) (ws.nextGeneration.withHeap []) v :=
    Or.inl ⟨by simp only [neg_lt_zero, zero_lt_one], stamped.not_live_nextGeneration v⟩
  unfold buildSeedTable searchInit
  simp only
  generalize (fun _ => -1 : Int -> R) = table at start
  generalize ws.nextGeneration.withHeap [] = current at start
  induction sources generalizing table current with
  | nil => exact start
  | cons source rest inductionHypothesis =>
      exact inductionHypothesis (fun other listed => nonneg other (List.mem_cons_of_mem _ listed)) _ _
        (setup.seeded_step inRange unblocked start (nonneg source List.mem_cons_self))

theorem priced_searchInit {sources : List (SeededEndpoint R)}
    (nonneg : forall source, source ∈ sources -> 0 ≤ source.cost) {ws : SearchWorkspace R}
    (stamped : ws.Stamped) :
    setup.Priced (buildSeedTable sources setup.graph.vertexCount) (setup.searchInit sources ws).ws := by
  have sound := (setup.sound_searchInit sources stamped).2
  have known : forall v, (setup.searchInit sources ws).ws.Live v -> _ := fun v live =>
    (setup.seeded_searchInit nonneg stamped (sound.inRange v live) (sound.unblocked v live)).resolve_left
      fun dead => dead.2 live
  constructor
  · intro v live _
    rcases known v live with ⟨seedKnown, _, g, geo, _, inbound⟩
    exact ⟨seedKnown, g, geo, inbound⟩
  · intro v live notSource
    rcases known v live with ⟨_, _, _, _, prev, _⟩
    exact absurd prev notSource

/-! ## The cost of a trail -/

/-- The turn from one heading onto another, free while turns are not priced. -/
def turnCharge (inbound outbound : R) : R :=
  if setup.options.turnPenalty.enabled then setup.options.turnPenalty.between inbound outbound else 0

section

omit [IsStrictOrderedRing R]

theorem turnCharge_turnOff (turnOff : setup.options.turnPenalty.enabled = false) (inbound outbound : R) :
    setup.turnCharge inbound outbound = 0 :=
  if_neg (by rw [turnOff]; exact Bool.false_ne_true)

theorem turnCharge_unknown (inbound : R) : setup.turnCharge inbound kNoBearing = 0 := by
  unfold turnCharge
  split
  · refine TurnPenalty.between_unknown _ fun known => not_le_of_gt ?_ known.2
    exact setup.engine.sentinel_neg
  · rfl

theorem turnOnto_eq (inbound : R) (u v : Int) :
    setup.turnOnto inbound u v = setup.turnCharge inbound
      (setup.engine.earth.bearingTo (setup.graph.coordOf u) (setup.graph.coordOf v)) := by
  unfold turnOnto turnCharge outboundBearing
  by_cases enabled : setup.options.turnPenalty.enabled = true
  · simp only [enabled, if_true]
    by_cases known : 0 ≤ inbound
    · rw [if_pos known, TurnPenalty.between_known _ known (setup.engine.earth.bearingTo_nonneg _ _)]
    · rw [if_neg known, TurnPenalty.between_unknown _ fun holds => known holds.1]
  · simp only [enabled, if_false, Bool.false_eq_true]

/-- The heading a search reads is the one it recorded, as far as turns go. -/
theorem turnCharge_inboundAt (ws : SearchWorkspace R) (u : Int) (outbound : R) :
    setup.turnCharge (setup.inboundAt ws u) outbound = setup.turnCharge (ws.inboundOf u) outbound := by
  unfold turnCharge inboundAt
  by_cases enabled : setup.options.turnPenalty.enabled = true
  · simp only [enabled, if_true]
  · simp only [enabled, if_false, Bool.false_eq_true]

theorem totalAt_eq_turnCharge (ws : SearchWorkspace R) (u : Int) : setup.totalAt ws u =
    ws.gOf u + ((setup.turnCharge (ws.inboundOf u) (setup.tables.goalBearing u) +
      setup.tables.goalSeed u : R) : WithTop R) := by
  unfold totalAt turnCharge
  by_cases enabled : setup.options.turnPenalty.enabled = true
  · simp only [enabled, if_true]
    by_cases known : 0 ≤ ws.inboundOf u ∧ 0 ≤ setup.tables.goalBearing u
    · rw [if_pos known, TurnPenalty.between_known _ known.1 known.2, WithTop.coe_add, add_assoc,
        add_comm (_ : WithTop R) (setup.tables.goalSeed u : WithTop R)]
    · rw [if_neg known, TurnPenalty.between_unknown _ known, zero_add]
  · simp only [enabled, if_false, Bool.false_eq_true, zero_add]

end

/-- The cost of a path without its turn at the goal fix. -/
def costTo (front : Int) (path : List Int) (cost : R) : R :=
  if setup.options.turnPenalty.enabled then
    turnsTo setup.options.turnPenalty (edgeBearings setup.engine.earth setup.graph path)
      (setup.tables.sourceBearing front) cost
  else cost

/-- The labels of a vertex are those of the path that led to it. -/
structure Labels (seed : Int -> R) (ws : SearchWorkspace R) (front v : Int) (path : List Int)
    (cost distance : R) : Prop where
  edges : edgeCosts setup.graph setup.options path (0, 0) = some (cost, distance)
  g : ws.gOf v = ((seed front + setup.costTo front path cost : R) : WithTop R)
  geo : ws.geoOf v = seed front + distance
  inbound : setup.options.turnPenalty.enabled = true -> ws.inboundOf v =
    arrivalBearing setup.engine.earth setup.graph (setup.tables.sourceBearing front) path

omit [IsStrictOrderedRing R] in
/-- A step costs its edge and the turn onto it. -/
theorem costTo_concat (front : Int) (path : List Int) (u v : Int) (cost edgeCost : R) :
    setup.costTo front (path ++ [u, v]) (cost + edgeCost) =
      setup.costTo front (path ++ [u]) cost +
        (edgeCost + setup.turnCharge
          (arrivalBearing setup.engine.earth setup.graph (setup.tables.sourceBearing front) (path ++ [u]))
          (setup.engine.earth.bearingTo (setup.graph.coordOf u) (setup.graph.coordOf v))) := by
  unfold costTo turnCharge
  by_cases enabled : setup.options.turnPenalty.enabled = true
  · have known := setup.engine.earth.bearingTo_nonneg (setup.graph.coordOf u) (setup.graph.coordOf v)
    have extended : edgeBearings setup.engine.earth setup.graph (path ++ [u, v]) =
        edgeBearings setup.engine.earth setup.graph (path ++ [u]) ++
          [setup.engine.earth.bearingTo (setup.graph.coordOf u) (setup.graph.coordOf v)] :=
      edgeBearings_append _ _ path u [v]
    simp only [enabled, if_true]
    rw [extended, turnsTo_concat _ (edgeBearings_nonneg _ _ _) known, arrivalBearing]
    ring
  · simp only [enabled, if_false, Bool.false_eq_true, add_zero]

variable {setup}

section

omit [IsStrictOrderedRing R]

/-- The heading of a label is that of its path, as far as turns go. -/
theorem Labels.turnCharge_eq {seed : Int -> R} {ws : SearchWorkspace R} {front v : Int} {path : List Int}
    {cost distance : R} (labels : setup.Labels seed ws front v path cost distance) (outbound : R) :
    setup.turnCharge (ws.inboundOf v) outbound = setup.turnCharge
      (arrivalBearing setup.engine.earth setup.graph (setup.tables.sourceBearing front) path) outbound := by
  unfold turnCharge
  by_cases enabled : setup.options.turnPenalty.enabled = true
  · rw [labels.inbound enabled]
  · simp only [enabled, if_false, Bool.false_eq_true]

/-- One step of a trail extends the labels of its path. -/
theorem Labels.step {seed : Int -> R} {ws : SearchWorkspace R} {front u v : Int} {path : List Int}
    {cost distance : R} (labels : setup.Labels seed ws front u (path ++ [u]) cost distance)
    (unbanned : setup.options.edgeFilter.blocks u v = false) {edge : GraphEdge R} {edgeCost : R}
    (selected : selectEdge setup.options setup.graph u v = some (edge, edgeCost))
    (g : ws.gOf v = setup.reachCost ws u (setup.inboundAt ws u) v edgeCost)
    (geo : ws.geoOf v = ws.geoOf u + edge.distanceNm)
    (inbound : ws.inboundOf v = setup.outboundBearing u v) :
    setup.Labels seed ws front v (path ++ [u, v]) (cost + edgeCost) (distance + edge.distanceNm) := by
  constructor
  · rw [edgeCosts_append, labels.edges, Option.bind_some, edgeCosts, unbanned, selected]
    rfl
  · rw [g, reachCost, labels.g, ← WithTop.coe_add, ← WithTop.coe_add, turnOnto_eq,
      turnCharge_inboundAt, labels.turnCharge_eq, costTo_concat]
    congr 1
    ring
  · rw [geo, labels.geo, add_assoc]
  · intro enabled
    rw [inbound, arrivalBearing_concat, outboundBearing, if_pos enabled]

/-- The labels of a live vertex are those of its trail. -/
theorem labels_of_trail {sources : List (SeededEndpoint R)} {seed : Int -> R} {ws : SearchWorkspace R}
    (sound : setup.Sound sources ws) (priced : setup.Priced seed ws) {path : List Int}
    (trail : Trail ws path) :
    forall v, path.head? = some v -> exists front cost distance, path.getLast? = some front ∧
      0 ≤ seed front ∧ setup.Labels seed ws front v path.reverse cost distance := by
  induction trail with
  | @source v live prev =>
      intro first same
      cases same
      rcases priced.source v live prev with ⟨known, g, geo, inbound⟩
      refine ⟨v, 0, 0, rfl, known, rfl, ?_, ?_, fun _ => inbound⟩
      · have none : setup.costTo v [v] 0 = 0 := by
          unfold costTo
          split <;> rfl
        rw [List.reverse_singleton, none, add_zero, g]
      · rw [geo, add_zero]
  | @step v u rest live prev closed _ trail inductionHypothesis =>
      intro first same
      cases same
      rcases inductionHypothesis u rfl with ⟨front, cost, distance, last, known, labels⟩
      have uVertex : u ≠ kNoVertex := by
        have nonneg := (sound.inRange u (sound.closedLive u closed)).1
        unfold kNoVertex
        omega
      have reached := sound.reached v live
      rw [prev] at reached
      rcases reached with ⟨noPrev, _⟩ | ⟨_, _, step⟩
      · exact absurd noPrev uVertex
      rcases priced.step v live (prev ▸ uVertex) with ⟨edge, edgeCost, selected, g, geo, inbound⟩
      rw [prev] at selected g geo inbound
      refine ⟨front, cost + edgeCost, distance + edge.distanceNm, ?_, known, ?_⟩
      · rw [List.getLast?_cons_cons]
        exact last
      · rw [List.reverse_cons] at labels
        rw [List.reverse_cons, List.reverse_cons, List.append_assoc]
        exact labels.step step.banned selected g geo inbound

end

variable (setup)

omit [IsStrictOrderedRing R] in
/-- The total at a goal is the cost of the path that led there. -/
theorem totalAt_eq {seed : Int -> R} {ws : SearchWorkspace R} {front goal : Int} {path : List Int}
    {cost distance : R} (labels : setup.Labels seed ws front goal path cost distance) :
    setup.totalAt ws goal = ((seed front + (if setup.options.turnPenalty.enabled then
        setup.costTo front path cost + setup.options.turnPenalty.between
          (arrivalBearing setup.engine.earth setup.graph (setup.tables.sourceBearing front) path)
          (setup.tables.goalBearing goal)
      else cost) + setup.tables.goalSeed goal : R) : WithTop R) := by
  unfold totalAt
  by_cases enabled : setup.options.turnPenalty.enabled = true
  · simp only [enabled, if_true, labels.g, labels.inbound enabled]
    by_cases known : 0 ≤ arrivalBearing setup.engine.earth setup.graph
        (setup.tables.sourceBearing front) path ∧ 0 ≤ setup.tables.goalBearing goal
    · rw [if_pos known, TurnPenalty.between_known _ known.1 known.2, ← WithTop.coe_add,
        ← WithTop.coe_add]
      congr 1
      ring
    · rw [if_neg known, TurnPenalty.between_unknown _ known, ← WithTop.coe_add]
      congr 1
      ring
  · simp only [enabled, if_false, Bool.false_eq_true, labels.g, costTo]
    rw [← WithTop.coe_add]

/-- The path of a search costs what `CostOfPathMulti` makes of it, and is as
long. -/
theorem costOfPathMulti_of_found {sources : List (SeededEndpoint R)}
    (nonneg : forall source, source ∈ sources -> 0 ≤ source.cost) {ws : SearchWorkspace R}
    (stamped : ws.Stamped) (found : (setup.findShortestPathMulti sources ws).1.found = true) :
    costOfPathMulti setup.engine.earth setup.graph
        (setup.findShortestPathMulti sources ws).1.vertices
        (buildSeedTable sources setup.graph.vertexCount) setup.tables.goalSeed
        setup.tables.sourceBearing setup.tables.goalBearing setup.options =
      some ((setup.findShortestPathMulti sources ws).1.cost,
        (setup.findShortestPathMulti sources ws).1.distanceNm) := by
  rcases setup.findShortestPathMulti_spec
    (fun state => setup.Priced (buildSeedTable sources setup.graph.vertexCount) state.ws)
    sources stamped (setup.priced_searchInit nonneg stamped)
    (fun _ _ priced _ _ _ _ => ⟨priced.source, priced.step⟩)
    (fun _ sound priced _ _ popped _ _ => priced.visit sound popped) with
    ⟨final, sound, best, priced, _, equal⟩
  rw [equal] at found ⊢
  rcases sound.searchResult_cases best with ⟨_, same⟩ | ⟨rest, trail, _, isGoal, total, same⟩
  · rw [same] at found
    cases found
  rcases labels_of_trail sound priced trail final.bestGoal rfl with
    ⟨front, cost, distance, last, known, labels⟩
  have route := sound.route_of_trail trail isGoal
  rw [same, total, setup.totalAt_eq labels, WithTop.untopD_coe, labels.geo]
  simp only
  generalize pathEq : (final.bestGoal :: rest).reverse = path at labels route
  have frontFirst : path.head? = some front := by rw [← pathEq, List.head?_reverse, last]
  have goalLast : path.getLast? = some final.bestGoal := by
    rw [← pathEq, List.getLast?_reverse, List.head?_cons]
  cases path with
  | nil => cases frontFirst
  | cons first others =>
      cases frontFirst
      have back : (front :: others).getLastD front = final.bestGoal := by
        rw [List.getLastD_eq_getLast?, goalLast, Option.getD_some]
      have seeds : ¬ (buildSeedTable sources setup.graph.vertexCount front < 0 ∨
          setup.tables.goalSeed final.bestGoal < 0) :=
        not_or.mpr ⟨not_lt_of_ge known, not_lt_of_ge isGoal⟩
      unfold costOfPathMulti
      simp only [back]
      rw [if_neg seeds, costOfPath_eq setup.engine.earth setup.graph route.nonempty route.unblocked _ _
        labels.edges]
      unfold costTo
      by_cases enabled : setup.options.turnPenalty.enabled = true <;> simp only [enabled, if_true,
        if_false, Bool.false_eq_true]

end SearchSetup
end BravoFinder
