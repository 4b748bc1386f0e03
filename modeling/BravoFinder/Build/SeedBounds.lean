import BravoFinder.Build.ProcedureConnector
import Mathlib.Algebra.Order.Ring.Defs

namespace BravoFinder
namespace ProcedureConnector

/-!
# What a seed is made of

A seed adds up distances, so it is never negative.  The seed of a gate off the
network contains the distance between the gate and the fix that stands for it.
-/

/-! ## Along a record -/

section Walk

variable {R : Type} [AddCommMonoid R] [LinearOrder R] [IsOrderedAddMonoid R] {chart : LegChart R} {earth : Geodesy R}

/-- The distances of the first walk, after some legs. -/
structure WalkResult.Bounded (walk : WalkResult R) : Prop where
  total_nonneg : 0 ≤ walk.totalNm
  pending_nonneg : 0 ≤ walk.pendingNm
  hits : forall hit, hit ∈ walk.hits -> 0 ≤ hit.cumulativeNm ∧ hit.cumulativeNm ≤ walk.totalNm

theorem WalkResult.Bounded.le_reach {walk : WalkResult R} (bounded : walk.Bounded) (earth : Geodesy R)
    (here : Coordinate R) : walk.totalNm ≤ walk.reach earth here := by
  rw [reach]
  rcases walk.resolved.getLast? with _ | prev
  · exact le_refl _
  · simp only
    split_ifs with pending
    · exact le_add_of_nonneg_right bounded.pending_nonneg
    · exact le_add_of_nonneg_right (earth.distanceTo_nonneg _ _)

theorem WalkResult.Bounded.step {walk : WalkResult R} (bounded : walk.Bounded) (usable : Int -> Bool)
    (gate : ProcedureLeg -> Nat -> Bool) (entry : ProcedureLeg × Nat) :
    (walkStep chart earth usable gate walk entry).Bounded := by
  rw [walkStep]
  split_ifs with missing published
  · exact ⟨bounded.total_nonneg, add_nonneg bounded.pending_nonneg published.le, bounded.hits⟩
  · exact bounded
  all_goals
    have further := bounded.le_reach earth (chart.coordOf (chart.vertexOf entry.1))
    have earlier : forall hit, hit ∈ walk.hits ->
        0 ≤ hit.cumulativeNm ∧ hit.cumulativeNm ≤ walk.reach earth (chart.coordOf (chart.vertexOf entry.1)) :=
      fun hit member => ⟨(bounded.hits hit member).1, (bounded.hits hit member).2.trans further⟩
    refine ⟨bounded.total_nonneg.trans further, le_refl _, fun hit member => ?_⟩
  · rcases List.mem_append.mp member with old | new
    · exact earlier hit old
    · rw [List.mem_singleton.mp new]
      exact ⟨bounded.total_nonneg.trans further, le_refl _⟩
  · exact earlier hit member

theorem bounded_walkOnNetworkFixes (chart : LegChart R) (earth : Geodesy R) (usable : Int -> Bool) (departure : Bool) (p : Procedure) :
    (walkOnNetworkFixes chart earth usable departure p).Bounded := by
  have start : (⟨[], [], 0, 0⟩ : WalkResult R).Bounded := ⟨le_refl _, le_refl _, List.forall_mem_nil _⟩
  exact List.foldlRecOn _ _ start fun walk bounded entry _ => bounded.step usable _ entry

/-- The distances of the walk of one segment are never negative. -/
theorem walkSegment_nonneg (startVertex : Int) (stopAtMapt : Bool) (legs : List ProcedureLeg) :
    forall state : SegmentState R, 0 ≤ state.cumulative -> 0 ≤ state.out.nm ->
      0 ≤ (walkSegment chart earth startVertex stopAtMapt state legs).2.nm := by
  induction legs with
  | nil => exact fun state _ out => out
  | cons leg rest inductionHypothesis =>
      intro state cumulative out
      have stopped : 0 ≤ (state.stopAt earth (chart.coordOf (chart.vertexOf leg))).cumulative := by
        rw [SegmentState.stopAt]
        rcases state.prevCoord with _ | prev
        · exact cumulative
        · simp only
          split_ifs with pending
          · exact add_nonneg cumulative pending.le
          · exact add_nonneg cumulative (earth.distanceTo_nonneg _ _)
      rw [walkSegment]
      simp only
      split_ifs
      · refine inductionHypothesis _ ?_ ?_
        · rw [SegmentState.passOver]
          split_ifs <;> exact cumulative
        · rw [SegmentState.passOver]
          split_ifs <;> exact out
      · exact le_refl _
      · exact inductionHypothesis _ cumulative out
      · exact inductionHypothesis _ cumulative out
      · exact stopped
      · exact inductionHypothesis _ stopped stopped

theorem walkApproachSegment_nonneg (chart : LegChart R) (earth : Geodesy R) (p : Procedure) (startVertex : Int) (stopAtMapt : Bool) :
    0 ≤ (walkApproachSegment chart earth p startVertex stopAtMapt).2.nm :=
  walkSegment_nonneg startVertex stopAtMapt p.legs _ (le_refl _) (le_refl _)

end Walk

/-! ## The bodies of procedures -/

section Bodies

variable {R : Type} [Field R] [LinearOrder R] [IsStrictOrderedRing R] (chart : LegChart R) (earth : Geodesy R)
  (airportCoord : Coordinate R)

theorem starBodyAndStubNm_nonneg (p : Procedure) (gateV : Int) :
    0 ≤ starBodyAndStubNm chart earth p gateV airportCoord := by
  have nonneg := walkApproachSegment_nonneg chart earth p gateV false
  rw [starBodyAndStubNm]
  split
  rename_i found fromGate walked
  rw [walked] at nonneg
  split_ifs
  · exact add_nonneg nonneg (earth.distanceTo_nonneg _ _)
  · exact earth.distanceTo_nonneg _ _

theorem sidBodyToExitNm_nonneg (p : Procedure) (exitV : Int) :
    0 ≤ sidBodyToExitNm chart earth p exitV airportCoord := by
  have nonneg := walkApproachSegment_nonneg chart earth p kNoVertex false
  rw [sidBodyToExitNm]
  split
  rename_i found body walked
  rw [walked] at nonneg
  split_ifs
  · exact add_nonneg (earth.distanceTo_nonneg _ _) nonneg
  · exact earth.distanceTo_nonneg _ _

theorem approachBodyAndStubNm_nonneg (gateProc : Procedure) (gateV : Int) (cifp : CifpData) :
    0 ≤ (approachBodyAndStubNm chart earth gateProc gateV cifp airportCoord).1 := by
  have nonneg := walkApproachSegment_nonneg chart earth gateProc gateV gateProc.transitionIdent.isEmpty
  rw [approachBodyAndStubNm]
  split
  rename_i found fromGate walked
  rw [walked] at nonneg
  simp only at nonneg
  split_ifs
  · exact add_nonneg nonneg (earth.distanceTo_nonneg _ _)
  · refine add_nonneg ?_ (earth.distanceTo_nonneg _ _)
    rcases findApproachFinal cifp gateProc.name with _ | finalProc
    · exact nonneg
    · have further := walkApproachSegment_nonneg chart earth finalProc kNoVertex true
      simp only
      split
      · rename_i finalEnd started
        exact add_nonneg nonneg further
      · exact nonneg
  · exact earth.distanceTo_nonneg _ _

end Bodies

/-! ## What is found -/

/-- A price that is not negative, and a way to the gate that is part of it. -/
structure SoundPrice {R : Type} [LinearOrder R] [Zero R] (seedNm : R) (spliceVertex : Int) (spliceLegNm : R) :
    Prop where
  seed_nonneg : 0 ≤ seedNm
  splice : 0 ≤ spliceVertex -> 0 ≤ spliceLegNm ∧ spliceLegNm ≤ seedNm

/-- Without a gate off the network there is nothing more to say. -/
theorem SoundPrice.gate {R : Type} [LinearOrder R] [Zero R] {seedNm : R} (nonneg : 0 ≤ seedNm) (spliceLegNm : R) :
    SoundPrice seedNm kNoVertex spliceLegNm :=
  ⟨nonneg, fun known => absurd known (by decide)⟩

/-- A finding with a sound price. -/
def Finding.Sound {R : Type} [LinearOrder R] [Zero R] (finding : Finding R) : Prop :=
  SoundPrice finding.seed finding.spliceVertex finding.spliceLegNm

section Findings

variable {R : Type} [Field R] [LinearOrder R] [IsStrictOrderedRing R] [FloorRing R] (around : Surroundings R)
  (bound : OutsideBound R) (airportCoord : Coordinate R) (runwayFilter nameFilter : Text) (avoid : SortedVector Int)
  (cifp : CifpData)

omit [IsStrictOrderedRing R] [FloorRing R] in
theorem runwayBridge_nonneg (earth : Geodesy R) (departure : Bool) (walk : WalkResult R) :
    0 ≤ runwayBridge earth departure airportCoord walk := by
  rw [runwayBridge]
  split_ifs
  · rcases walk.resolved.head? with _ | first
    · exact le_refl _
    · exact earth.distanceTo_nonneg _ _
  · rcases walk.resolved.getLast? with _ | last
    · exact le_refl _
    · exact earth.distanceTo_nonneg _ _

omit [FloorRing R] in
theorem gateSeed_nonneg (earth : Geodesy R) (departure : Bool) {walk : WalkResult R} (bounded : walk.Bounded)
    {hit : FixHit R} (isHit : hit ∈ walk.hits) : 0 ≤ gateSeed earth departure airportCoord walk hit := by
  rcases bounded.hits hit isHit with ⟨nonneg, within⟩
  have bridge := runwayBridge_nonneg airportCoord earth departure walk
  rw [gateSeed]
  split_ifs
  · exact add_nonneg bridge nonneg
  · exact add_nonneg (sub_nonneg.mpr within) bridge

omit [FloorRing R] in
theorem sound_sideFindings (departure : Bool) {finding : Finding R}
    (found : finding ∈ sideFindings around departure airportCoord runwayFilter cifp) : finding.Sound := by
  rcases List.mem_flatMap.mp found with ⟨p, -, listed⟩
  rcases List.mem_map.mp listed with ⟨hit, isHit, rfl⟩
  exact SoundPrice.gate (gateSeed_nonneg airportCoord around.earth departure
    (bounded_walkOnNetworkFixes around.chart around.earth _ departure p) (List.mem_of_mem_filter isHit)) 0

theorem sound_starSpliceFindings {finding : Finding R}
    (found : finding ∈ starSpliceFindings around bound airportCoord runwayFilter nameFilter avoid cifp) :
    finding.Sound := by
  rcases List.mem_flatMap.mp found with ⟨p, -, gates⟩
  rcases List.mem_flatMap.mp gates with ⟨entry, -, proxies⟩
  rcases List.mem_map.mp proxies with ⟨f, -, rfl⟩
  have body := starBodyAndStubNm_nonneg around.chart around.earth airportCoord p entry.2
  have leg := around.earth.distanceTo_nonneg (around.builder.graph.coordOf f) (around.builder.graph.coordOf entry.2)
  exact ⟨add_nonneg leg body, fun _ => ⟨leg, le_add_of_nonneg_right body⟩⟩

theorem sound_sidSpliceFindings {finding : Finding R}
    (found : finding ∈ sidSpliceFindings around bound airportCoord runwayFilter nameFilter avoid cifp) :
    finding.Sound := by
  rcases List.mem_flatMap.mp found with ⟨p, -, exits⟩
  split at exits
  · cases exits
  rename_i exitLeg last
  simp only at exits
  split_ifs at exits
  · cases exits
  rcases List.mem_map.mp exits with ⟨f, -, rfl⟩
  have body := sidBodyToExitNm_nonneg around.chart around.earth airportCoord p (around.resolveFix exitLeg)
  have leg := around.earth.distanceTo_nonneg (around.builder.graph.coordOf (around.resolveFix exitLeg))
    (around.builder.graph.coordOf f)
  exact ⟨add_nonneg body leg, fun _ => ⟨leg, le_add_of_nonneg_left body⟩⟩

theorem sound_approachFindings {finding : Finding R}
    (found : finding ∈ approachFindings around bound airportCoord runwayFilter cifp) : finding.Sound := by
  rcases List.mem_flatMap.mp found with ⟨p, -, gates⟩
  rcases List.mem_flatMap.mp gates with ⟨entry, -, made⟩
  have body := approachBodyAndStubNm_nonneg around.chart around.earth airportCoord p entry.2 cifp
  rw [approachGateFindings] at made
  split at made
  rename_i bodyStub bearing priced
  rw [priced] at body
  split_ifs at made
  · rw [List.mem_singleton.mp made]
    exact SoundPrice.gate body 0
  · rcases List.mem_map.mp made with ⟨f, -, rfl⟩
    exact SoundPrice.gate (add_nonneg (around.earth.distanceTo_nonneg _ _) body) 0

end Findings

end ProcedureConnector
end BravoFinder
