import BravoFinder.Build.SeedBounds
import BravoFinder.Navdb.EndpointPlan

namespace BravoFinder

/-!
# What every plan keeps

However an airport is joined to the airways, it has one connection for each fix,
and whatever holds of all that the connector finds holds of the connections of
the plan.  In particular the price of a connection is not negative, and the way
to a gate off the network is part of it.
-/

open ProcedureConnector

variable {R : Type}

/-- A property of a fix, its price, its gate and the way to the gate. -/
abbrev FixProperty (R : Type) := Int -> R -> Int -> R -> Prop

/-- The price is sound, whatever the fix. -/
def soundlyPriced [LinearOrder R] [Zero R] : FixProperty R :=
  fun _ seedNm spliceVertex spliceLegNm => SoundPrice seedNm spliceVertex spliceLegNm

def ProcedureConnector.Finding.Has (holds : FixProperty R) (finding : Finding R) : Prop :=
  holds finding.fixVertex finding.seed finding.spliceVertex finding.spliceLegNm

def ProcedureConnector.Connection.Has (holds : FixProperty R) (c : ProcedureConnector.Connection R) : Prop :=
  holds c.fixVertex c.seedDistanceNm c.spliceVertex c.spliceLegNm

/-- Connections of different fixes, all with a property. -/
structure PoolOf (holds : FixProperty R) (connections : List (ProcedureConnector.Connection R)) : Prop where
  nodup : (connections.map ProcedureConnector.Connection.fixVertex).Nodup
  each : forall c, c ∈ connections -> c.Has holds

/-- A plan whose connections have a property.  Where STARs compete with
approaches, there are connections, and each names a procedure. -/
structure EndpointPlan.Keeps (holds : FixProperty R) (plan : EndpointPlan R) : Prop where
  pool : PoolOf holds plan.connections
  competing : plan.softPreferStar = true -> plan.connections ≠ []
  named : plan.softPreferStar = true -> forall c, c ∈ plan.connections -> c.procedures ≠ []

/-- Whatever the connector finds around an airport has the property. -/
structure FindsOnly [Field R] [LinearOrder R] [FloorRing R] (holds : FixProperty R) (around : Surroundings R)
    (bound : OutsideBound R) (avoid : SortedVector Int) : Prop where
  side : forall airportCoord runwayFilter cifp departure finding,
    finding ∈ sideFindings around departure airportCoord runwayFilter cifp -> finding.Has holds
  star : forall airportCoord runwayFilter nameFilter cifp finding,
    finding ∈ starSpliceFindings around bound airportCoord runwayFilter nameFilter avoid cifp -> finding.Has holds
  sid : forall airportCoord runwayFilter nameFilter cifp finding,
    finding ∈ sidSpliceFindings around bound airportCoord runwayFilter nameFilter avoid cifp -> finding.Has holds
  approach : forall airportCoord runwayFilter cifp finding,
    finding ∈ approachFindings around bound airportCoord runwayFilter cifp -> finding.Has holds
  direct : forall coord limit inbound v,
    v ∈ around.builder.nearestOnNetwork around.earth bound coord limit inbound ->
      holds v (around.earth.distanceTo coord (around.builder.graph.coordOf v)) kNoVertex 0

theorem findsOnly_soundlyPriced [Field R] [LinearOrder R] [IsStrictOrderedRing R] [FloorRing R]
    (around : Surroundings R) (bound : OutsideBound R) (avoid : SortedVector Int) :
    FindsOnly soundlyPriced around bound avoid where
  side := fun airportCoord runwayFilter cifp departure _ found =>
    sound_sideFindings around airportCoord runwayFilter cifp departure found
  star := fun airportCoord runwayFilter nameFilter cifp _ found =>
    sound_starSpliceFindings around bound airportCoord runwayFilter nameFilter avoid cifp found
  sid := fun airportCoord runwayFilter nameFilter cifp _ found =>
    sound_sidSpliceFindings around bound airportCoord runwayFilter nameFilter avoid cifp found
  approach := fun airportCoord runwayFilter cifp _ found =>
    sound_approachFindings around bound airportCoord runwayFilter cifp found
  direct := fun _ _ _ _ _ => SoundPrice.gate (around.earth.distanceTo_nonneg _ _) 0

/-! ## Pools -/

section Pool

variable {holds : FixProperty R}

theorem poolOf_nil : PoolOf holds ([] : List (ProcedureConnector.Connection R)) :=
  ⟨List.nodup_nil, List.forall_mem_nil _⟩

theorem PoolOf.perm {connections others : List (ProcedureConnector.Connection R)} (pool : PoolOf holds connections)
    (perm : others.Perm connections) : PoolOf holds others :=
  ⟨(perm.map _).nodup_iff.mpr pool.nodup, fun c member => pool.each c (perm.subset member)⟩

/-- Naming a procedure drops connections and references. -/
theorem PoolOf.filterConnectionsByName {connections : List (ProcedureConnector.Connection R)}
    (pool : PoolOf holds connections) (selector : Text) :
    PoolOf holds (EndpointPlanner.filterConnectionsByName connections selector).2 := by
  have matching : PoolOf holds (connections.map (EndpointPlanner.onlyMatching selector)) := by
    refine ⟨?_, fun c member => ?_⟩
    · rw [List.map_map]
      exact pool.nodup
    · rcases List.mem_map.mp member with ⟨original, listed, rfl⟩
      exact pool.each original listed
  rw [EndpointPlanner.filterConnectionsByName]
  split_ifs
  · exact pool
  · simp only
    split_ifs
    · exact ⟨matching.nodup.sublist (List.filter_sublist.map _),
        fun c member => matching.each c (List.mem_of_mem_filter member)⟩
    · exact matching

end Pool

section Found

variable [Field R] [LinearOrder R] {holds : FixProperty R}

omit [Field R] in
/-- What is merged has the property of what was found. -/
theorem PoolOf.of_keepsCheapest {B : Type} {fresh : B -> ProcedureConnector.Connection R} {price : B -> R}
    {found : List B} {kept : List (ProcedureConnector.Connection R)}
    (keeps : EndpointPlanner.KeepsCheapest fresh price found kept)
    (each : forall item, item ∈ found -> (fresh item).Has holds) : PoolOf holds kept := by
  refine ⟨keeps.nodup, fun c member => ?_⟩
  rcases keeps.cheapest c member with ⟨winner, least, same⟩
  rcases List.mem_filter.mp (List.argmin_mem least) with ⟨listed, sameFix⟩
  have has := each winner listed
  rw [ProcedureConnector.Connection.Has, of_decide_eq_true sameFix] at has
  rw [ProcedureConnector.Connection.Has, same.seedDistanceNm, same.spliceVertex, same.spliceLegNm]
  exact has

theorem poolOf_finalize {findings : List (Finding R)}
    (each : forall finding, finding ∈ findings -> finding.Has holds) :
    PoolOf holds (finalize (accumulateAll findings)) :=
  (PoolOf.of_keepsCheapest (EndpointPlanner.keepsCheapest_accumulateAll findings) each).perm
    (EndpointPlanner.perm_finalize _)

/-- The connections of two pools, merged. -/
theorem PoolOf.mergeAll {stars approaches : List (ProcedureConnector.Connection R)} (softPreferStar : Bool)
    (starPool : PoolOf holds stars) (approachPool : PoolOf holds approaches)
    (named : forall c, c ∈ stars ++ approaches -> c.procedures ≠ []) :
    PoolOf holds (EndpointPlanner.mergeAll stars approaches softPreferStar) ∧
      (stars ≠ [] -> EndpointPlanner.mergeAll stars approaches softPreferStar ≠ []) ∧
      forall c, c ∈ EndpointPlanner.mergeAll stars approaches softPreferStar -> c.procedures ≠ [] := by
  have keeps := EndpointPlanner.keepsCheapest_mergeAll softPreferStar starPool.nodup named
  refine ⟨PoolOf.of_keepsCheapest keeps fun c member => ?_, fun some none => ?_, fun c member => ?_⟩
  · rcases List.mem_append.mp member with star | approach
    · exact starPool.each c star
    · exact approachPool.each c approach
  · rcases List.exists_mem_of_ne_nil stars some with ⟨star, listed⟩
    have kept := (keeps.mem_iff star.fixVertex).mpr (List.mem_map_of_mem (List.mem_append_left _ listed))
    rw [none] at kept
    cases kept
  · rcases keeps.cheapest c member with ⟨winner, least, same⟩
    exact same.procedures_ne_nil (named winner (List.mem_of_mem_filter (List.argmin_mem least)))

theorem named_of_finalize {findings : List (Finding R)} {c : ProcedureConnector.Connection R}
    (member : c ∈ finalize (accumulateAll findings)) : c.procedures ≠ [] :=
  EndpointPlanner.nonempty_of_accumulateAll (EndpointPlanner.mem_finalize.mp member)

end Found

/-! ## Straight lines -/

section Direct

variable [Field R] [LinearOrder R] [FloorRing R]

/-- Each of the nearest fixes is found once. -/
theorem nodup_nearestOnNetwork (builder : GraphBuilder R) (geodesy : Geodesy R) (bound : OutsideBound R)
    (coord : Coordinate R) (limit : Int) (inbound : Bool) :
    (builder.nearestOnNetwork geodesy bound coord limit inbound).Nodup := by
  have run : forall (radii : List Nat) (scored : List (R ×ₗ Int)), (scored.map fun pair => (ofLex pair).2).Nodup ->
      ((builder.expandSearch geodesy bound coord limit.toNat inbound radii scored).map
        fun pair => (ofLex pair).2).Nodup := by
    intro radii
    induction radii with
    | nil => exact fun _ nodup => nodup
    | cons radius radii inductionHypothesis =>
        intro scored _
        have spec : GraphBuilder.Scored builder geodesy coord inbound (builder.grid.near coord radius) _ :=
          GraphBuilder.scored_scoreCandidates _
        have nodup : ((builder.scoreCandidates geodesy coord inbound (builder.grid.near coord radius)).map
            fun pair => (ofLex pair).2).Nodup := by
          refine spec.nodup.map_on fun first listed second other same => ?_
          rcases (spec.mem first).mp listed with ⟨v, -, -, rfl⟩
          rcases (spec.mem second).mp other with ⟨w, -, -, rfl⟩
          have vertices : v = w := same
          rw [vertices]
        rw [GraphBuilder.expandSearch]
        split_ifs
        · exact nodup
        · exact inductionHypothesis _ nodup
  rw [GraphBuilder.nearestOnNetwork]
  split_ifs
  · exact List.nodup_nil
  · refine List.Nodup.sublist ((List.take_sublist _ _).map _) ?_
    exact ((List.perm_insertionSort _ _).map _).nodup_iff.mpr (run kSearchRadii [] List.nodup_nil)

theorem poolOf_buildDctFallback {holds : FixProperty R} {around : Surroundings R} {bound : OutsideBound R}
    {avoid : SortedVector Int} (finds : FindsOnly holds around bound avoid) (airportCoord : Coordinate R) (limit : Int)
    (arrival : Bool) : PoolOf holds (buildDctFallback around bound airportCoord limit arrival) := by
  refine ⟨?_, fun c member => ?_⟩
  · rw [buildDctFallback, List.map_map]
    exact (List.map_id _).symm ▸ nodup_nearestOnNetwork around.builder around.earth bound airportCoord limit arrival
  · rcases List.mem_map.mp member with ⟨v, near, rfl⟩
    exact finds.direct _ _ _ v near

end Direct

/-! ## Plans -/

namespace EndpointPlanner

section Plans

variable [Field R] [LinearOrder R] [FloorRing R] {holds : FixProperty R} {around : Surroundings R}
  {bound : OutsideBound R} {avoid : SortedVector Int} (finds : FindsOnly holds around bound avoid)
  (airportCoord : Coordinate R) (rwy sel : Text) (cifp : CifpData) {start : EndpointPlan R}

omit [Field R] [LinearOrder R] [FloorRing R] in
/-- A plan in which nothing competes. -/
theorem keeps_of_pool {made : EndpointPlan R} (alone : made.softPreferStar = false)
    (pool : PoolOf holds made.connections) : made.Keeps holds :=
  ⟨pool, fun soft => Bool.noConfusion (alone.symm.trans soft), fun soft => Bool.noConfusion (alone.symm.trans soft)⟩

omit [FloorRing R] in
theorem perm_sortConnectionsBySeed (byFix : List (ProcedureConnector.Connection R)) (softPreferStar : Bool) :
    (sortConnectionsBySeed byFix softPreferStar).Perm byFix :=
  List.perm_insertionSort _ _

section Built

include finds

theorem poolOf_buildSide (departure : Bool) : PoolOf holds (buildSide around departure airportCoord rwy cifp) :=
  poolOf_finalize (finds.side airportCoord rwy cifp departure)

theorem poolOf_buildSidSpliceDeparture :
    PoolOf holds (buildSidSpliceDeparture around bound airportCoord rwy sel avoid cifp) :=
  poolOf_finalize (finds.sid airportCoord rwy sel cifp)

theorem poolOf_buildStarSpliceArrival :
    PoolOf holds (buildStarSpliceArrival around bound airportCoord rwy sel avoid cifp) :=
  poolOf_finalize (finds.star airportCoord rwy sel cifp)

theorem poolOf_buildApproachArrival : PoolOf holds (buildApproachArrival around bound airportCoord rwy cifp) :=
  poolOf_finalize (finds.approach airportCoord rwy cifp)

theorem keeps_planDeparture (alone : start.softPreferStar = false) :
    (planDeparture around bound airportCoord rwy sel avoid cifp start).Keeps holds := by
  have built := poolOf_buildSide finds airportCoord rwy cifp true
  have filtered := built.filterConnectionsByName sel
  rw [planDeparture]
  simp only
  split_ifs
  · exact keeps_of_pool alone filtered
  · exact keeps_of_pool alone (poolOf_buildSidSpliceDeparture finds airportCoord rwy sel cifp)
  · exact keeps_of_pool alone (poolOf_buildSidSpliceDeparture finds airportCoord rwy sel cifp)
  · exact keeps_of_pool alone (poolOf_buildSidSpliceDeparture finds airportCoord rwy [] cifp)
  · exact keeps_of_pool alone built

/-- The pool of STARs and approaches names a procedure at each fix. -/
theorem keeps_planPool : (planPool around bound airportCoord rwy avoid cifp start).Keeps holds := by
  have merged := (poolOf_buildStarSpliceArrival finds airportCoord rwy [] cifp).mergeAll
    (!(buildStarSpliceArrival around bound airportCoord rwy [] avoid cifp).isEmpty &&
      !(buildApproachArrival around bound airportCoord rwy cifp).isEmpty)
    (poolOf_buildApproachArrival finds airportCoord rwy cifp) fun c member => by
      rcases List.mem_append.mp member with star | approach
      · exact named_of_finalize star
      · exact named_of_finalize approach
  refine ⟨merged.1.perm (perm_sortConnectionsBySeed _ _), fun soft empty => ?_, fun _ c member => merged.2.2 c ?_⟩
  · have starsNonempty := List.isEmpty_eq_false_iff.mp (Bool.not_eq_true' _ |>.mp (Bool.and_eq_true_iff.mp soft).1)
    exact merged.2.1 starsNonempty ((perm_sortConnectionsBySeed _ _).symm.trans (List.perm_nil.mpr empty)).eq_nil
  · exact (perm_sortConnectionsBySeed _ _).subset member

theorem keeps_planArrival (alone : start.softPreferStar = false) :
    (planArrival around bound airportCoord rwy sel avoid cifp start).Keeps holds := by
  have built := poolOf_buildSide finds airportCoord rwy cifp false
  have filtered := built.filterConnectionsByName sel
  rw [planArrival]
  simp only
  split_ifs
  · exact keeps_of_pool alone filtered
  · exact keeps_of_pool alone (poolOf_buildStarSpliceArrival finds airportCoord rwy sel cifp)
  · exact keeps_of_pool alone (poolOf_buildStarSpliceArrival finds airportCoord rwy sel cifp)
  · exact keeps_of_pool alone built
  · exact keeps_planPool finds airportCoord rwy cifp

/-- Straight lines compete with nothing, and come where there is nothing. -/
theorem keeps_orDirect (departure : Bool) {made : EndpointPlan R} (keeps : made.Keeps holds) :
    (orDirect around bound airportCoord departure made).Keeps holds := by
  rw [orDirect]
  split_ifs with empty
  · refine keeps_of_pool (Bool.eq_false_iff.mpr fun soft => ?_)
      (poolOf_buildDctFallback finds airportCoord 5 (!departure))
    exact keeps.competing soft (List.isEmpty_iff.mp empty)
  · exact keeps

theorem keeps_planProcedures (departure : Bool) (alone : start.softPreferStar = false)
    (pool : PoolOf holds start.connections) :
    (planProcedures around bound airportCoord rwy sel avoid cifp departure start).Keeps holds := by
  have planned : (if departure = true then planDeparture around bound airportCoord rwy sel avoid cifp start
      else planArrival around bound airportCoord rwy sel avoid cifp start).Keeps holds := by
    split_ifs
    · exact keeps_planDeparture finds airportCoord rwy sel cifp alone
    · exact keeps_planArrival finds airportCoord rwy sel cifp alone
  rw [planProcedures]
  split
  · exact keeps_of_pool alone pool
  · generalize (if departure = true then _ else _) = made at planned ⊢
    simp only
    split
    · exact planned
    · exact keeps_orDirect finds airportCoord departure planned

end Built

variable (around bound avoid)

theorem airportIcao_orDirect (departure : Bool) (made : EndpointPlan R) :
    (orDirect around bound airportCoord departure made).airportIcao = made.airportIcao := by
  rw [orDirect]
  split <;> rfl

/-- Planning keeps the name of the airport. -/
theorem airportIcao_planProcedures (departure : Bool) :
    (planProcedures around bound airportCoord rwy sel avoid cifp departure start).airportIcao = start.airportIcao := by
  have planned : (if departure = true then planDeparture around bound airportCoord rwy sel avoid cifp start
      else planArrival around bound airportCoord rwy sel avoid cifp start).airportIcao = start.airportIcao := by
    rw [planDeparture, planArrival]
    simp only
    split_ifs <;> rfl
  rw [planProcedures]
  split
  · rfl
  · generalize (if departure = true then _ else _) = made at planned ⊢
    simp only
    split
    · exact planned
    · exact (airportIcao_orDirect around bound airportCoord departure made).trans planned

end Plans

section Plan

variable [Field R] [LinearOrder R] [FloorRing R] {holds : FixProperty R} {around : Surroundings R}
  {bound : OutsideBound R} {request : RouteRequest R} {name : Text} {departure : Bool}
  {cifpLookup : Text -> Except Error (Option CifpData)} {avoid : SortedVector Int} {made : EndpointPlan R}

/-- Every plan keeps what holds of all findings, and one with a connection is
that of an airport. -/
theorem keeps_plan (finds : FindsOnly holds around bound avoid)
    (planned : plan around bound request name departure cifpLookup avoid = .ok made) :
    made.Keeps holds ∧ (made.connections ≠ [] -> made.airportIcao = toUpper name) := by
  rw [plan] at planned
  simp only at planned
  by_cases known : 0 ≤ around.builder.vertexByAirport (toUpper name)
  · rw [if_pos known] at planned
    rcases fetched : cifpLookup (toUpper name) with failure | (_ | cifp)
    · rw [fetched] at planned
      cases planned
    · simp only [fetched] at planned
      generalize (if departure = true then request.departureSid else request.arrivalStar) = selector at planned
      split at planned
      · cases planned
        exact ⟨keeps_of_pool rfl poolOf_nil, fun _ => rfl⟩
      · cases planned
        exact ⟨keeps_orDirect finds _ departure (keeps_of_pool rfl poolOf_nil),
          fun _ => airportIcao_orDirect around bound _ departure _⟩
    · rw [fetched] at planned
      cases planned
      exact ⟨keeps_planProcedures finds _ _ _ cifp departure rfl poolOf_nil,
        fun _ => airportIcao_planProcedures around bound avoid _ _ _ cifp departure⟩
  · rw [if_neg known] at planned
    cases planned
    exact ⟨keeps_of_pool rfl poolOf_nil, fun connected => absurd rfl connected⟩

end Plan

end EndpointPlanner
end BravoFinder
