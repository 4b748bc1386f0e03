import BravoFinder.Build.ProcedureConnector

namespace BravoFinder
namespace ProcedureConnector

/-!
# A spliced gate is priced like one on the network

The body of a procedure whose gate is off the network is measured by another
loop than that of a gate on the network.  Both measure the same polyline: each
gap between two resolved fixes once, nothing before the first and nothing after
the last.
-/

open Stop LegChart

variable {R : Type} [Field R] [LinearOrder R] [FloorRing R] {chart : LegChart R} {earth : Geodesy R}

/-! ## The published exit of a SID -/

/-- The last fix-bearing leg, in a list that has one. -/
theorem lastFix_split (legs : List ProcedureLeg) (none : Nat) :
    (legs.zipIdx.foldl (fun last entry => if entry.1.fixIsDefinite then entry.2 else last) none = none ∧
      forall leg, leg ∈ legs -> leg.fixIsDefinite = false) ∨
    exists before leg after, legs = before ++ leg :: after ∧ leg.fixIsDefinite = true ∧
      (forall other, other ∈ after -> other.fixIsDefinite = false) ∧
      legs.zipIdx.foldl (fun last entry => if entry.1.fixIsDefinite then entry.2 else last) none = before.length := by
  induction legs using List.reverseRecOn with
  | nil => exact Or.inl ⟨rfl, List.forall_mem_nil _⟩
  | append_singleton legs leg inductionHypothesis =>
      rw [List.zipIdx_append, List.foldl_append, Nat.zero_add, List.zipIdx_singleton, List.foldl_cons, List.foldl_nil]
      by_cases definite : leg.fixIsDefinite = true
      · rw [if_pos definite]
        exact Or.inr ⟨legs, leg, [], rfl, definite, List.forall_mem_nil _, rfl⟩
      · rw [if_neg definite]
        rw [Bool.not_eq_true] at definite
        rcases inductionHypothesis with ⟨same, missing⟩ | ⟨before, exit, after, split, bears, later, same⟩
        · refine Or.inl ⟨same, fun other member => ?_⟩
          rcases List.mem_append.mp member with earlier | last
          · exact missing other earlier
          · exact List.mem_singleton.mp last ▸ definite
        · refine Or.inr ⟨before, exit, after ++ [leg], by rw [split, List.append_assoc, List.cons_append], bears,
            fun other member => ?_, same⟩
          rcases List.mem_append.mp member with earlier | last
          · exact later other earlier
          · exact List.mem_singleton.mp last ▸ definite

/-- No leg after the exit bears a fix. -/
theorem exit_split {p : Procedure} {leg : ProcedureLeg} (isExit : p.legs[lastFixBearingLeg p]? = some leg) :
    exists before after, p.legs = before ++ leg :: after ∧ lastFixBearingLeg p = before.length ∧
      forall other, other ∈ after -> other.fixIsDefinite = false := by
  rcases lastFix_split p.legs p.legs.length with ⟨missing, -⟩ | ⟨before, exit, after, split, -, later, here⟩
  · rw [lastFixBearingLeg, missing, List.getElem?_eq_none (Nat.le_refl _)] at isExit
    cases isExit
  · have found := isExit
    rw [lastFixBearingLeg, here, split, List.getElem?_append_right (Nat.le_refl _), Nat.sub_self,
      List.getElem?_cons_zero, Option.some.injEq] at found
    exact ⟨before, after, found ▸ split, here, later⟩

/-! ## The two measures -/

omit [FloorRing R] in
theorem stops_eq_nil {legs : List ProcedureLeg} (none : forall leg, leg ∈ legs -> chart.vertexOf leg < 0)
    (accrued : R) : chart.stops accrued legs = [] := by
  rw [← List.map_eq_nil_iff (f := Stop.place), map_place_stops, List.filter_eq_nil_iff]
  intro leg member
  rw [decide_eq_true_iff, Int.not_le]
  exact none leg member

omit [FloorRing R] in
/-- The whole record, cut at one of its stops. -/
theorem stops_split (chart : LegChart R) {legs before after : List ProcedureLeg} {leg : ProcedureLeg} (split : legs = before ++ leg :: after)
    (known : 0 ≤ chart.vertexOf leg) :
    chart.stops 0 legs = chart.stops 0 before ++ ⟨leg, chart.pendingAfter 0 before⟩ :: chart.stops 0 after := by
  rw [split, stops_append, stops, if_neg (Int.not_lt.mpr known)]

omit [Field R] [LinearOrder R] [FloorRing R] in
theorem endOf_cons (leg : ProcedureLeg) (accrued : R) (rest : List (Stop ProcedureLeg R)) :
    endOf chart (⟨leg, accrued⟩ :: rest) = some (chart.placeOf (lastPlace leg rest)) := by
  rw [endOf, lastPlace, List.getLast?_cons]
  rcases rest.getLast? with _ | last <;> rfl

omit [Field R] [LinearOrder R] [FloorRing R] in
theorem counted_false (stops : List (Stop ProcedureLeg R)) : counted false stops = stops := by
  refine takeThrough_of_none (List.any_eq_false.mpr fun stop _ => ?_)
  rw [Bool.and_false]
  exact Bool.false_ne_true

section

omit [FloorRing R]

/-- The body of a STAR from one of its fixes. -/
theorem starBodyAndStubNm_eq (chart : LegChart R) (earth : Geodesy R) {p : Procedure} {before after : List ProcedureLeg} {leg : ProcedureLeg}
    (airportCoord : Coordinate R) (split : p.legs = before ++ leg :: after) (known : 0 ≤ chart.vertexOf leg)
    (new : forall other, other ∈ before -> chart.vertexOf other ≠ chart.vertexOf leg) :
    starBodyAndStubNm chart earth p (chart.vertexOf leg) airportCoord =
      polyline (chart.between earth) (⟨leg, 0⟩ :: chart.stops 0 after) +
        earth.distanceTo (chart.placeOf (lastPlace leg (chart.stops 0 after))) airportCoord := by
  rcases walkApproachSegment_from earth false split known new with ⟨out, walked, follows⟩
  have last : out.endCoord.getD (chart.coordOf (chart.vertexOf leg)) =
      chart.placeOf (lastPlace leg (chart.stops 0 after)) := by
    have ends := follows.endCoord
    rw [counted_false, endOf_cons] at ends
    generalize out.endCoord = finish at ends ⊢
    rcases finish with _ | finish
    · exact Option.some.inj ends
    · exact Option.some.inj ends
  unfold starBodyAndStubNm
  rw [walked]
  change out.nm + _ = _
  rw [follows.nm, counted_false, last]

/-- The body of a SID up to its exit. -/
theorem sidBodyToExitNm_eq (chart : LegChart R) (earth : Geodesy R) {p : Procedure} {before after : List ProcedureLeg} {leg : ProcedureLeg}
    (airportCoord : Coordinate R) (split : p.legs = before ++ leg :: after) (known : 0 ≤ chart.vertexOf leg)
    (last : forall other, other ∈ after -> chart.vertexOf other < 0) {first : Stop ProcedureLeg R}
    (starts : (chart.stops 0 p.legs).head? = some first) :
    sidBodyToExitNm chart earth p (chart.vertexOf leg) airportCoord =
      earth.distanceTo airportCoord (chart.placeOf first.place) +
        polyline (chart.between earth) (chart.stops 0 before ++ [⟨leg, chart.pendingAfter 0 before⟩]) := by
  rcases walkApproachSegment_whole chart earth false p
    (show kNoVertex < 0 by decide) with ⟨out, walked, follows⟩
  have whole := stops_split chart split known
  rw [stops_eq_nil last] at whole
  have ends := follows.endCoord
  rw [counted_false, whole, endOf, List.getLast?_concat, Option.or_none] at ends
  have found : (p.legs.find? fun leg => decide (0 ≤ chart.vertexOf leg)) = some first.place := by
    rw [← List.head?_filter, ← map_place_stops _ 0, List.head?_map, starts]
    rfl
  unfold sidBodyToExitNm
  rw [walked, found]
  change (if (true && out.endCoord.isSome) = true then _ else _) = _
  rw [ends, if_pos (by rfl), follows.nm, counted_false, whole]
  rfl

/-- In both directions a spliced gate costs what the same gate would cost on the
network, whatever else is on it: the polyline of its side of the record, and the
distance between the airport and the end of the record. -/
theorem splice_eq_gateSeed (around : Surroundings R) (airportCoord : Coordinate R) (p : Procedure)
    (usable : Int -> Bool) :
    (forall before leg after, p.legs = before ++ leg :: after -> leg.pathTerm = .kIF -> 0 ≤ around.vertexOf leg ->
      (forall other, other ∈ before -> around.vertexOf other ≠ around.vertexOf leg) ->
      usable (around.vertexOf leg) = true ->
      exists hit, hit ∈ (walkOnNetworkFixes around.chart around.earth usable false p).hits ∧
        hit.vertex = around.vertexOf leg ∧ hit.isGate = true ∧
        hit.resolvedIndex = (around.chart.stops 0 before).length ∧
        starBodyAndStubNm around.chart around.earth p (around.vertexOf leg) airportCoord =
          gateSeed around.earth false airportCoord (walkOnNetworkFixes around.chart around.earth usable false p) hit ∧
        starBodyAndStubNm around.chart around.earth p (around.vertexOf leg) airportCoord =
          polyline (around.chart.between around.earth) (⟨leg, 0⟩ :: around.chart.stops 0 after) +
            around.earth.distanceTo (around.chart.placeOf (lastPlace leg (around.chart.stops 0 after))) airportCoord) ∧
    (forall leg, p.legs[lastFixBearingLeg p]? = some leg -> 0 ≤ around.vertexOf leg ->
      usable (around.vertexOf leg) = true ->
      exists hit, hit ∈ (walkOnNetworkFixes around.chart around.earth usable true p).hits ∧
        hit.vertex = around.vertexOf leg ∧ hit.isGate = true ∧
        hit.resolvedIndex + 1 = (around.chart.stops 0 p.legs).length ∧
        sidBodyToExitNm around.chart around.earth p (around.vertexOf leg) airportCoord =
          gateSeed around.earth true airportCoord (walkOnNetworkFixes around.chart around.earth usable true p) hit ∧
        exists first, (around.chart.stops 0 p.legs).head? = some first ∧
          sidBodyToExitNm around.chart around.earth p (around.vertexOf leg) airportCoord =
            around.earth.distanceTo airportCoord (around.chart.placeOf first.place) +
              polyline (around.chart.between around.earth) (around.chart.stops 0 p.legs)) := by
  refine ⟨fun before leg after split isIf known new use => ?_, fun leg isExit known use => ?_⟩
  · have body := starBodyAndStubNm_eq around.chart around.earth airportCoord split known new
    rcases exists_hit around.chart around.earth usable
      (fun leg i => if false then i == lastFixBearingLeg p else leg.pathTerm == .kIF) before after known use with
      ⟨earlier, later, hits⟩
    rw [← split] at hits
    have measured := measured_walk around.chart around.earth usable
      (fun leg i => if false then i == lastFixBearingLeg p else leg.pathTerm == .kIF) p.legs
    refine ⟨_, hits ▸ List.mem_append_right _ List.mem_cons_self, rfl, beq_iff_eq.mpr isIf, rfl, ?_, body⟩
    have cut := polyline_append (around.chart.between around.earth) (around.chart.stops 0 before)
      (around.chart.stops 0 after) ⟨leg, around.chart.pendingAfter 0 before⟩
    have whole := stops_split around.chart split known
    have lastCoord : (walkOnNetworkFixes around.chart around.earth usable false p).resolved.getLast? =
        some (around.chart.placeOf (lastPlace leg (around.chart.stops 0 after))) := by
      rw [walkOnNetworkFixes, measured.resolved, List.getLast?_map, whole, List.getLast?_append, ← endOf_cons leg
        (around.chart.pendingAfter 0 before), endOf, List.getLast?_cons]
      rfl
    rw [gateSeed, if_neg Bool.false_ne_true, runwayBridge, if_neg Bool.false_ne_true, lastCoord]
    change _ = (WalkResult.totalNm _ - _) + _
    rw [walkOnNetworkFixes, measured.totalNm, whole, cut, add_sub_cancel_left]
    exact body
  · rcases exit_split isExit with ⟨before, after, split, index, later⟩
    have last : forall other, other ∈ after -> around.vertexOf other < 0 := by
      intro other member
      rw [Surroundings.vertexOf, later other member]
      exact Int.negSucc_lt_zero 0
    rcases exists_hit around.chart around.earth usable
      (fun leg i => if true then i == lastFixBearingLeg p else leg.pathTerm == .kIF) before after known use with
      ⟨earlier, following, hits⟩
    rw [← split] at hits
    have measured := measured_walk around.chart around.earth usable
      (fun leg i => if true then i == lastFixBearingLeg p else leg.pathTerm == .kIF) p.legs
    have whole := stops_split around.chart split known
    rw [show around.chart.stops 0 after = [] from stops_eq_nil last 0] at whole
    rcases starts : (around.chart.stops 0 p.legs).head? with _ | first
    · rw [List.head?_eq_none_iff, whole] at starts
      exact absurd starts (List.append_ne_nil_of_right_ne_nil _ (List.cons_ne_nil _ _))
    have body := sidBodyToExitNm_eq around.chart around.earth airportCoord split known last starts
    refine ⟨_, hits ▸ List.mem_append_right _ List.mem_cons_self, rfl, beq_iff_eq.mpr index.symm, ?_, ?_, first, rfl, ?_⟩
    · rw [whole, List.length_append, List.length_singleton]
    · rw [gateSeed, if_pos rfl, runwayBridge, if_pos rfl, walkOnNetworkFixes, measured.resolved, List.head?_map, starts]
      exact body
    · rw [whole]
      exact body

end

/-- A STAR from the one fix of the meridian to the other, entered at the first. -/
def meridianStar : Procedure :=
  ⟨.kStar, [83], [], [], 0, [plainLeg .kIF waypointB, plainLeg .kTF waypointC]⟩

theorem splice_eq_gateSeed_meridian :
    exists hit, hit ∈ (walkOnNetworkFixes meridianAround.chart meridianAround.earth (fun v => v == 0) false
        meridianStar).hits ∧ hit.vertex = 0 ∧
      starBodyAndStubNm meridianAround.chart meridianAround.earth meridianStar 0 ⟨42, 116⟩ =
        gateSeed meridianAround.earth false ⟨42, 116⟩ (walkOnNetworkFixes meridianAround.chart meridianAround.earth
          (fun v => v == 0) false meridianStar) hit := by
  have here : meridianAround.vertexOf (plainLeg .kIF waypointB) = 0 := by decide +kernel
  have gates := (splice_eq_gateSeed meridianAround ⟨42, 116⟩ meridianStar fun v => v == 0).1 [] (plainLeg .kIF waypointB)
    [plainLeg .kTF waypointC] rfl rfl here.ge (List.forall_mem_nil _) (by rw [here]; rfl)
  rw [here] at gates
  rcases gates with ⟨hit, found, vertex, -, -, same, -⟩
  exact ⟨hit, found, vertex, same⟩

end ProcedureConnector
end BravoFinder
