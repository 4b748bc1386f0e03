import BravoFinder.Build.FixLookup
import BravoFinder.Library.Polyline
import Mathlib.Data.List.Induction

namespace BravoFinder

/-!
# Walking along the legs of a procedure

Two loops measure a record.  One goes over all its legs and marks the fixes on
the network; the other starts at a fix, or at the first, and may stop at the
missed approach point.  Both measure the polyline of the resolved fixes, in
which the distances published for the legs between two fixes replace the direct
distance.
-/

variable {R : Type} [AddCommMonoid R] [LinearOrder R]

/-! ## The stops of a record -/

namespace LegChart

variable (chart : LegChart R)

/-- What is measured of the gap, after one leg more without a fix. -/
def accrue (accrued : R) (leg : ProcedureLeg) : R :=
  if 0 < chart.distanceNm leg then accrued + chart.distanceNm leg else accrued

/-- The legs of a record that end at a vertex. -/
def stops : R -> List ProcedureLeg -> List (Stop ProcedureLeg R)
  | _, [] => []
  | accrued, leg :: rest =>
      if chart.vertexOf leg < 0 then stops (chart.accrue accrued leg) rest else ⟨leg, accrued⟩ :: stops 0 rest

/-- What is measured since the last stop. -/
def pendingAfter : R -> List ProcedureLeg -> R
  | accrued, [] => accrued
  | accrued, leg :: rest =>
      if chart.vertexOf leg < 0 then pendingAfter (chart.accrue accrued leg) rest else pendingAfter 0 rest

/-- The position of a stop. -/
def placeOf (leg : ProcedureLeg) : Coordinate R :=
  chart.coordOf (chart.vertexOf leg)

/-- The distance between two stops. -/
def between (earth : Geodesy R) (origin target : ProcedureLeg) : R :=
  earth.distanceTo (chart.placeOf origin) (chart.placeOf target)

variable {chart}

theorem stops_append (chart : LegChart R) (accrued : R) (front back : List ProcedureLeg) :
    chart.stops accrued (front ++ back) =
      chart.stops accrued front ++ chart.stops (chart.pendingAfter accrued front) back := by
  induction front generalizing accrued with
  | nil => rfl
  | cons leg rest inductionHypothesis =>
      rw [List.cons_append, stops, stops, pendingAfter]
      split_ifs
      · exact inductionHypothesis _
      · rw [inductionHypothesis, List.cons_append]

theorem pendingAfter_append (accrued : R) (front back : List ProcedureLeg) :
    chart.pendingAfter accrued (front ++ back) = chart.pendingAfter (chart.pendingAfter accrued front) back := by
  induction front generalizing accrued with
  | nil => rfl
  | cons leg rest inductionHypothesis =>
      rw [List.cons_append, pendingAfter, pendingAfter]
      split_ifs <;> exact inductionHypothesis _

/-- The stops are the legs that end at a vertex. -/
theorem map_place_stops (chart : LegChart R) (accrued : R) (legs : List ProcedureLeg) :
    (chart.stops accrued legs).map Stop.place = legs.filter fun leg => 0 ≤ chart.vertexOf leg := by
  induction legs generalizing accrued with
  | nil => rfl
  | cons leg rest inductionHypothesis =>
      rw [stops]
      split_ifs with missing
      · rw [inductionHypothesis, List.filter_cons_of_neg (by rw [decide_eq_true_iff]; omega)]
      · rw [List.map_cons, inductionHypothesis, List.filter_cons_of_pos (by rw [decide_eq_true_iff]; omega)]

end LegChart

namespace ProcedureConnector

/-! ## The walk for gates on the network -/

/-- A fix on the network that a record passes. -/
structure FixHit (R : Type) where
  vertex : Int
  cumulativeNm : R
  isGate : Bool
  resolvedIndex : Nat
deriving DecidableEq

/-- `WalkResult`, and the loop's own variables: `prev_coord` is the last
resolved position, and the first and last coordinates are the ends of it. -/
structure WalkResult (R : Type) where
  hits : List (FixHit R)
  resolved : List (Coordinate R)
  totalNm : R
  pendingNm : R
deriving DecidableEq

/-- `LastFixBearingLeg`. -/
def lastFixBearingLeg (p : Procedure) : Nat :=
  (p.legs.zipIdx.foldl (fun last entry => if entry.1.fixIsDefinite then entry.2 else last) p.legs.length)

/-- The distance accumulated up to a fix.  The gap before it counts once: what
the legs without a fix have accrued, or else the direct distance. -/
def WalkResult.reach (walk : WalkResult R) (earth : Geodesy R) (here : Coordinate R) : R :=
  match walk.resolved.getLast? with
  | none => walk.totalNm
  | some prev => walk.totalNm + if 0 < walk.pendingNm then walk.pendingNm else earth.distanceTo prev here

/-- One leg of `WalkOnNetworkFixes`. -/
def walkStep (chart : LegChart R) (earth : Geodesy R) (usable : Int -> Bool) (gate : ProcedureLeg -> Nat -> Bool)
    (walk : WalkResult R) (entry : ProcedureLeg × Nat) : WalkResult R :=
  let v := chart.vertexOf entry.1
  if v < 0 then
    if 0 < chart.distanceNm entry.1 then { walk with pendingNm := walk.pendingNm + chart.distanceNm entry.1 } else walk
  else
    let here := chart.coordOf v
    let cumulative := walk.reach earth here
    { hits :=
        if usable v then walk.hits ++ [⟨v, cumulative, gate entry.1 entry.2, walk.resolved.length⟩] else walk.hits
      resolved := walk.resolved ++ [here]
      totalNm := cumulative
      pendingNm := 0 }

/-- `WalkOnNetworkFixes`.  A STAR is entered at an initial fix, a SID left at its
last leg that bears a fix. -/
def walkOnNetworkFixes (chart : LegChart R) (earth : Geodesy R) (usable : Int -> Bool) (departure : Bool)
    (p : Procedure) : WalkResult R :=
  let sidExitLeg := lastFixBearingLeg p
  p.legs.zipIdx.foldl
    (walkStep chart earth usable fun leg i => if departure then i == sidExitLeg else leg.pathTerm == .kIF)
    ⟨[], [], 0, 0⟩

/-! ## The walk of one segment -/

/-- `ApproachWalk`. -/
structure ApproachWalk (R : Type) where
  nm : R
  endCoord : Option (Coordinate R)
  nextCoord : Option (Coordinate R)
deriving DecidableEq

/-- The variables of the loop.  `found_start` is `measuring`. -/
structure SegmentState (R : Type) where
  cumulative : R
  measuring : Bool
  prevCoord : Option (Coordinate R)
  pendingNm : R
  out : ApproachWalk R

/-- A leg without a fix. -/
def SegmentState.passOver (state : SegmentState R) (chart : LegChart R) (leg : ProcedureLeg) : SegmentState R :=
  if state.measuring && decide (0 < chart.distanceNm leg) then
    { state with pendingNm := state.pendingNm + chart.distanceNm leg }
  else state

/-- The start: no gap is counted yet. -/
def SegmentState.startAt (state : SegmentState R) (here : Coordinate R) : SegmentState R :=
  { state with measuring := true, prevCoord := some here, pendingNm := 0 }

/-- A fix after the start. -/
def SegmentState.stopAt (state : SegmentState R) (earth : Geodesy R) (here : Coordinate R) : SegmentState R :=
  let cumulative := match state.prevCoord with
    | none => state.cumulative
    | some prev => state.cumulative + if 0 < state.pendingNm then state.pendingNm else earth.distanceTo prev here
  let next := match state.prevCoord with
    | none => state.out.nextCoord
    | some _ => state.out.nextCoord.or (some here)
  { state with
    cumulative := cumulative
    pendingNm := 0
    prevCoord := some here
    out := ⟨cumulative, some here, next⟩ }

/-- The loop of `WalkApproachSegment`. -/
def walkSegment (chart : LegChart R) (earth : Geodesy R) (startVertex : Int) (stopAtMapt : Bool) :
    SegmentState R -> List ProcedureLeg -> Bool × ApproachWalk R
  | state, [] => (state.measuring, state.out)
  | state, leg :: rest =>
      let v := chart.vertexOf leg
      let here := chart.coordOf v
      if v < 0 then walkSegment chart earth startVertex stopAtMapt (state.passOver chart leg) rest
      else if !state.measuring then
        if v = startVertex then
          if leg.isMapt && stopAtMapt then (true, { state.out with nm := 0, endCoord := some here })
          else walkSegment chart earth startVertex stopAtMapt (state.startAt here) rest
        else walkSegment chart earth startVertex stopAtMapt state rest
      else if leg.isMapt && stopAtMapt then (true, (state.stopAt earth here).out)
      else walkSegment chart earth startVertex stopAtMapt (state.stopAt earth here) rest

/-- `WalkApproachSegment`: whether the start was found, and the walk. -/
def walkApproachSegment (chart : LegChart R) (earth : Geodesy R) (p : Procedure) (startVertex : Int)
    (stopAtMapt : Bool) : Bool × ApproachWalk R :=
  walkSegment chart earth startVertex stopAtMapt ⟨0, decide (startVertex < 0), none, 0, ⟨0, none, none⟩⟩ p.legs

open LegChart Stop

section OnNetwork

variable {chart : LegChart R} {earth : Geodesy R} {usable : Int -> Bool} {gate : ProcedureLeg -> Nat -> Bool}

/-- What the first walk has measured, after some legs. -/
structure Measured (chart : LegChart R) (earth : Geodesy R) (walk : WalkResult R) (legs : List ProcedureLeg) :
    Prop where
  resolved : walk.resolved = (chart.stops 0 legs).map fun stop => chart.placeOf stop.place
  totalNm : walk.totalNm = polyline (chart.between earth) (chart.stops 0 legs)
  pendingNm : walk.pendingNm = chart.pendingAfter 0 legs

theorem Measured.reach {walk : WalkResult R} {legs : List ProcedureLeg} (measured : Measured chart earth walk legs)
    (leg : ProcedureLeg) :
    walk.reach earth (chart.placeOf leg) =
      polyline (chart.between earth) (chart.stops 0 legs ++ [⟨leg, walk.pendingNm⟩]) := by
  rw [WalkResult.reach, measured.resolved, measured.totalNm, List.getLast?_map]
  rcases List.eq_nil_or_concat' (chart.stops 0 legs) with none | ⟨front, last, concat⟩
  · rw [none]
    rfl
  · have cut := polyline_append (chart.between earth) front [⟨leg, walk.pendingNm⟩] last
    rw [concat, List.getLast?_concat, List.append_assoc, List.singleton_append, cut, polyline, flown, flown, add_zero]
    rfl

theorem Measured.step {walk : WalkResult R} {legs : List ProcedureLeg} (measured : Measured chart earth walk legs)
    (leg : ProcedureLeg) (i : Nat) :
    Measured chart earth (walkStep chart earth usable gate walk (leg, i)) (legs ++ [leg]) := by
  rw [walkStep]
  by_cases missing : chart.vertexOf leg < 0
  · have same : chart.stops 0 (legs ++ [leg]) = chart.stops 0 legs := by
      rw [stops_append, stops, if_pos missing, stops, List.append_nil]
    have pending : chart.pendingAfter 0 (legs ++ [leg]) = chart.accrue walk.pendingNm leg := by
      rw [pendingAfter_append, pendingAfter, if_pos missing, pendingAfter, ← measured.pendingNm]
    rw [if_pos missing, accrue] at *
    split_ifs at pending ⊢
    · exact ⟨same ▸ measured.resolved, same ▸ measured.totalNm, pending.symm⟩
    · exact ⟨same ▸ measured.resolved, same ▸ measured.totalNm, pending.symm⟩
  · have added : chart.stops 0 (legs ++ [leg]) = chart.stops 0 legs ++ [⟨leg, walk.pendingNm⟩] := by
      rw [stops_append, stops, if_neg missing, stops, measured.pendingNm]
    rw [if_neg missing]
    refine ⟨?_, ?_, ?_⟩
    · rw [added, List.map_append, ← measured.resolved]
      rfl
    · rw [added]
      exact measured.reach leg
    · rw [pendingAfter_append, pendingAfter, if_neg missing]
      rfl

/-- The first walk measures the polyline of the stops. -/
theorem measured_walk (chart : LegChart R) (earth : Geodesy R) (usable : Int -> Bool)
    (gate : ProcedureLeg -> Nat -> Bool) (legs : List ProcedureLeg) :
    Measured chart earth (legs.zipIdx.foldl (walkStep chart earth usable gate) ⟨[], [], 0, 0⟩) legs := by
  induction legs using List.reverseRecOn with
  | nil => exact ⟨rfl, rfl, rfl⟩
  | append_singleton legs leg inductionHypothesis =>
      rw [List.zipIdx_append, List.foldl_append]
      exact inductionHypothesis.step leg _

theorem hits_prefix (chart : LegChart R) (earth : Geodesy R) (usable : Int -> Bool)
    (gate : ProcedureLeg -> Nat -> Bool) (walk : WalkResult R) (entries : List (ProcedureLeg × Nat)) :
    walk.hits <+: (entries.foldl (walkStep chart earth usable gate) walk).hits := by
  induction entries generalizing walk with
  | nil => exact List.prefix_refl _
  | cons entry rest inductionHypothesis =>
      refine List.IsPrefix.trans ?_ (inductionHypothesis _)
      rw [walkStep]
      split
      · split <;> exact List.prefix_refl _
      · dsimp only
        split
        · exact List.prefix_append _ _
        · exact List.prefix_refl _

/-- The hit at a leg whose vertex is usable. -/
theorem exists_hit (chart : LegChart R) (earth : Geodesy R) (usable : Int -> Bool)
    (gate : ProcedureLeg -> Nat -> Bool) (before after : List ProcedureLeg) {leg : ProcedureLeg}
    (found : 0 ≤ chart.vertexOf leg) (use : usable (chart.vertexOf leg) = true) :
    exists earlier later, ((before ++ leg :: after).zipIdx.foldl (walkStep chart earth usable gate) ⟨[], [], 0, 0⟩).hits =
      earlier ++ ⟨chart.vertexOf leg,
        polyline (chart.between earth) (chart.stops 0 before ++ [⟨leg, chart.pendingAfter 0 before⟩]),
        gate leg before.length, (chart.stops 0 before).length⟩ :: later := by
  have measured := measured_walk chart earth usable gate before
  rw [List.zipIdx_append, List.foldl_append, List.zipIdx_cons, List.foldl_cons, Nat.zero_add]
  generalize before.zipIdx.foldl (walkStep chart earth usable gate) ⟨[], [], 0, 0⟩ = walk at measured ⊢
  rcases hits_prefix chart earth usable gate
    (walkStep chart earth usable gate walk (leg, before.length)) (after.zipIdx (before.length + 1)) with ⟨later, extended⟩
  have hit : (walkStep chart earth usable gate walk (leg, before.length)).hits = walk.hits ++
      [⟨chart.vertexOf leg, walk.reach earth (chart.placeOf leg), gate leg before.length, walk.resolved.length⟩] := by
    rw [walkStep, if_neg (Int.not_lt.mpr found)]
    exact if_pos use
  refine ⟨walk.hits, later, ?_⟩
  rw [← extended, hit, List.append_assoc, List.singleton_append, measured.reach leg, measured.pendingNm,
    measured.resolved, List.length_map]

end OnNetwork

section Segment

variable {chart : LegChart R} {earth : Geodesy R} {startVertex : Int} {stopAtMapt : Bool}

/-- The stops that count: up to the missed approach point, when the walk stops
there. -/
def counted (stopAtMapt : Bool) (stops : List (Stop ProcedureLeg R)) : List (Stop ProcedureLeg R) :=
  takeThrough (fun stop => stop.place.isMapt && stopAtMapt) stops

/-- The walk after its start. -/
theorem walkSegment_measuring (legs : List ProcedureLeg) {state : SegmentState R} {prev : ProcedureLeg}
    (measuring : state.measuring = true) (previous : state.prevCoord = some (chart.placeOf prev))
    (sum : state.out.nm = state.cumulative) :
    walkSegment chart earth startVertex stopAtMapt state legs =
      (true,
        { nm := state.cumulative + flown (chart.between earth) prev (counted stopAtMapt (chart.stops state.pendingNm legs))
          endCoord := ((counted stopAtMapt (chart.stops state.pendingNm legs)).getLast?.map fun stop =>
            chart.placeOf stop.place).or state.out.endCoord
          nextCoord := state.out.nextCoord.or
            ((counted stopAtMapt (chart.stops state.pendingNm legs)).head?.map fun stop => chart.placeOf stop.place) }) := by
  induction legs generalizing state prev with
  | nil =>
      rw [walkSegment, stops, counted, takeThrough, flown, add_zero, measuring, ← sum]
      simp only [List.getLast?_nil, Option.map_none, Option.none_or, List.head?_nil, Option.or_none]
  | cons leg rest inductionHypothesis =>
      rw [walkSegment, stops]
      by_cases missing : chart.vertexOf leg < 0
      · rw [if_pos missing, if_pos missing]
        have passed : state.passOver chart leg = { state with pendingNm := chart.accrue state.pendingNm leg } := by
          have flag : (state.measuring && decide (0 < chart.distanceNm leg)) = decide (0 < chart.distanceNm leg) := by
            rw [measuring, Bool.true_and]
          rw [SegmentState.passOver, flag, accrue]
          by_cases long : 0 < chart.distanceNm leg
          · rw [if_pos (decide_eq_true long), if_pos long]
          · rw [if_neg (Bool.eq_false_iff.mp (decide_eq_false long)), if_neg long]
        rw [passed]
        exact inductionHypothesis measuring previous sum
      · rw [if_neg missing, if_neg missing, measuring]
        change (if false = true then _ else if _ then (true, (state.stopAt earth (chart.placeOf leg)).out) else
          walkSegment chart earth startVertex stopAtMapt (state.stopAt earth (chart.placeOf leg)) rest) = _
        have still : (state.stopAt earth (chart.placeOf leg)).measuring = true := measuring
        have sumNext : (state.stopAt earth (chart.placeOf leg)).cumulative =
            state.cumulative + span (chart.between earth) prev ⟨leg, state.pendingNm⟩ := by
          rw [SegmentState.stopAt, previous]
          rfl
        have next : (state.stopAt earth (chart.placeOf leg)).out.nextCoord =
            state.out.nextCoord.or (some (chart.placeOf leg)) := by
          rw [SegmentState.stopAt, previous]
        rw [if_neg Bool.false_ne_true, counted, takeThrough]
        by_cases last : (leg.isMapt && stopAtMapt) = true
        · rw [if_pos last, if_pos last, flown, flown, add_zero, List.head?_cons, Option.map_some, ← next, ← sumNext]
          rfl
        · rw [if_neg last, if_neg last, inductionHypothesis still rfl rfl, sumNext, next, ← counted, flown,
            List.getLast?_cons, List.head?_cons, add_assoc]
          change (true, ApproachWalk.mk _ (Option.or (Option.map _ (counted stopAtMapt (chart.stops 0 rest)).getLast?)
            (some (chart.placeOf leg))) (Option.or _ (Option.map _ (counted stopAtMapt (chart.stops 0 rest)).head?))) = _
          rcases (counted stopAtMapt (chart.stops 0 rest)).getLast? with _ | final <;>
            rcases state.out.nextCoord with _ | following <;> rfl

/-- Where some stops end. -/
def endOf (chart : LegChart R) (stops : List (Stop ProcedureLeg R)) : Option (Coordinate R) :=
  stops.getLast?.map fun stop => chart.placeOf stop.place

/-- The second of some stops. -/
def secondOf (chart : LegChart R) (stops : List (Stop ProcedureLeg R)) : Option (Coordinate R) :=
  stops[1]?.map fun stop => chart.placeOf stop.place

/-- A walk measures the polyline of the stops that count.  At its start a walk
has no end yet: its callers take the start for it. -/
structure Follows (chart : LegChart R) (earth : Geodesy R) (start : Option (Coordinate R))
    (stops : List (Stop ProcedureLeg R)) (out : ApproachWalk R) : Prop where
  nm : out.nm = polyline (chart.between earth) stops
  endCoord : out.endCoord.or start = endOf chart stops
  nextCoord : out.nextCoord = secondOf chart stops

theorem follows_walkSegment (leg : ProcedureLeg) (rest : List ProcedureLeg) (known : 0 ≤ chart.vertexOf leg) :
    exists out, walkSegment chart earth (chart.vertexOf leg) stopAtMapt ⟨0, false, none, 0, ⟨0, none, none⟩⟩
        (leg :: rest) = (true, out) ∧
      Follows chart earth (some (chart.placeOf leg)) (counted stopAtMapt (⟨leg, 0⟩ :: chart.stops 0 rest)) out := by
  have start : walkSegment chart earth (chart.vertexOf leg) stopAtMapt ⟨0, false, none, 0, ⟨0, none, none⟩⟩
      (leg :: rest) = if (leg.isMapt && stopAtMapt) = true then (true, ⟨0, some (chart.placeOf leg), none⟩)
        else walkSegment chart earth (chart.vertexOf leg) stopAtMapt
          ⟨0, true, some (chart.placeOf leg), 0, ⟨0, none, none⟩⟩ rest := by
    rw [walkSegment, if_neg (Int.not_lt.mpr known)]
    exact (if_pos rfl).trans (if_pos rfl)
  rw [start, counted, takeThrough]
  by_cases last : (leg.isMapt && stopAtMapt) = true
  · rw [if_pos last, if_pos last]
    exact ⟨_, rfl, rfl, rfl, rfl⟩
  · rw [if_neg last, if_neg last, walkSegment_measuring rest rfl rfl rfl, ← counted]
    refine ⟨_, rfl, zero_add _, ?_, ?_⟩
    · rw [endOf, List.getLast?_cons]
      change Option.or (Option.or (Option.map _ (counted stopAtMapt (chart.stops 0 rest)).getLast?) _) _ = _
      rcases (counted stopAtMapt (chart.stops 0 rest)).getLast? with _ | final <;> rfl
    · rw [secondOf, List.getElem?_cons_succ, ← List.head?_eq_getElem?]
      rfl

/-- The walk that starts at a fix. -/
theorem walkApproachSegment_from (earth : Geodesy R) (stopAtMapt : Bool) {p : Procedure} {before after : List ProcedureLeg} {leg : ProcedureLeg}
    (legs : p.legs = before ++ leg :: after) (known : 0 ≤ chart.vertexOf leg)
    (new : forall other, other ∈ before -> chart.vertexOf other ≠ chart.vertexOf leg) :
    exists out, walkApproachSegment chart earth p (chart.vertexOf leg) stopAtMapt = (true, out) ∧
      Follows chart earth (some (chart.placeOf leg)) (counted stopAtMapt (⟨leg, 0⟩ :: chart.stops 0 after)) out := by
  rw [walkApproachSegment, legs, decide_eq_false (Int.not_lt.mpr known)]
  clear legs
  induction before with
  | nil => exact follows_walkSegment leg after known
  | cons first others inductionHypothesis =>
      have later := inductionHypothesis fun other member => new other (List.mem_cons_of_mem _ member)
      have elsewhere := new first List.mem_cons_self
      have skipped : walkSegment chart earth (chart.vertexOf leg) stopAtMapt ⟨0, false, none, 0, ⟨0, none, none⟩⟩
          (first :: (others ++ leg :: after)) = walkSegment chart earth (chart.vertexOf leg) stopAtMapt
            ⟨0, false, none, 0, ⟨0, none, none⟩⟩ (others ++ leg :: after) := by
        rw [walkSegment]
        by_cases missing : chart.vertexOf first < 0
        · exact if_pos missing
        · exact (if_neg missing).trans ((if_pos rfl).trans (if_neg elsewhere))
      rw [List.cons_append, skipped]
      exact later

/-- The walk that starts at the first fix. -/
theorem walkApproachSegment_whole (chart : LegChart R) (earth : Geodesy R) (stopAtMapt : Bool) (p : Procedure) (whole : startVertex < 0) :
    exists out, walkApproachSegment chart earth p startVertex stopAtMapt = (true, out) ∧
      Follows chart earth none (counted stopAtMapt (chart.stops 0 p.legs)) out := by
  rw [walkApproachSegment, decide_eq_true whole]
  suffices forall pending : R, exists out, walkSegment chart earth startVertex stopAtMapt
      ⟨0, true, none, pending, ⟨0, none, none⟩⟩ p.legs = (true, out) ∧
    Follows chart earth none (counted stopAtMapt (chart.stops pending p.legs)) out from this 0
  intro pending
  induction p.legs generalizing pending with
  | nil => exact ⟨_, rfl, rfl, rfl, rfl⟩
  | cons leg rest inductionHypothesis =>
      rw [stops]
      by_cases missing : chart.vertexOf leg < 0
      · have passed : (⟨0, true, none, pending, ⟨0, none, none⟩⟩ : SegmentState R).passOver chart leg =
            ⟨0, true, none, chart.accrue pending leg, ⟨0, none, none⟩⟩ := by
          rw [SegmentState.passOver, accrue, Bool.true_and]
          by_cases long : 0 < chart.distanceNm leg
          · rw [if_pos (decide_eq_true long), if_pos long]
          · rw [if_neg (Bool.eq_false_iff.mp (decide_eq_false long)), if_neg long]
        rw [walkSegment, if_pos missing, if_pos missing, passed]
        exact inductionHypothesis _
      · have first : walkSegment chart earth startVertex stopAtMapt ⟨0, true, none, pending, ⟨0, none, none⟩⟩
            (leg :: rest) = if (leg.isMapt && stopAtMapt) = true then (true, ⟨0, some (chart.placeOf leg), none⟩)
              else walkSegment chart earth startVertex stopAtMapt
                ⟨0, true, some (chart.placeOf leg), 0, ⟨0, some (chart.placeOf leg), none⟩⟩ rest := by
          rw [walkSegment, if_neg missing]
          exact if_neg Bool.false_ne_true
        rw [if_neg missing, first, counted, takeThrough]
        by_cases last : (leg.isMapt && stopAtMapt) = true
        · rw [if_pos last, if_pos last]
          exact ⟨_, rfl, rfl, rfl, rfl⟩
        · rw [if_neg last, if_neg last, walkSegment_measuring rest rfl rfl rfl, ← counted]
          refine ⟨_, rfl, zero_add _, ?_, ?_⟩
          · rw [endOf, List.getLast?_cons]
            change Option.or (Option.or (Option.map _ (counted stopAtMapt (chart.stops 0 rest)).getLast?) _) _ = _
            rcases (counted stopAtMapt (chart.stops 0 rest)).getLast? with _ | final <;> rfl
          · rw [secondOf, List.getElem?_cons_succ, ← List.head?_eq_getElem?]
            rfl

end Segment

end ProcedureConnector
end BravoFinder
