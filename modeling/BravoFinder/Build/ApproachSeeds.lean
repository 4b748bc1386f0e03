import BravoFinder.Build.SpliceSeeds

namespace BravoFinder
namespace ProcedureConnector

/-!
# Where the price of an approach ends

An approach gate is priced up to the missed approach point of the record that
is flown to the runway.  The walk looks for the mark only at legs that end at a
vertex, so a missed approach point whose fix is no vertex is flown past.
-/

open Stop LegChart

section Extend

variable {R : Type} [Field R] [LinearOrder R] {chart : LegChart R}

/-- What some stops cost on the way to the airport, from a place where the way
to them ended. -/
def trackCost (chart : LegChart R) (earth : Geodesy R) (before airportCoord : Coordinate R)
    (stops : List (Stop ProcedureLeg R)) : R :=
  polyline (chart.between earth) stops + earth.distanceTo ((endOf chart stops).getD before) airportCoord

/-- Every distance one mile. -/
def unitGeodesy [IsStrictOrderedRing R] : Geodesy R where
  distanceTo _ _ := 1
  bearingTo _ _ := 0
  chordNm _ _ := 0
  distanceTo_nonneg _ _ := zero_le_one
  bearingTo_nonneg _ _ := le_refl _

/-- Distances one mile from one place, and none from any other. -/
def singleGeodesy [IsStrictOrderedRing R] (place : Coordinate R) : Geodesy R where
  distanceTo origin _ := if origin = place then 1 else 0
  bearingTo _ _ := 0
  chordNm _ _ := 0
  distanceTo_nonneg _ _ := by
    split_ifs
    · exact zero_le_one
    · exact le_refl _
  bearingTo_nonneg _ _ := le_refl _

/-- More stops always cost the same only where one stop, the first of all, lies
where the way to it ended. -/
theorem trackCost_append_iff [IsStrictOrderedRing R] (before airportCoord : Coordinate R)
    (front rest : List (Stop ProcedureLeg R)) (first : Stop ProcedureLeg R) :
    (forall earth : Geodesy R, trackCost chart earth before airportCoord (front ++ first :: rest) =
      trackCost chart earth before airportCoord front) ↔
      front = [] ∧ rest = [] ∧ chart.placeOf first.place = before := by
  constructor
  · intro same
    have unit := same unitGeodesy
    have positive : forall origin target : ProcedureLeg,
        0 < chart.between (unitGeodesy (R := R)) origin target := fun _ _ => zero_lt_one
    have cut := polyline_append (chart.between (unitGeodesy (R := R))) front rest first
    rw [trackCost, trackCost] at unit
    change _ + (1 : R) = _ + (1 : R) at unit
    rw [add_left_inj] at unit
    rcases front with _ | ⟨start, others⟩
    · change flown _ first.place rest = 0 at unit
      rcases rest with _ | ⟨second, more⟩
      · have single := same (singleGeodesy (chart.placeOf first.place))
        rw [trackCost, trackCost] at single
        change (0 : R) + (if chart.placeOf first.place = chart.placeOf first.place then (1 : R) else 0) =
          0 + if before = chart.placeOf first.place then (1 : R) else 0 at single
        rw [if_pos rfl] at single
        refine ⟨rfl, rfl, ?_⟩
        by_contra other
        rw [if_neg (Ne.symm other), add_right_inj] at single
        exact one_ne_zero single
      · exact absurd unit (flown_pos positive first.place (List.cons_ne_nil second more)).ne'
    · rw [List.cons_append, polyline, polyline, flown_append, add_eq_left] at unit
      exact absurd unit (flown_pos positive _ (List.cons_ne_nil first rest)).ne'
  · rintro ⟨rfl, rfl, here⟩ earth
    rw [trackCost, trackCost, ← here]
    rfl

end Extend

/-! ## The price of a gate -/

section Price

variable {R : Type} [Field R] [LinearOrder R] {chart : LegChart R} {earth : Geodesy R} {airportCoord : Coordinate R}
  {proc : Procedure} {before after : List ProcedureLeg} {start : ProcedureLeg}

omit [Field R] [LinearOrder R] in
theorem getD_endCoord {stops : List (Stop ProcedureLeg R)} {out : ApproachWalk R} {place : Coordinate R}
    (ends : out.endCoord.or (some place) = endOf chart stops) : out.endCoord.getD place = (endOf chart stops).getD place := by
  rw [← ends]
  rcases out.endCoord with _ | finish <;> rfl

/-- The gate of a record that is itself flown to the runway. -/
theorem approachBody_own (proc : Procedure) (cifp : CifpData) (own : proc.transitionIdent = [])
    (split : proc.legs = before ++ start :: after) (known : 0 ≤ chart.vertexOf start)
    (new : forall other, other ∈ before -> chart.vertexOf other ≠ chart.vertexOf start) :
    approachBodyAndStubNm chart earth proc (chart.vertexOf start) cifp airportCoord =
      (trackCost chart earth (chart.placeOf start) airportCoord (counted true (⟨start, 0⟩ :: chart.stops 0 after)),
        earth.bearingTo (chart.placeOf start)
          ((secondOf chart (counted true (⟨start, 0⟩ :: chart.stops 0 after))).getD airportCoord)) := by
  rcases walkApproachSegment_from earth true split known new with ⟨out, walked, follows⟩
  have last := getD_endCoord follows.endCoord
  have isFinal : proc.transitionIdent.isEmpty = true := List.isEmpty_iff.mpr own
  unfold approachBodyAndStubNm
  rw [isFinal]
  dsimp only
  rw [walked, trackCost, ← follows.nm, ← last, ← follows.nextCoord]
  rfl

/-- The gate of a record that leads to another. -/
theorem approachBody_joined {cifp : CifpData} {finalProc : Procedure} (joins : proc.transitionIdent ≠ [])
    (found : findApproachFinal cifp proc.name = some finalProc)
    (split : proc.legs = before ++ start :: after) (known : 0 ≤ chart.vertexOf start)
    (new : forall other, other ∈ before -> chart.vertexOf other ≠ chart.vertexOf start) :
    approachBodyAndStubNm chart earth proc (chart.vertexOf start) cifp airportCoord =
      (polyline (chart.between earth) (⟨start, 0⟩ :: chart.stops 0 after) +
        trackCost chart earth (chart.placeOf (lastPlace start (chart.stops 0 after))) airportCoord
          (counted true (chart.stops 0 finalProc.legs)),
        earth.bearingTo (chart.placeOf start)
          ((secondOf chart (⟨start, 0⟩ :: chart.stops 0 after)).getD airportCoord)) := by
  rcases walkApproachSegment_from earth false split known new with ⟨out, walked, follows⟩
  rcases walkApproachSegment_whole chart earth true finalProc
    (show kNoVertex < 0 by decide) with ⟨outFinal, walkedFinal, followsFinal⟩
  have last := getD_endCoord follows.endCoord
  have nm := follows.nm
  have next := follows.nextCoord
  have lastFinal := followsFinal.endCoord
  rw [counted_false] at last nm next
  rw [endOf_cons, Option.getD_some] at last
  rw [Option.or_none] at lastFinal
  have isFinal : proc.transitionIdent.isEmpty = false := List.isEmpty_eq_false_iff.mpr joins
  unfold approachBodyAndStubNm
  rw [isFinal]
  dsimp only
  rw [walked, found, trackCost, ← followsFinal.nm, ← nm, ← next, ← lastFinal, ← last, ← add_assoc]
  dsimp only
  rw [walkedFinal, if_pos rfl, if_neg Bool.false_ne_true]
  dsimp only
  rcases finish : outFinal.endCoord with _ | finalEnd
  · -- Nothing was measured on the record that is joined.
    rw [finish, eq_comm, endOf, Option.map_eq_none_iff, List.getLast?_eq_none_iff] at lastFinal
    rw [followsFinal.nm, lastFinal, polyline, add_zero]
    rfl
  · rfl

end Price

/-! ## Cutting a record short -/

/-- The record flown to the runway from a gate: its own, when that has no
transition, or else the record of the approach without one. -/
def flownRecord (cifp : CifpData) (record : Nat) : Option Nat :=
  match cifp.procedures[record]? with
  | none => none
  | some p => if p.transitionIdent.isEmpty then some record else cifp.procedures.findIdx? (isApproachFinal p.name)

/-- A record without the legs after one of them. -/
def cutAfter (last : Nat) (p : Procedure) : Procedure :=
  { p with legs := p.legs.take (last + 1) }

/-- An airport's data with one record cut short. -/
def deleteAfter (cifp : CifpData) (record last : Nat) : CifpData :=
  { cifp with procedures := cifp.procedures.modify record (cutAfter last) }

/-- The seed of a gate and its heading. -/
def gatePrice {R : Type} [Field R] [LinearOrder R] (chart : LegChart R) (earth : Geodesy R)
    (airportCoord : Coordinate R) (cifp : CifpData) (record : Nat) (gateV : Int) : Option (R × R) :=
  cifp.procedures[record]?.map fun p => approachBodyAndStubNm chart earth p gateV cifp airportCoord

theorem getElem?_deleteAfter_of_ne (cifp : CifpData) {record other : Nat} (apart : other ≠ record) (last : Nat) :
    (deleteAfter cifp record last).procedures[other]? = cifp.procedures[other]? :=
  List.getElem?_modify_ne _ _ (Ne.symm apart)

theorem getElem?_deleteAfter (cifp : CifpData) {record last : Nat} {p : Procedure}
    (here : cifp.procedures[record]? = some p) :
    (deleteAfter cifp record last).procedures[record]? = some (cutAfter last p) := by
  rw [deleteAfter, List.getElem?_modify_eq, here]
  rfl

/-- Finding a record, after one has been modified that is found all the same. -/
theorem find?_modify {A : Type} {kind : A -> Bool} (change : A -> A) (keeps : forall a, kind (change a) = kind a)
    {list : List A} {index : Nat} (found : list.findIdx? kind = some index) {a : A} (here : list[index]? = some a) :
    list.find? kind = some a ∧ (list.modify index change).find? kind = some (change a) := by
  induction list generalizing index with
  | nil => cases found
  | cons first rest inductionHypothesis =>
      rw [List.findIdx?_cons] at found
      by_cases matched : kind first = true
      · rw [if_pos matched] at found
        cases found
        cases here
        exact ⟨List.find?_cons_of_pos matched, List.find?_cons_of_pos ((keeps _).trans matched)⟩
      · rw [if_neg matched, Option.map_eq_some_iff] at found
        rcases found with ⟨index, found, rfl⟩
        rcases inductionHypothesis found here with ⟨before, after⟩
        exact ⟨(List.find?_cons_of_neg matched).trans before, (List.find?_cons_of_neg matched).trans after⟩

/-- A list split at its first element of a kind. -/
theorem split_findIdx {A : Type} (kind : A -> Bool) {list : List A} {a : A} (member : a ∈ list)
    (belongs : kind a = true) : exists before first after, list = before ++ first :: after ∧ kind first = true ∧
      (forall other, other ∈ before -> kind other = false) ∧ before.length = list.findIdx kind := by
  induction list with
  | nil => cases member
  | cons first rest inductionHypothesis =>
      by_cases matched : kind first = true
      · refine ⟨[], first, rest, rfl, matched, List.forall_mem_nil _, ?_⟩
        rw [List.findIdx_cons, matched]
        rfl
      · rcases List.mem_cons.mp member with rfl | later
        · exact absurd belongs matched
        · rw [Bool.not_eq_true] at matched
          rcases inductionHypothesis later with ⟨before, hit, after, split, found, others, length⟩
          refine ⟨first :: before, hit, after, by rw [split, List.cons_append], found, fun other listed => ?_, ?_⟩
          · rcases List.mem_cons.mp listed with rfl | inside
            · exact matched
            · exact others other inside
          · rw [List.findIdx_cons, matched, cond_false, List.length_cons, length]

section Marked

variable {R : Type} [Field R] [LinearOrder R]

/-- A gate of an approach, and a missed approach point marked on the record
flown to the runway, at or after the start of the walk along it. -/
structure MarkedGate (chart : LegChart R) (cifp : CifpData) where
  record : Nat
  proc : Procedure
  proc_eq : cifp.procedures[record]? = some proc
  gate : ProcedureLeg
  gate_mem : gate ∈ proc.legs
  gate_isIf : gate.pathTerm = .kIF
  gate_known : 0 ≤ chart.vertexOf gate
  flown : Nat
  flown_eq : flownRecord cifp record = some flown
  flownProc : Procedure
  flownProc_eq : cifp.procedures[flown]? = some flownProc
  mapt : Nat
  maptLeg : ProcedureLeg
  maptLeg_eq : flownProc.legs[mapt]? = some maptLeg
  maptLeg_isMapt : maptLeg.isMapt = true
  /-- How many legs of the flown record come before the walk starts. -/
  start : Nat
  start_eq : start = if proc.transitionIdent.isEmpty then
    proc.legs.findIdx fun leg => decide (chart.vertexOf leg = chart.vertexOf gate) else 0
  start_le : start ≤ mapt

namespace MarkedGate

variable {chart : LegChart R} {cifp : CifpData} (marked : MarkedGate chart cifp)

/-- The legs of the flown record that end at a vertex, after the marked leg. -/
def missedFixes : List ProcedureLeg :=
  (marked.flownProc.legs.drop (marked.mapt + 1)).filter fun leg => 0 ≤ chart.vertexOf leg

/-- A leg flown up to the marked one is marked and ends at a vertex. -/
def Seen : Prop :=
  exists leg, leg ∈ (marked.flownProc.legs.take (marked.mapt + 1)).drop marked.start ∧ leg.isMapt = true ∧
    0 ≤ chart.vertexOf leg

/-- Nothing of the flown record ends at a vertex up to the marked leg, one fix
counts after it, and that lies where the record of the gate ends. -/
def Rejoins : Prop :=
  marked.proc.transitionIdent ≠ [] ∧
    (forall leg, leg ∈ marked.flownProc.legs.take (marked.mapt + 1) -> chart.vertexOf leg < 0) ∧
    exists only last, takeThrough ProcedureLeg.isMapt marked.missedFixes = [only] ∧
      (marked.proc.legs.filter fun leg => 0 ≤ chart.vertexOf leg).getLast? = some last ∧
      chart.placeOf only = chart.placeOf last

end MarkedGate

/-! ## When the cut changes nothing -/

omit [Field R] [LinearOrder R] in
theorem map_place_counted (stops : List (Stop ProcedureLeg R)) :
    (counted true stops).map Stop.place = takeThrough ProcedureLeg.isMapt (stops.map Stop.place) := by
  rw [← map_takeThrough, counted]
  simp only [Bool.and_true]

omit [Field R] [LinearOrder R] in
theorem counted_append_of_seen {front back : List (Stop ProcedureLeg R)}
    (seen : front.any (fun stop => stop.place.isMapt) = true ∨ back = []) :
    counted true (front ++ back) = counted true front := by
  rcases seen with hit | rfl
  · refine takeThrough_append_of_any ?_ back
    simp only [Bool.and_true]
    exact hit
  · rw [List.append_nil]

/-- The cost of the stops that count, whatever the distances, tells where the
counting stopped. -/
theorem seen_of_trackCost [IsStrictOrderedRing R] {chart : LegChart R} {before : Coordinate R}
    (airportCoord : Coordinate R) {front back : List (Stop ProcedureLeg R)}
    (same : forall earth : Geodesy R, trackCost chart earth before airportCoord (counted true (front ++ back)) =
      trackCost chart earth before airportCoord (counted true front)) :
    (front.any (fun stop => stop.place.isMapt) = true ∨ back = []) ∨
      front = [] ∧ exists only, counted true back = [only] ∧ chart.placeOf only.place = before := by
  by_cases hit : front.any (fun stop => stop.place.isMapt) = true
  · exact Or.inl (Or.inl hit)
  · rw [Bool.not_eq_true] at hit
    have missed : front.any (fun stop => stop.place.isMapt && true) = false := by
      simp only [Bool.and_true]
      exact hit
    rw [counted, counted, takeThrough_append_of_none missed, takeThrough_of_none missed, ← counted] at same
    rcases more : counted true back with _ | ⟨first, rest⟩
    · exact Or.inl (Or.inr (takeThrough_eq_nil_iff.mp more))
    · rw [more] at same
      rcases (trackCost_append_iff before airportCoord front rest first).mp same with ⟨none, rfl, here⟩
      exact Or.inr ⟨none, first, rfl, here⟩

variable [IsStrictOrderedRing R] {chart : LegChart R} {cifp : CifpData} (marked : MarkedGate chart cifp)
  (airportCoord : Coordinate R)

/-- The price of a gate is that of the record cut short, whatever the distances. -/
def EndsAtMapt : Prop :=
  forall earth : Geodesy R,
    gatePrice chart earth airportCoord (deleteAfter cifp marked.flown marked.mapt) marked.record
        (chart.vertexOf marked.gate) =
      gatePrice chart earth airportCoord cifp marked.record (chart.vertexOf marked.gate)

section

omit [Field R] [LinearOrder R] [IsStrictOrderedRing R]

theorem any_isMapt (stops : List (Stop ProcedureLeg R)) :
    stops.any (fun stop => stop.place.isMapt) = (stops.map Stop.place).any ProcedureLeg.isMapt := by
  rw [List.any_map]
  rfl

/-- The record of a gate, split where the walk from the gate starts. -/
theorem start_split : exists before start after, marked.proc.legs = before ++ start :: after ∧
    chart.vertexOf start = chart.vertexOf marked.gate ∧ 0 ≤ chart.vertexOf start ∧
    (forall other, other ∈ before -> chart.vertexOf other ≠ chart.vertexOf start) ∧
    before.length = marked.proc.legs.findIdx fun leg => decide (chart.vertexOf leg = chart.vertexOf marked.gate) := by
  rcases split_findIdx (fun leg => decide (chart.vertexOf leg = chart.vertexOf marked.gate)) marked.gate_mem
    (decide_eq_true rfl) with ⟨before, start, after, split, found, others, length⟩
  have vertex := of_decide_eq_true found
  exact ⟨before, start, after, split, vertex, vertex ▸ marked.gate_known,
    fun other member => vertex ▸ of_decide_eq_false (others other member), length⟩

/-- A record that is flown to the runway from its own gate. -/
theorem flown_own (own : marked.proc.transitionIdent = []) :
    marked.flown = marked.record ∧ marked.flownProc = marked.proc := by
  have isFinal : marked.proc.transitionIdent.isEmpty = true := List.isEmpty_iff.mpr own
  have same : marked.flown = marked.record := by
    have flown := marked.flown_eq
    rw [flownRecord, marked.proc_eq] at flown
    exact (Option.some.inj ((if_pos isFinal).symm.trans flown)).symm
  have flown := marked.flownProc_eq
  rw [same, marked.proc_eq] at flown
  exact ⟨same, (Option.some.inj flown).symm⟩

end

/-- The gate of a record that is itself flown to the runway. -/
theorem endsAtMapt_own (own : marked.proc.transitionIdent = []) :
    EndsAtMapt marked airportCoord ↔ marked.Seen ∨ marked.missedFixes = [] := by
  rcases flown_own marked own with ⟨same, sameProc⟩
  rcases start_split marked with ⟨before, start, after, split, vertex, known, new, length⟩
  have starts : marked.start = before.length := by
    rw [marked.start_eq, if_pos (List.isEmpty_iff.mpr own), length]
  rcases Nat.exists_eq_add_of_le (starts ▸ marked.start_le) with ⟨steps, last⟩
  have cut : (cutAfter marked.mapt marked.proc).legs = before ++ start :: after.take steps := by
    change marked.proc.legs.take (marked.mapt + 1) = _
    rw [split, last, Nat.add_assoc, List.take_length_add_append, List.take_succ_cons]
  have rest : marked.proc.legs.drop (marked.mapt + 1) = after.drop steps := by
    rw [split, last, Nat.add_assoc, List.drop_length_add_append, List.drop_succ_cons]
  have whole : (⟨start, 0⟩ :: chart.stops 0 after : List (Stop ProcedureLeg R)) =
      (⟨start, 0⟩ :: chart.stops 0 (after.take steps)) ++
        chart.stops (chart.pendingAfter 0 (after.take steps)) (after.drop steps) := by
    rw [List.cons_append, ← stops_append, List.take_append_drop]
  have seen : marked.Seen ↔
      (⟨start, 0⟩ :: chart.stops 0 (after.take steps)).any (fun stop => stop.place.isMapt) = true := by
    have walked : (marked.proc.legs.take (marked.mapt + 1)).drop before.length = start :: after.take steps := by
      change (cutAfter marked.mapt marked.proc).legs.drop before.length = _
      rw [cut, List.drop_left]
    rw [MarkedGate.Seen, sameProc, starts, walked, any_isMapt, List.map_cons, map_place_stops, List.any_eq_true]
    constructor
    · rintro ⟨leg, listed, isMapt, ends⟩
      refine ⟨leg, ?_, isMapt⟩
      rcases List.mem_cons.mp listed with rfl | later
      · exact List.mem_cons_self
      · exact List.mem_cons_of_mem _ (List.mem_filter.mpr ⟨later, decide_eq_true ends⟩)
    · rintro ⟨leg, listed, isMapt⟩
      rcases List.mem_cons.mp listed with rfl | later
      · exact ⟨leg, List.mem_cons_self, isMapt, known⟩
      · exact ⟨leg, List.mem_cons_of_mem _ (List.mem_filter.mp later).1, isMapt,
          of_decide_eq_true (List.mem_filter.mp later).2⟩
  have missed : marked.missedFixes = [] ↔
      chart.stops (chart.pendingAfter 0 (after.take steps)) (after.drop steps) = [] := by
    rw [MarkedGate.missedFixes, sameProc, rest, ← map_place_stops chart (chart.pendingAfter 0 (after.take steps)),
      List.map_eq_nil_iff]
  have price : forall earth : Geodesy R, gatePrice chart earth airportCoord cifp marked.record
      (chart.vertexOf marked.gate) = some (approachBodyAndStubNm chart earth marked.proc (chart.vertexOf start) cifp
        airportCoord) := by
    intro earth
    rw [gatePrice, marked.proc_eq, vertex]
    rfl
  have priceCut : forall earth : Geodesy R, gatePrice chart earth airportCoord
      (deleteAfter cifp marked.flown marked.mapt) marked.record (chart.vertexOf marked.gate) =
        some (approachBodyAndStubNm chart earth (cutAfter marked.mapt marked.proc) (chart.vertexOf start)
          (deleteAfter cifp marked.flown marked.mapt) airportCoord) := by
    intro earth
    rw [gatePrice, same, getElem?_deleteAfter cifp marked.proc_eq, vertex]
    rfl
  rw [EndsAtMapt, seen, missed]
  constructor
  · intro equal
    have costs : forall earth : Geodesy R, _ := fun earth => by
      have both := (priceCut earth).symm.trans ((equal earth).trans (price earth))
      rw [Option.some.injEq, approachBody_own _ _ own split known new, approachBody_own (cutAfter _ _) _ own cut
        known new, whole, Prod.mk.injEq] at both
      exact both.1.symm
    rcases seen_of_trackCost _ costs with either | ⟨none, -⟩
    · exact either
    · cases none
  · intro either earth
    rw [priceCut, price, approachBody_own _ _ own split known new, approachBody_own (cutAfter _ _) _ own cut known
      new, whole, counted_append_of_seen either]

omit [Field R] [LinearOrder R] [IsStrictOrderedRing R] in
/-- A record whose gate leads to another record. -/
theorem flown_joined (joins : marked.proc.transitionIdent ≠ []) :
    marked.record ≠ marked.flown ∧
      findApproachFinal cifp marked.proc.name = some marked.flownProc ∧
      findApproachFinal (deleteAfter cifp marked.flown marked.mapt) marked.proc.name =
        some (cutAfter marked.mapt marked.flownProc) := by
  have index : cifp.procedures.findIdx? (isApproachFinal marked.proc.name) = some marked.flown := by
    have flown := marked.flown_eq
    rw [flownRecord, marked.proc_eq] at flown
    exact (if_neg (mt List.isEmpty_iff.mp joins)).symm.trans flown
  rcases find?_modify (cutAfter marked.mapt) (fun _ => rfl) index marked.flownProc_eq with ⟨found, foundCut⟩
  refine ⟨fun same => ?_, found, foundCut⟩
  have isFinal := List.find?_some found
  have sameProc := marked.flownProc_eq
  rw [← same, marked.proc_eq, Option.some.injEq] at sameProc
  rw [isApproachFinal, ← sameProc, Bool.and_eq_true, List.isEmpty_iff] at isFinal
  exact joins isFinal.2

/-- The gate of a record that leads to another. -/
theorem endsAtMapt_joined (joins : marked.proc.transitionIdent ≠ []) :
    EndsAtMapt marked airportCoord ↔ marked.Seen ∨ marked.missedFixes = [] ∨ marked.Rejoins := by
  rcases flown_joined marked joins with ⟨apart, found, foundCut⟩
  rcases start_split marked with ⟨before, start, after, split, vertex, known, new, -⟩
  have starts : marked.start = 0 := by
    rw [marked.start_eq, if_neg (mt List.isEmpty_iff.mp joins)]
  -- The record that is joined, cut at the marked leg.
  have whole := stops_append chart 0 (marked.flownProc.legs.take (marked.mapt + 1))
    (marked.flownProc.legs.drop (marked.mapt + 1))
  rw [List.take_append_drop] at whole
  have front := map_place_stops chart 0 (marked.flownProc.legs.take (marked.mapt + 1))
  have back := map_place_stops chart
    (chart.pendingAfter 0 (marked.flownProc.legs.take (marked.mapt + 1))) (marked.flownProc.legs.drop (marked.mapt + 1))
  change _ = marked.missedFixes at back
  have seen : marked.Seen ↔ (chart.stops 0 (marked.flownProc.legs.take (marked.mapt + 1))).any
      (fun stop => stop.place.isMapt) = true := by
    rw [MarkedGate.Seen, starts, List.drop_zero, any_isMapt, front, List.any_eq_true]
    refine exists_congr fun leg => ?_
    rw [List.mem_filter, decide_eq_true_iff, and_assoc, and_comm (b := 0 ≤ chart.vertexOf leg)]
  have last : (marked.proc.legs.filter fun leg => 0 ≤ chart.vertexOf leg).getLast? =
      some (lastPlace start (chart.stops 0 after)) := by
    rw [← map_place_stops _ 0, stops_split chart split known, List.map_append, List.map_cons, List.getLast?_append,
      List.getLast?_cons, lastPlace, List.getLast?_map]
    rcases (chart.stops 0 after).getLast? with _ | _ <;> rfl
  have price : forall earth : Geodesy R, gatePrice chart earth airportCoord cifp marked.record
      (chart.vertexOf marked.gate) = some (approachBodyAndStubNm chart earth marked.proc (chart.vertexOf start) cifp
        airportCoord) := by
    intro earth
    rw [gatePrice, marked.proc_eq, vertex]
    rfl
  have priceCut : forall earth : Geodesy R, gatePrice chart earth airportCoord
      (deleteAfter cifp marked.flown marked.mapt) marked.record (chart.vertexOf marked.gate) =
        some (approachBodyAndStubNm chart earth marked.proc (chart.vertexOf start)
          (deleteAfter cifp marked.flown marked.mapt) airportCoord) := by
    intro earth
    rw [gatePrice, getElem?_deleteAfter_of_ne cifp apart, marked.proc_eq, vertex]
    rfl
  generalize joined : chart.stops 0 (marked.flownProc.legs.take (marked.mapt + 1)) = flown at whole front seen
  generalize chart.stops (chart.pendingAfter 0 (marked.flownProc.legs.take (marked.mapt + 1)))
    (marked.flownProc.legs.drop (marked.mapt + 1)) = missed at whole back
  have rejoins : marked.Rejoins ↔ flown = [] ∧ exists only, counted true missed = [only] ∧
      chart.placeOf only.place = chart.placeOf (lastPlace start (chart.stops 0 after)) := by
    have none : (forall leg, leg ∈ marked.flownProc.legs.take (marked.mapt + 1) -> chart.vertexOf leg < 0) ↔
        flown = [] := by
      rw [← List.map_eq_nil_iff (f := Stop.place), front, List.filter_eq_nil_iff]
      simp only [decide_eq_true_eq, Int.not_le]
    rw [MarkedGate.Rejoins, none, last, ← back, ← map_place_counted]
    constructor
    · rintro ⟨-, empty, only, place, single, isLast, here⟩
      rcases List.map_eq_singleton_iff.mp single with ⟨stop, counts, rfl⟩
      exact ⟨empty, stop, counts, here.trans (Option.some.inj isLast ▸ rfl)⟩
    · rintro ⟨empty, stop, counts, here⟩
      exact ⟨joins, empty, stop.place, _, by rw [counts]; rfl, rfl, here⟩
  rw [EndsAtMapt, seen, rejoins, ← back, List.map_eq_nil_iff, ← or_assoc]
  constructor
  · intro equal
    refine seen_of_trackCost airportCoord fun earth => ?_
    have both := (priceCut earth).symm.trans ((equal earth).trans (price earth))
    rw [Option.some.injEq, approachBody_joined joins found split known new,
      approachBody_joined joins foundCut split known new, whole, Prod.mk.injEq, add_right_inj] at both
    change trackCost _ _ _ _ (counted true (chart.stops 0 (marked.flownProc.legs.take (marked.mapt + 1)))) = _ ∧ _ at both
    rw [joined] at both
    exact both.1.symm
  · intro either earth
    rw [priceCut, price, approachBody_joined joins found split known new,
      approachBody_joined joins foundCut split known new, whole]
    change some (_ + trackCost _ _ _ _ (counted true (chart.stops 0 (marked.flownProc.legs.take (marked.mapt + 1)))), _) = _
    rw [joined]
    rcases either with stopped | ⟨rfl, only, counts, here⟩
    · rw [counted_append_of_seen stopped]
    · rw [List.nil_append, counts, trackCost, trackCost, endOf_cons, ← here]
      rfl

/-- An approach is priced up to its missed approach point, whatever the
distances, just when that leg, or a marked one before it, ends at a vertex, or
no fix after it does; or when the fix that is flown to instead lies where the
record of the gate ends. -/
theorem endsAtMapt_iff : EndsAtMapt marked airportCoord ↔
    marked.Seen ∨ marked.missedFixes = [] ∨ marked.Rejoins := by
  by_cases own : marked.proc.transitionIdent = []
  · rw [endsAtMapt_own marked airportCoord own]
    refine or_congr Iff.rfl (iff_self_or.mpr ?_)
    exact fun rejoins => absurd own rejoins.1
  · exact endsAtMapt_joined marked airportCoord own

end Marked

/-! ## A runway threshold that is no vertex -/

/-- A threshold, which no waypoint table lists. -/
def threshold : FixedIdent := ⟨[82, 87], [90, 66], by decide, waypointA.arinc424IcaoCode_length⟩

def maptLeg (fix : FixedIdent) : ProcedureLeg :=
  { plainLeg .kTF fix with isMapt := true }

/-- An approach from `B` whose missed approach climbs to `C`. -/
def thresholdApproach : CifpData :=
  ⟨[⟨.kApproach, [73], [], [], 0, [plainLeg .kIF waypointB, maptLeg threshold, plainLeg .kTF waypointC]⟩], []⟩

/-- An approach from `B` whose missed approach point is `C`. -/
def waypointApproach : CifpData :=
  ⟨[⟨.kApproach, [73], [], [], 0, [plainLeg .kIF waypointB, maptLeg waypointC, plainLeg .kTF waypointB]⟩], []⟩

def thresholdGate : MarkedGate meridianAround.chart thresholdApproach where
  record := 0
  proc := _
  proc_eq := rfl
  gate := plainLeg .kIF waypointB
  gate_mem := List.mem_cons_self
  gate_isIf := rfl
  gate_known := by decide +kernel
  flown := 0
  flown_eq := rfl
  flownProc := _
  flownProc_eq := rfl
  mapt := 1
  maptLeg := maptLeg threshold
  maptLeg_eq := rfl
  maptLeg_isMapt := rfl
  start := 0
  start_eq := by decide +kernel
  start_le := Nat.zero_le _

def waypointGate : MarkedGate meridianAround.chart waypointApproach where
  record := 0
  proc := _
  proc_eq := rfl
  gate := plainLeg .kIF waypointB
  gate_mem := List.mem_cons_self
  gate_isIf := rfl
  gate_known := by decide +kernel
  flown := 0
  flown_eq := rfl
  flownProc := _
  flownProc_eq := rfl
  mapt := 1
  maptLeg := maptLeg waypointC
  maptLeg_eq := rfl
  maptLeg_isMapt := rfl
  start := 0
  start_eq := by decide +kernel
  start_le := Nat.zero_le _

/-- The airport is at the gate, and the price goes to `C` and back. -/
theorem not_endsAtMapt_threshold : ¬ EndsAtMapt thresholdGate ⟨40, 116⟩ := by
  have missed : (gatePrice meridianAround.chart meridianGeodesy ⟨40, 116⟩ thresholdApproach 0
        (meridianAround.chart.vertexOf thresholdGate.gate)).map Prod.fst = some 120 ∧
      (gatePrice meridianAround.chart meridianGeodesy ⟨40, 116⟩ (deleteAfter thresholdApproach 0 1) 0
        (meridianAround.chart.vertexOf thresholdGate.gate)).map Prod.fst = some 0 := by
    decide +kernel
  intro same
  have prices := congrArg (Option.map Prod.fst) (same meridianGeodesy)
  exact absurd (missed.2.symm.trans (prices.trans missed.1)) (by decide)

theorem endsAtMapt_waypoint : EndsAtMapt waypointGate ⟨40, 116⟩ :=
  (endsAtMapt_iff waypointGate ⟨40, 116⟩).mpr
    (Or.inl ⟨maptLeg waypointC, List.mem_cons_of_mem _ List.mem_cons_self, rfl, by decide +kernel⟩)

end ProcedureConnector
end BravoFinder
