import BravoFinder.Build.DegreeGrid
import Mathlib.Data.Rat.Floor

namespace BravoFinder

/-!
# The nearest fixes on the network

An airport without procedures is joined to the nearest fixes that have an
airway in the needed direction.  `NearestOnNetwork` looks at a growing square
of degree cells and stops when the last of the fixes it needs is closer than
anything outside the square can be.

The bound on what lies outside is trigonometry, and a parameter here: infinite
once the square covers the globe.
-/

/-- What bounds a distance from below: `OutsideLowerBoundNm` and `kSlackNm`. -/
structure OutsideBound (R : Type) where
  lowerBoundNm : Coordinate R -> Nat -> WithTop R
  slackNm : R

/-- The radii of the search.  The last one covers the globe. -/
def kSearchRadii : List Nat := [2, 4, 8, 16, 32, 64, 128, 180]

variable {R : Type} [Field R] [LinearOrder R] [FloorRing R]

namespace GraphBuilder

/-- The vertices of the grid: `[0, first_airport_vertex_)`. -/
def waypoints (builder : GraphBuilder R) : List Int :=
  (List.range builder.firstAirportVertex).map Int.ofNat

/-- `RebuildGrid`. -/
def grid (builder : GraphBuilder R) : DegreeGrid :=
  DegreeGrid.ofEntries
    ((builder.waypoints.filter fun v => onGlobe (builder.graph.coordOf v)).map fun v =>
      toLex (keyForCoord (builder.graph.coordOf v), v))

/-- The direction mask of `NearestOnNetwork`. -/
def directionMask (builder : GraphBuilder R) (inbound : Bool) (v : Int) : Bool :=
  if inbound then builder.hasInboundFlags.getD v.toNat false else builder.hasOutboundFlags.getD v.toNat false

/-- One candidate: scored when it has the direction and was not seen. -/
def scoreCandidate (builder : GraphBuilder R) (geodesy : Geodesy R) (coord : Coordinate R) (inbound : Bool)
    (scored : List (R ×ₗ Int)) (cand : Int) : List (R ×ₗ Int) :=
  if builder.directionMask inbound cand && !(scored.any fun pair => (ofLex pair).2 == cand) then
    scored ++ [toLex (geodesy.distanceTo coord (builder.graph.coordOf cand), cand)]
  else scored

def scoreCandidates (builder : GraphBuilder R) (geodesy : Geodesy R) (coord : Coordinate R) (inbound : Bool)
    (candidates : List Int) : List (R ×ₗ Int) :=
  candidates.foldl (builder.scoreCandidate geodesy coord inbound) []

/-- `scored[count - 1].first < OutsideLowerBoundNm(coord, radius) - kSlackNm`,
after `nth_element` has put the element of a sorted vector there. -/
def settled (bound : OutsideBound R) (coord : Coordinate R) (radius count : Nat) (scored : List (R ×ₗ Int)) : Bool :=
  match (scored.insertionSort (· ≤ ·))[count - 1]? with
  | none => false
  | some last =>
      match bound.lowerBoundNm coord radius with
      | none => true
      | some outside => decide ((ofLex last).1 < outside - bound.slackNm)

/-- The loop over the radii. -/
def expandSearch (builder : GraphBuilder R) (geodesy : Geodesy R) (bound : OutsideBound R) (coord : Coordinate R)
    (count : Nat) (inbound : Bool) : List Nat -> List (R ×ₗ Int) -> List (R ×ₗ Int)
  | [], scored => scored
  | radius :: radii, _ =>
      let scored := builder.scoreCandidates geodesy coord inbound (builder.grid.near coord radius)
      if count ≤ scored.length ∧ settled bound coord radius count scored = true then scored
      else expandSearch builder geodesy bound coord count inbound radii scored

/-- `NearestOnNetwork`. -/
def nearestOnNetwork (builder : GraphBuilder R) (geodesy : Geodesy R) (bound : OutsideBound R)
    (coord : Coordinate R) (count : Int) (inbound : Bool) : List Int :=
  if count ≤ 0 ∨ onGlobe coord = false then []
  else
    let scored := builder.expandSearch geodesy bound coord count.toNat inbound kSearchRadii []
    ((scored.insertionSort (· ≤ ·)).take (min count.toNat scored.length)).map fun pair => (ofLex pair).2

/-- A plain scan: all waypoints of the direction, nearest first. -/
def scanNearest (builder : GraphBuilder R) (geodesy : Geodesy R) (coord : Coordinate R) (count : Int)
    (inbound : Bool) : List Int :=
  ((((builder.waypoints.filter fun v =>
    onGlobe (builder.graph.coordOf v) && builder.directionMask inbound v).map fun v =>
      toLex (geodesy.distanceTo coord (builder.graph.coordOf v), v)).insertionSort (· ≤ ·)).take count.toNat).map
        fun pair => (ofLex pair).2

/-- The candidates of a plain scan, in vertex order. -/
def scanned (builder : GraphBuilder R) (geodesy : Geodesy R) (coord : Coordinate R) (inbound : Bool) :
    List (R ×ₗ Int) :=
  (builder.waypoints.filter fun v =>
    onGlobe (builder.graph.coordOf v) && builder.directionMask inbound v).map fun v =>
      toLex (geodesy.distanceTo coord (builder.graph.coordOf v), v)

/-- At this position, the bound is no greater than the distance to a waypoint
in a cell that was not visited. -/
def BoundedOutside (builder : GraphBuilder R) (geodesy : Geodesy R) (bound : OutsideBound R)
    (coord : Coordinate R) : Prop :=
  forall radius, radius ∈ kSearchRadii -> forall v, v ∈ builder.waypoints ->
    onGlobe (builder.graph.coordOf v) = true -> keyForCoord (builder.graph.coordOf v) ∉ nearKeys coord radius ->
      exists outside : R, bound.lowerBoundNm coord radius = some outside ∧
        outside - bound.slackNm ≤ geodesy.distanceTo coord (builder.graph.coordOf v)

/-! ## What a radius finds -/

section Found

variable {builder : GraphBuilder R} {geodesy : Geodesy R} {coord : Coordinate R} {inbound : Bool}

/-- Each candidate of the direction has been scored once. -/
structure Scored (builder : GraphBuilder R) (geodesy : Geodesy R) (coord : Coordinate R) (inbound : Bool)
    (candidates : List Int) (scored : List (R ×ₗ Int)) : Prop where
  nodup : scored.Nodup
  mem : forall pair, pair ∈ scored ↔ exists v, v ∈ candidates ∧ builder.directionMask inbound v = true ∧
    pair = toLex (geodesy.distanceTo coord (builder.graph.coordOf v), v)

omit [FloorRing R] in
theorem Scored.step {candidates : List Int} {scored : List (R ×ₗ Int)}
    (spec : Scored builder geodesy coord inbound candidates scored) (cand : Int) :
    Scored builder geodesy coord inbound (candidates ++ [cand])
      (builder.scoreCandidate geodesy coord inbound scored cand) := by
  rw [scoreCandidate]
  split
  · rename_i fresh
    rw [Bool.and_eq_true, Bool.not_eq_true', List.any_eq_false] at fresh
    refine ⟨?_, fun pair => ?_⟩
    · rw [List.nodup_append]
      refine ⟨spec.nodup, List.nodup_singleton _, fun pair member other isNew same => ?_⟩
      rw [List.mem_singleton.mp isNew] at same
      refine fresh.2 pair member ?_
      rw [same, beq_iff_eq]
      rfl
    · simp only [List.mem_append, List.mem_singleton, spec.mem, or_and_right, exists_or, exists_eq_left,
        fresh.1, true_and]
  · rename_i skipped
    rw [Bool.and_eq_true, Bool.not_eq_true', not_and, Bool.not_eq_false, List.any_eq_true] at skipped
    refine ⟨spec.nodup, fun pair => (spec.mem pair).trans ?_⟩
    constructor
    · rintro ⟨v, listed, direction, scored⟩
      exact ⟨v, List.mem_append_left _ listed, direction, scored⟩
    · rintro ⟨v, listed, direction, scored⟩
      rcases List.mem_append.mp listed with before | here
      · exact ⟨v, before, direction, scored⟩
      · -- A direct hit that was skipped had been scored before.
        rw [List.mem_singleton.mp here] at direction scored
        rcases skipped direction with ⟨other, member, same⟩
        rcases (spec.mem other).mp member with ⟨w, known, _, rfl⟩
        have isCand : w = cand := beq_iff_eq.mp same
        exact ⟨cand, isCand ▸ known, direction, scored⟩

omit [FloorRing R] in
/-- Candidates are scored once each, if they have the direction. -/
theorem scored_scoreCandidates (candidates : List Int) :
    Scored builder geodesy coord inbound candidates
      (builder.scoreCandidates geodesy coord inbound candidates) := by
  have run : forall (rest before : List Int) (scored : List (R ×ₗ Int)),
      Scored builder geodesy coord inbound before scored ->
        Scored builder geodesy coord inbound (before ++ rest)
          (rest.foldl (builder.scoreCandidate geodesy coord inbound) scored) := by
    intro rest
    induction rest with
    | nil =>
        intro before scored spec
        rw [List.append_nil]
        exact spec
    | cons cand rest inductionHypothesis =>
        intro before scored spec
        rw [List.append_cons]
        exact inductionHypothesis _ _ (spec.step cand)
  refine run candidates [] [] ⟨List.nodup_nil, fun pair => ?_⟩
  simp only [List.not_mem_nil, false_and, exists_false]

theorem mem_grid_near {radius : Nat} {v : Int} :
    v ∈ builder.grid.near coord radius ↔ v ∈ builder.waypoints ∧ onGlobe (builder.graph.coordOf v) = true ∧
      keyForCoord (builder.graph.coordOf v) ∈ nearKeys coord radius := by
  simp only [grid, DegreeGrid.mem_near, List.mem_map, List.mem_filter, toLex_inj, Prod.mk.injEq]
  constructor
  · rintro ⟨key, visited, other, ⟨listed, real⟩, rfl, rfl⟩
    exact ⟨listed, real, visited⟩
  · rintro ⟨listed, real, visited⟩
    exact ⟨_, visited, v, ⟨listed, real⟩, rfl, rfl⟩

omit [FloorRing R] in
theorem mem_scanned {pair : R ×ₗ Int} :
    pair ∈ builder.scanned geodesy coord inbound ↔ exists v, (v ∈ builder.waypoints ∧
      onGlobe (builder.graph.coordOf v) = true) ∧ builder.directionMask inbound v = true ∧
        pair = toLex (geodesy.distanceTo coord (builder.graph.coordOf v), v) := by
  simp only [scanned, List.mem_map, List.mem_filter, Bool.and_eq_true, and_assoc, eq_comm (a := pair)]

omit [FloorRing R] in
theorem nodup_scanned : (builder.scanned geodesy coord inbound).Nodup := by
  refine List.Nodup.map (fun first second same => ?_) (List.Nodup.filter _ ?_)
  · rw [toLex_inj, Prod.mk.injEq] at same
    exact same.2
  · exact List.Nodup.map (fun _ _ same => Int.ofNat.inj same) List.nodup_range

/-- Every scanned waypoint was found, or lies in a cell that was not visited. -/
theorem scanned_perm (radius : Nat) :
    (builder.scanned geodesy coord inbound).Perm
      (builder.scoreCandidates geodesy coord inbound (builder.grid.near coord radius) ++
        (builder.scanned geodesy coord inbound).filter fun pair =>
          decide (keyForCoord (builder.graph.coordOf (ofLex pair).2) ∉ nearKeys coord radius)) := by
  have spec : Scored builder geodesy coord inbound (builder.grid.near coord radius) _ :=
    scored_scoreCandidates _
  have found : forall pair,
      pair ∈ builder.scoreCandidates geodesy coord inbound (builder.grid.near coord radius) ↔
        pair ∈ builder.scanned geodesy coord inbound ∧
          keyForCoord (builder.graph.coordOf (ofLex pair).2) ∈ nearKeys coord radius := by
    intro pair
    rw [spec.mem, mem_scanned]
    constructor
    · rintro ⟨v, near, direction, rfl⟩
      rcases mem_grid_near.mp near with ⟨listed, real, visited⟩
      exact ⟨⟨v, ⟨listed, real⟩, direction, rfl⟩, visited⟩
    · rintro ⟨⟨v, ⟨listed, real⟩, direction, rfl⟩, visited⟩
      exact ⟨v, mem_grid_near.mpr ⟨listed, real, visited⟩, direction, rfl⟩
  refine (List.perm_ext_iff_of_nodup nodup_scanned ?_).mpr fun pair => ?_
  · rw [List.nodup_append]
    refine ⟨spec.nodup, nodup_scanned.filter _, fun first near second far same => ?_⟩
    have outside := of_decide_eq_true (List.mem_filter.mp far).2
    exact outside (same ▸ ((found first).mp near).2)
  · rw [List.mem_append, found, List.mem_filter, decide_eq_true_eq, ← and_or_left]
    exact (and_iff_left (Classical.em _)).symm

end Found

/-! ## The loop over the radii -/

theorem floor_bounds [IsStrictOrderedRing R] {x : R} {bound : Int} (within : |x| ≤ bound) :
    -bound ≤ ⌊x⌋ ∧ ⌊x⌋ ≤ bound := by
  rw [abs_le] at within
  constructor
  · rw [Int.le_floor, Int.cast_neg]
    exact within.1
  · exact Int.floor_le_iff.mpr (within.2.trans_lt (lt_add_one _))

/-- At radius 180 the cells cover the globe, on both sides of the antimeridian. -/
theorem keyForCoord_mem_nearKeys [IsStrictOrderedRing R] {c p : Coordinate R} (here : onGlobe c = true)
    (there : onGlobe p = true) : keyForCoord p ∈ nearKeys c 180 := by
  rw [onGlobe, decide_eq_true_eq] at here there
  have lat0 : -90 ≤ ⌊c.latitude⌋ ∧ ⌊c.latitude⌋ ≤ 90 := floor_bounds (by exact_mod_cast here.1)
  have lon0 : -180 ≤ ⌊c.longitude⌋ ∧ ⌊c.longitude⌋ ≤ 180 := floor_bounds (by exact_mod_cast here.2)
  have lat : -90 ≤ ⌊p.latitude⌋ ∧ ⌊p.latitude⌋ ≤ 90 := floor_bounds (by exact_mod_cast there.1)
  have lon : -180 ≤ ⌊p.longitude⌋ ∧ ⌊p.longitude⌋ ≤ 180 := floor_bounds (by exact_mod_cast there.2)
  simp only [nearKeys, List.mem_flatMap, List.mem_map, mem_degreeOffsets, keyForCoord]
  generalize ⌊c.latitude⌋ = lat0' at *
  generalize ⌊c.longitude⌋ = lon0' at *
  generalize ⌊p.latitude⌋ = lat' at *
  generalize ⌊p.longitude⌋ = lon' at *
  refine ⟨lat' - lat0', by omega, ?_⟩
  -- The offset that leads to the column of `p`, going round either way.
  have wraps : exists dlon : Int, (-180 ≤ dlon ∧ dlon ≤ 180) ∧
      wrapLongitude (lon0' + dlon) = if lon' = 180 then -180 else lon' := by
    split_ifs with seam
    · by_cases west : lon0' = 180
      · exact ⟨0, by omega, wrapLongitude_eq (by omega) (by omega)⟩
      · by_cases east : 0 ≤ lon0'
        · exact ⟨180 - lon0', by omega, wrapLongitude_eq (by omega) (by omega)⟩
        · exact ⟨-180 - lon0', by omega, wrapLongitude_eq (by omega) (by omega)⟩
    · by_cases east : 180 < lon' - lon0'
      · exact ⟨lon' - lon0' - 360, by omega, wrapLongitude_eq (by omega) (by omega)⟩
      · by_cases west : lon' - lon0' < -180
        · exact ⟨lon' - lon0' + 360, by omega, wrapLongitude_eq (by omega) (by omega)⟩
        · exact ⟨lon' - lon0', by omega, wrapLongitude_eq (by omega) (by omega)⟩
  rcases wraps with ⟨dlon, inside, wrapped⟩
  have row : lat0' + (lat' - lat0') = lat' := by omega
  refine ⟨dlon, by exact_mod_cast inside, ?_⟩
  rw [wrapped, row]
  simp only [cellKey]
  split_ifs <;> omega

section Loop

variable {builder : GraphBuilder R} {geodesy : Geodesy R} {bound : OutsideBound R} {coord : Coordinate R}
  {inbound : Bool} {count : Nat}

/-- A radius that settles the search gives the first few of all. -/
theorem take_of_settled (bounded : builder.BoundedOutside geodesy bound coord) {radius : Nat}
    (isRadius : radius ∈ kSearchRadii)
    (stops : settled bound coord radius (count + 1)
      (builder.scoreCandidates geodesy coord inbound (builder.grid.near coord radius)) = true) :
    ((builder.scanned geodesy coord inbound).insertionSort (· ≤ ·)).take (count + 1) =
      ((builder.scoreCandidates geodesy coord inbound (builder.grid.near coord radius)).insertionSort
        (· ≤ ·)).take (count + 1) := by
  rw [settled, Nat.add_sub_cancel] at stops
  split at stops
  · cases stops
  · rename_i last found
    refine take_insertionSort_of_settled (scanned_perm radius) found fun other far => ?_
    rcases List.mem_filter.mp far with ⟨listed, outside⟩
    rcases mem_scanned.mp listed with ⟨v, ⟨isWaypoint, real⟩, _, rfl⟩
    rcases bounded radius isRadius v isWaypoint real (of_decide_eq_true outside) with ⟨lower, isBound, least⟩
    rw [isBound] at stops
    have closer : (ofLex last).1 < geodesy.distanceTo coord (builder.graph.coordOf v) :=
      (of_decide_eq_true stops).trans_le least
    exact (Prod.Lex.lt_iff.mpr (.inl closer)).le

theorem take_expandSearch [IsStrictOrderedRing R] (bounded : builder.BoundedOutside geodesy bound coord)
    (here : onGlobe coord = true) (radii : List Nat) :
    forall scored, (forall radius, radius ∈ radii -> radius ∈ kSearchRadii) -> radii.getLast? = some 180 ->
      ((builder.expandSearch geodesy bound coord (count + 1) inbound radii scored).insertionSort (· ≤ ·)).take
          (count + 1) =
        ((builder.scanned geodesy coord inbound).insertionSort (· ≤ ·)).take (count + 1) := by
  induction radii with
  | nil => exact fun _ _ last => nomatch last
  | cons radius radii inductionHypothesis =>
      intro scored known last
      simp only [expandSearch]
      split
      · rename_i stops
        exact (take_of_settled bounded (known radius List.mem_cons_self) stops.2).symm
      · cases radii with
        | nil =>
            -- The last radius has visited every cell.
            rw [List.getLast?_singleton, Option.some.injEq] at last
            have all : (builder.scanned geodesy coord inbound).Perm _ := scanned_perm radius
            have none : (builder.scanned geodesy coord inbound).filter (fun pair =>
                decide (keyForCoord (builder.graph.coordOf (ofLex pair).2) ∉ nearKeys coord radius)) = [] := by
              rw [List.filter_eq_nil_iff]
              intro pair listed outside
              rcases mem_scanned.mp listed with ⟨v, ⟨_, real⟩, _, rfl⟩
              exact of_decide_eq_true outside (last ▸ keyForCoord_mem_nearKeys here real)
            rw [none, List.append_nil] at all
            rw [expandSearch, insertionSort_congr all]
        | cons next radii =>
            rw [List.getLast?_cons_cons] at last
            exact inductionHypothesis _ (fun later member => known later (List.mem_cons_of_mem _ member)) last

end Loop

/-- The indexed search returns what the plain scan returns. -/
theorem nearestOnNetwork_eq_scanNearest [IsStrictOrderedRing R] (builder : GraphBuilder R)
    (geodesy : Geodesy R) (bound : OutsideBound R) (coord : Coordinate R) (count : Int) (inbound : Bool)
    (here : onGlobe coord = true) (bounded : builder.BoundedOutside geodesy bound coord) :
    builder.nearestOnNetwork geodesy bound coord count inbound =
      builder.scanNearest geodesy coord count inbound := by
  have scan : builder.scanNearest geodesy coord count inbound =
      (((builder.scanned geodesy coord inbound).insertionSort (· ≤ ·)).take count.toNat).map
        fun pair => (ofLex pair).2 := rfl
  rw [nearestOnNetwork, scan]
  split
  · rename_i nothing
    rcases nothing with few | off
    · rw [Int.toNat_of_nonpos few, List.take_zero, List.map_nil]
    · rw [here] at off
      cases off
  · rename_i wanted
    have positive : exists before, count.toNat = before + 1 := ⟨count.toNat - 1, by omega⟩
    rcases positive with ⟨before, amount⟩
    rw [amount]
    simp only
    have first := @take_expandSearch _ _ _ _ builder geodesy bound coord inbound before _ bounded here
      kSearchRadii [] (fun _ member => member) rfl
    rw [← first]
    conv_rhs => rw [List.take_eq_take_min, List.length_insertionSort]

end GraphBuilder

/-! ## Two fixes on a meridian -/

/-- Two waypoints a degree apart, joined both ways. -/
def meridianBuilder : GraphBuilder Rat where
  graph :=
    { coords := [⟨40, 116⟩, ⟨41, 116⟩]
      offsets := [0, 1, 2]
      edges := [⟨1, 60, 0, 0, 600, .kBoth⟩, ⟨0, 60, 0, 0, 600, .kBoth⟩]
      offsets_length := rfl
      offsets_sorted := by decide
      offsets_le := by decide
      edges_to := by decide
      vertexCount_lt := by decide }
  idents := [waypointB, waypointC]
  hasOutboundFlags := [true, true]
  hasInboundFlags := [true, true]
  firstAirportVertex := 2
  airwayNames := [[68, 67, 84]]
  idents_length := rfl
  firstAirportVertex_le := by decide
  hasOutboundFlags_eq := by decide
  hasInboundFlags_eq := by decide
  waypoint_of_edge := by decide
  airwayId_lt := by decide

/-- Distances along a meridian, a degree being 60 NM. -/
def meridianGeodesy : Geodesy Rat where
  distanceTo origin target := |target.latitude - origin.latitude| * 60
  bearingTo origin target := if target.latitude < origin.latitude then 180 else 0
  chordNm origin target := |target.latitude - origin.latitude| * 60
  distanceTo_nonneg := fun _ _ => mul_nonneg (abs_nonneg _) (by decide)
  bearingTo_nonneg := fun _ _ => by split <;> decide

/-- Two degrees of longitude at latitude 40 are more than 90 NM. -/
def meridianBound : OutsideBound Rat :=
  ⟨fun _ radius => if radius = 180 then ⊤ else (90 : Rat), 1 / 1000000⟩

theorem nearestOnNetwork_meridianBuilder :
    meridianBuilder.nearestOnNetwork meridianGeodesy meridianBound ⟨41, 116⟩ 1 true = [1] := by
  have lat : ⌊(41 : Rat)⌋ = 41 := by decide +kernel
  have lon : ⌊(116 : Rat)⌋ = 116 := by decide +kernel
  have wide : forall radius, radius ∈ kSearchRadii -> 1 ≤ radius := by decide
  have near : forall radius, radius ∈ kSearchRadii -> forall dlat : Int, -1 ≤ dlat ∧ dlat ≤ 0 ->
      cellKey (41 + dlat) 116 ∈ nearKeys (⟨41, 116⟩ : Coordinate Rat) radius := by
    intro radius isRadius dlat close
    have reach := wide radius isRadius
    simp only [nearKeys, List.mem_flatMap, List.mem_map, mem_degreeOffsets, lat, lon]
    exact ⟨dlat, by omega, 0, by omega, rfl⟩
  have visited : forall radius, radius ∈ kSearchRadii -> forall v, v ∈ meridianBuilder.waypoints ->
      keyForCoord (meridianBuilder.graph.coordOf v) ∈ nearKeys (⟨41, 116⟩ : Coordinate Rat) radius := by
    intro radius isRadius v listed
    have either : v = 0 ∨ v = 1 := by
      have bound : meridianBuilder.waypoints = [0, 1] := by decide
      rw [bound, List.mem_cons, List.mem_singleton] at listed
      exact listed
    rcases either with rfl | rfl
    · have key : keyForCoord (meridianBuilder.graph.coordOf 0) = cellKey (41 + -1) 116 := by decide +kernel
      exact key ▸ near radius isRadius (-1) (by decide)
    · have key : keyForCoord (meridianBuilder.graph.coordOf 1) = cellKey (41 + 0) 116 := by decide +kernel
      exact key ▸ near radius isRadius 0 (by decide)
  have same := GraphBuilder.nearestOnNetwork_eq_scanNearest meridianBuilder meridianGeodesy meridianBound ⟨41, 116⟩ 1
    true (by decide +kernel) fun radius isRadius v listed _ outside => absurd (visited radius isRadius v listed) outside
  rw [same]
  decide +kernel

end BravoFinder
