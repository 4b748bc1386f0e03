import BravoFinder.Cache.GraphSnapshot
import BravoFinder.Library.GridWalk
import Mathlib.Algebra.Order.Monoid.Unbundled.WithTop
import Mathlib.Data.Rat.Floor

namespace BravoFinder

/-!
# Minimum off-route altitudes along a leg

A leg may not be flown below the minimum altitude of any degree cell it passes
through.  The code walks the cells of the straight latitude-longitude segment,
from one grid line to the next.  A leg of more than a few degrees is first cut
along its great circle; that trigonometry is a parameter.

A cell is named by its south-west corner and owns its south and west sides.
-/

namespace MoraGrid

def kLatCount : Int := 180
def kLonCount : Int := 360

/-- `Index`: -1 off the globe. -/
def index (lat lon : Int) : Int :=
  if lat < -90 ∨ 89 < lat ∨ lon < -180 ∨ 179 < lon then -1 else (lat + 90) * kLonCount + (lon + 180)

/-- `MoraAtCell`.  Longitude wraps, and latitude 90 is the row of 89. -/
def moraAtCell (grid : MoraGrid) (lat lon : Int) : Int :=
  let lat := if lat = 90 then 89 else lat
  let wrapped := ((lon + 180).tmod kLonCount + kLonCount).tmod kLonCount - 180
  if 0 ≤ index lat wrapped then (grid.cells.getD (index lat wrapped).toNat 0).toInt else 0

/-- The two truncating remainders wrap any longitude. -/
theorem wrapped_eq (lon : Int) :
    ((lon + 180).tmod kLonCount + kLonCount).tmod kLonCount - 180 = (lon + 180) % 360 - 180 := by
  have above : -360 < (lon + 180).tmod 360 := Int.lt_tmod_of_pos _ (by decide)
  have remainder := Int.tmod_eq_emod (a := lon + 180) (b := 360)
  rw [kLonCount, Int.tmod_eq_emod_of_nonneg (by omega), remainder]
  split <;> omega

/-- The place of a cell in the array. -/
def slot (lat lon : Int) : Nat :=
  ((lat + 90) * 360 + (lon + 180) % 360).toNat

theorem moraAtCell_of_globe (grid : MoraGrid) {lat lon : Int} (onGlobe : -90 ≤ lat ∧ lat < 90) :
    grid.moraAtCell lat lon = (grid.cells.getD (slot lat lon) 0).toInt := by
  have inside : index lat ((lon + 180) % 360 - 180) = (lat + 90) * 360 + (lon + 180) % 360 := by
    rw [index, if_neg (by omega), kLonCount]
    omega
  have notPole : lat ≠ 90 := by omega
  simp only [moraAtCell, wrapped_eq, if_neg notPole, inside, slot]
  rw [if_pos (by omega)]

theorem moraAtCell_pole (grid : MoraGrid) (lon : Int) : grid.moraAtCell 90 lon = grid.moraAtCell 89 lon := rfl

theorem moraAtCell_of_off (grid : MoraGrid) {lat lon : Int} (off : lat < -90 ∨ 90 < lat) :
    grid.moraAtCell lat lon = 0 := by
  have outside : index lat ((lon + 180) % 360 - 180) = -1 := by
    rw [index, if_pos (by omega)]
  have notPole : lat ≠ 90 := by omega
  simp only [moraAtCell, wrapped_eq, if_neg notPole, outside]
  rfl

/-- The grid with one known cell, of level 1. -/
def single (lat lon : Int) : MoraGrid :=
  ⟨(List.replicate kMoraCells 0).set (slot lat lon) 1, by rw [List.length_set, List.length_replicate]⟩

theorem moraAtCell_single {lat lon : Int} (known : -90 ≤ lat ∧ lat < 90) {row col : Int}
    (onGlobe : -90 ≤ row ∧ row < 90) :
    (single lat lon).moraAtCell row col = if row = lat ∧ (col - lon) % 360 = 0 then 1 else 0 := by
  have inside : slot lat lon < (List.replicate kMoraCells (0 : Int16)).length := by
    rw [List.length_replicate, kMoraCells, slot]
    omega
  rw [moraAtCell_of_globe _ onGlobe, single, List.getD_eq_getElem?_getD, List.getElem?_set]
  have same : slot lat lon = slot row col ↔ row = lat ∧ (col - lon) % 360 = 0 := by
    rw [slot, slot]
    omega
  by_cases here : slot lat lon = slot row col
  · rw [if_pos here, if_pos inside, if_pos (same.mp here)]
    rfl
  · rw [if_neg here, if_neg fun hit => here (same.mpr hit), List.getElem?_replicate]
    split <;> rfl

theorem moraAtCell_single_le (lat lon row col : Int) (known : -90 ≤ lat ∧ lat < 90) :
    0 ≤ (single lat lon).moraAtCell row col ∧ (0 < (single lat lon).moraAtCell row col ->
      (row = lat ∨ row = 90 ∧ lat = 89) ∧ (col - lon) % 360 = 0) := by
  by_cases off : row < -90 ∨ 90 < row
  · rw [moraAtCell_of_off _ off]
    exact ⟨le_rfl, fun positive => absurd positive (Int.lt_irrefl 0)⟩
  · by_cases pole : row = 90
    · rw [pole, moraAtCell_pole, moraAtCell_single known (by decide)]
      split
      · rename_i hit
        exact ⟨by decide, fun _ => ⟨.inr ⟨rfl, hit.1.symm⟩, hit.2⟩⟩
      · exact ⟨le_rfl, fun positive => absurd positive (Int.lt_irrefl 0)⟩
    · rw [moraAtCell_single known (by omega)]
      split
      · rename_i hit
        exact ⟨by decide, fun _ => ⟨.inl hit.1, hit.2⟩⟩
      · exact ⟨le_rfl, fun positive => absurd positive (Int.lt_irrefl 0)⟩

end MoraGrid

/-- The longest piece of a great circle that is walked as a chord, in degrees. -/
def kMoraGreatCirclePieceDeg {R : Type} [NatCast R] : R := Nat.cast 5

section Walk

variable {R : Type} [Field R] [LinearOrder R] [FloorRing R]

/-- The variables of the loop of `WalkCells`. -/
structure CellWalk (R : Type) where
  row : Int
  col : Int
  nextRowT : WithTop R
  nextColT : WithTop R
  best : Int

/-- The next crossing of a line, or none for a segment along the lines. -/
def firstCrossing (cell : Int) (start delta : R) : WithTop R :=
  if delta = 0 then ⊤ else (((if 0 < delta then (cell : R) + 1 else cell) - start) / delta : R)

/-- How far the next crossing of the same kind is. -/
def crossingStep (delta : R) : WithTop R :=
  if delta = 0 then ⊤ else (1 / |delta| : R)

/-- `step_row` and `step_col`. -/
def cellStep (delta : R) : Int :=
  if 0 < delta then 1 else -1

/-- One round of the loop. -/
def CellWalk.step (grid : MoraGrid) (endRow endCol : Int) (dlat dlon : R) (walk : CellWalk R) : CellWalk R :=
  if walk.row ≠ endRow ∧ (walk.col = endCol ∨ walk.nextRowT < walk.nextColT) then
    { walk with
      row := walk.row + cellStep dlat
      nextRowT := walk.nextRowT + crossingStep dlat
      best := max walk.best (grid.moraAtCell (walk.row + cellStep dlat) walk.col) }
  else
    { walk with
      col := walk.col + cellStep dlon
      nextColT := walk.nextColT + crossingStep dlon
      best := max walk.best (grid.moraAtCell walk.row (walk.col + cellStep dlon)) }

/-- `WalkCells`. -/
def walkCells (grid : MoraGrid) (lat0 lon0 lat1 lon1 : R) (best : Int) : Int :=
  let crossings := (⌊lat1⌋ - ⌊lat0⌋).natAbs + (⌊lon1⌋ - ⌊lon0⌋).natAbs
  let start : CellWalk R :=
    { row := ⌊lat0⌋
      col := ⌊lon0⌋
      nextRowT := firstCrossing ⌊lat0⌋ lat0 (lat1 - lat0)
      nextColT := firstCrossing ⌊lon0⌋ lon0 (lon1 - lon0)
      best := max best (grid.moraAtCell ⌊lat0⌋ ⌊lon0⌋) }
  ((CellWalk.step grid ⌊lat1⌋ ⌊lon1⌋ (lat1 - lat0) (lon1 - lon0))^[crossings] start).best

/-- The nearest whole number, the even one of two. -/
def roundHalfEven (x : R) : Int :=
  if x - ⌊x⌋ < 1 / 2 then ⌊x⌋
  else if 1 / 2 < x - ⌊x⌋ then ⌊x⌋ + 1
  else if ⌊x⌋ % 2 = 0 then ⌊x⌋ else ⌊x⌋ + 1

/-- `std::remainder`. -/
def remainder (x modulus : R) : R :=
  x - roundHalfEven (x / modulus) * modulus

/-- The ends of the pieces of a great circle, the last one the target, or none
for an arc too degenerate to be cut. -/
abbrev GreatCircle (R : Type) := Coordinate R -> Coordinate R -> Option (List (Coordinate R))

/-- The loop over the pieces. -/
def walkPieces (grid : MoraGrid) : R -> R -> List (Coordinate R) -> Int -> Int
  | _, _, [], best => best
  | prevLat, prevLon, point :: points, best =>
      let nextLon := prevLon + remainder (point.longitude - prevLon) 360
      walkPieces grid point.latitude nextLon points (walkCells grid prevLat prevLon point.latitude nextLon best)

/-- The longitude difference the shorter way round. -/
def shorterDlon (source target : Coordinate R) : R :=
  remainder (target.longitude - source.longitude) 360

/-- `MaxMoraAlongLeg`. -/
def maxMoraAlongLeg (grid : MoraGrid) (greatCircle : GreatCircle R) (source target : Coordinate R) : Int :=
  let dlon := shorterDlon source target
  if max |target.latitude - source.latitude| |dlon| ≤ kMoraGreatCirclePieceDeg then
    walkCells grid source.latitude source.longitude target.latitude (source.longitude + dlon) 0
  else
    match greatCircle source target with
    | none => walkCells grid source.latitude source.longitude target.latitude (source.longitude + dlon) 0
    | some points => walkPieces grid source.latitude source.longitude points 0

/-! ## The walk as a merge -/

section Merge

variable {grid : MoraGrid} {lat lon : Axis R}

theorem firstCrossing_eq {axis : Axis R} (moves : axis.delta ≠ 0) :
    firstCrossing ⌊axis.start⌋ axis.start axis.delta = (axis.crossing 0 : WithTop R) := by
  rw [firstCrossing, if_neg moves, Axis.crossing, Nat.cast_zero, add_zero, add_zero]
  congr 1
  split
  · rfl
  · rw [← neg_sub, neg_div, div_neg]

variable [IsStrictOrderedRing R]

theorem crossing_add_step {axis : Axis R} (moves : axis.delta ≠ 0) (k : Nat) :
    (axis.crossing k : WithTop R) + crossingStep axis.delta = (axis.crossing (k + 1) : WithTop R) := by
  rw [crossingStep, if_neg moves, ← WithTop.coe_add, Axis.crossing, Axis.crossing, Nat.cast_succ]
  congr 1
  split
  · rename_i up
    rw [abs_of_pos up, ← add_div]
    congr 1
    ring
  · rename_i notUp
    rw [abs_of_nonpos (not_lt.mp notUp), ← add_div]
    congr 1
    ring

/-- What the loop holds as the next crossing once `k` lines are crossed. -/
def nextCrossing (axis : Axis R) (k : Nat) : WithTop R :=
  if axis.delta = 0 then ⊤ else (axis.crossing k : WithTop R)

omit [IsStrictOrderedRing R] in
theorem nextCrossing_zero (axis : Axis R) :
    firstCrossing ⌊axis.start⌋ axis.start axis.delta = nextCrossing axis 0 := by
  by_cases still : axis.delta = 0
  · rw [firstCrossing, nextCrossing, if_pos still, if_pos still]
  · rw [firstCrossing_eq still, nextCrossing, if_neg still]

theorem nextCrossing_succ (axis : Axis R) (k : Nat) :
    nextCrossing axis k + crossingStep axis.delta = nextCrossing axis (k + 1) := by
  by_cases still : axis.delta = 0
  · rw [nextCrossing, nextCrossing, if_pos still, if_pos still, WithTop.top_add]
  · rw [nextCrossing, nextCrossing, if_neg still, if_neg still, crossing_add_step still]

/-- The loop at a place of the merge. -/
def walkAt (lat lon : Axis R) (place : Nat × Nat) (best : Int) : CellWalk R where
  row := ⌊lat.start⌋ + lat.sign * place.1
  col := ⌊lon.start⌋ + lon.sign * place.2
  nextRowT := nextCrossing lat place.1
  nextColT := nextCrossing lon place.2
  best := best

/-- The altitude of the cell at a place of the merge. -/
def moraAtPlace (grid : MoraGrid) (lat lon : Axis R) (place : Nat × Nat) : Int :=
  grid.moraAtCell (⌊lat.start⌋ + lat.sign * place.1) (⌊lon.start⌋ + lon.sign * place.2)

/-- A cell is the last one of its axis when all lines are crossed. -/
theorem cell_eq_end_iff (axis : Axis R) (k : Nat) :
    ⌊axis.start⌋ + axis.sign * k = ⌊axis.start + axis.delta⌋ ↔ k = axis.count := by
  have ends := axis.floor_along (zero_le_one (α := R))
  rw [Axis.index_one, Axis.along_one] at ends
  rw [ends, Axis.sign]
  split <;> omega

omit [IsStrictOrderedRing R] in
theorem nextCrossing_lt_iff {place : Nat × Nat} (rowLe : place.1 ≤ lat.count) (colLe : place.2 ≤ lon.count)
    (rowsLeft : place.1 ≠ lat.count) (colsLeft : place.2 ≠ lon.count) :
    nextCrossing lat place.1 < nextCrossing lon place.2 ↔ lat.crossing place.1 < lon.crossing place.2 := by
  have latMoves : lat.delta ≠ 0 := by
    intro still
    rw [Axis.count_of_delta_eq_zero still] at rowLe rowsLeft
    omega
  have lonMoves : lon.delta ≠ 0 := by
    intro still
    rw [Axis.count_of_delta_eq_zero still] at colLe colsLeft
    omega
  rw [nextCrossing, nextCrossing, if_neg latMoves, if_neg lonMoves, WithTop.coe_lt_coe]

theorem step_walkAt {place : Nat × Nat} (rowLe : place.1 ≤ lat.count) (colLe : place.2 ≤ lon.count) (best : Int) :
    (walkAt lat lon place best).step grid ⌊lat.start + lat.delta⌋ ⌊lon.start + lon.delta⌋ lat.delta lon.delta =
      walkAt lat lon (mergeStep lat.crossing lon.crossing lat.count lon.count place)
        (max best (moraAtPlace grid lat lon (mergeStep lat.crossing lon.crossing lat.count lon.count place))) := by
  have first : ((walkAt lat lon place best).row ≠ ⌊lat.start + lat.delta⌋ ∧
        ((walkAt lat lon place best).col = ⌊lon.start + lon.delta⌋ ∨
          (walkAt lat lon place best).nextRowT < (walkAt lat lon place best).nextColT)) ↔
      (place.1 ≠ lat.count ∧ (place.2 = lon.count ∨ lat.crossing place.1 < lon.crossing place.2)) := by
    simp only [walkAt, ne_eq, cell_eq_end_iff]
    exact and_congr_right fun rowsLeft => or_congr_right' fun colsLeft =>
      nextCrossing_lt_iff rowLe colLe rowsLeft colsLeft
  have row : ⌊lat.start⌋ + lat.sign * (place.1 : Int) + cellStep lat.delta =
      ⌊lat.start⌋ + lat.sign * ((place.1 + 1 : Nat) : Int) := by
    rw [Int.natCast_succ, Int.mul_add, Int.mul_one, Int.add_assoc]
    rfl
  have col : ⌊lon.start⌋ + lon.sign * (place.2 : Int) + cellStep lon.delta =
      ⌊lon.start⌋ + lon.sign * ((place.2 + 1 : Nat) : Int) := by
    rw [Int.natCast_succ, Int.mul_add, Int.mul_one, Int.add_assoc]
    rfl
  rw [CellWalk.step, mergeStep]
  by_cases isRow : place.1 ≠ lat.count ∧ (place.2 = lon.count ∨ lat.crossing place.1 < lon.crossing place.2)
  · rw [if_pos (first.mpr isRow), if_pos isRow]
    simp only [walkAt, moraAtPlace, row, nextCrossing_succ]
  · rw [if_neg fun found => isRow (first.mp found), if_neg isRow]
    simp only [walkAt, moraAtPlace, col, nextCrossing_succ]

/-- The loop collects the greatest altitude of the places it passes. -/
theorem best_iterate (steps : Nat) :
    forall (place : Nat × Nat) (best : Int), MergeCut lat.crossing lon.crossing lat.count lon.count place ->
      place.1 + place.2 + steps = lat.count + lon.count ->
      (((CellWalk.step grid ⌊lat.start + lat.delta⌋ ⌊lon.start + lon.delta⌋ lat.delta lon.delta)^[steps])
          (walkAt lat lon place (max best (moraAtPlace grid lat lon place)))).best =
        (mergePlaces lat.crossing lon.crossing lat.count lon.count steps place).foldl
          (fun best place => max best (moraAtPlace grid lat lon place)) best := by
  induction steps with
  | zero => exact fun _ _ _ _ => rfl
  | succ steps inductionHypothesis =>
      intro place best cut total
      have advanced := mergeStep_sum lat.crossing lon.crossing lat.count lon.count place
      rw [Function.iterate_succ_apply, step_walkAt cut.row_le cut.col_le,
        inductionHypothesis _ _ (cut.step lat.monotone_crossing lon.monotone_crossing (by omega)) (by omega)]
      rfl

theorem walkCells_eq_foldl (best : Int) :
    walkCells grid lat.start lon.start (lat.start + lat.delta) (lon.start + lon.delta) best =
      (mergePlaces lat.crossing lon.crossing lat.count lon.count (lat.count + lon.count) (0, 0)).foldl
        (fun best place => max best (moraAtPlace grid lat lon place)) best := by
  rw [← best_iterate (lat.count + lon.count) (0, 0) best mergeCut_start (Nat.zero_add _)]
  simp only [walkCells, add_sub_cancel_left, nextCrossing_zero, walkAt, moraAtPlace, Nat.cast_zero, Int.mul_zero,
    Int.add_zero, Axis.count]

/-- The value is at least what it starts from and every altitude on the way,
and one of them. -/
theorem foldl_max_spec (altitude : Nat × Nat -> Int) (places : List (Nat × Nat)) :
    forall best : Int, best ≤ places.foldl (fun best place => max best (altitude place)) best ∧
      (forall place, place ∈ places ->
        altitude place ≤ places.foldl (fun best place => max best (altitude place)) best) ∧
      (places.foldl (fun best place => max best (altitude place)) best = best ∨
        exists place, place ∈ places ∧
          places.foldl (fun best place => max best (altitude place)) best = altitude place) := by
  induction places with
  | nil => exact fun best => ⟨le_rfl, fun _ member => absurd member List.not_mem_nil, .inl rfl⟩
  | cons place places inductionHypothesis =>
      intro best
      rcases inductionHypothesis (max best (altitude place)) with ⟨least, each, value⟩
      rw [List.foldl_cons]
      refine ⟨(le_max_left _ _).trans least, ?_, ?_⟩
      · intro other member
        rcases List.mem_cons.mp member with same | later
        · rw [same]
          exact (le_max_right _ _).trans least
        · exact each other later
      · rcases value with same | ⟨other, member, same⟩
        · rcases max_choice best (altitude place) with first | second
          · exact .inl (same.trans first)
          · exact .inr ⟨place, List.mem_cons_self, same.trans second⟩
        · exact .inr ⟨other, List.mem_cons_of_mem _ member, same⟩

end Merge

/-! ## What the value covers -/

section Cover

/-- The latitudes of a leg. -/
def legLat (source target : Coordinate R) : Axis R :=
  ⟨source.latitude, target.latitude - source.latitude⟩

/-- The longitudes of a leg, the shorter way round and not wrapped. -/
def legLon (source target : Coordinate R) : Axis R :=
  ⟨source.longitude, shorterDlon source target⟩

/-- The leg meets the cell or its boundary. -/
def MeetsCell (source target : Coordinate R) (row col : Int) : Prop :=
  exists t, (0 ≤ t ∧ t ≤ 1) ∧
    ((row : R) ≤ (legLat source target).along t ∧ (legLat source target).along t ≤ row + 1) ∧
    ((col : R) ≤ (legLon source target).along t ∧ (legLon source target).along t ≤ col + 1)

/-- A value is no lower than the altitude of the cell of any point of the leg,
and no higher than that of some cell whose closure the leg meets. -/
def CoversLeg (grid : MoraGrid) (source target : Coordinate R) (value : Int) : Prop :=
  (forall t, 0 ≤ t -> t ≤ 1 ->
    grid.moraAtCell ⌊(legLat source target).along t⌋ ⌊(legLon source target).along t⌋ ≤ value) ∧
  exists row col : Int, MeetsCell source target row col ∧ value ≤ grid.moraAtCell row col

/-- The leg passes exactly through a corner of the grid, inside it. -/
def PassesCorner (source target : Coordinate R) (row col : Int) : Prop :=
  exists t, (0 < t ∧ t < 1) ∧ (legLat source target).along t = row ∧ (legLon source target).along t = col

/-- The cell is that of a point of the leg which is not such a corner. -/
def OwnsPoint (source target : Coordinate R) (row col : Int) : Prop :=
  exists t, (0 ≤ t ∧ t ≤ 1) ∧ ⌊(legLat source target).along t⌋ = row ∧ ⌊(legLon source target).along t⌋ = col ∧
    ¬ AtCorner (legLat source target) (legLon source target) t

/-- The leg meets a cell that is not negative, and if it runs north-west, then the
cell of a corner it passes through is no higher than 0 or some other cell on its way:
one that owns another point of the leg, or lies south-west of a corner. -/
structure CornersMatched (grid : MoraGrid) (source target : Coordinate R) : Prop where
  known : exists row col, MeetsCell source target row col ∧ 0 ≤ grid.moraAtCell row col
  matched : 0 < (legLat source target).delta -> (legLon source target).delta < 0 ->
    forall row col, PassesCorner source target row col -> 0 < grid.moraAtCell row col ->
      exists otherRow otherCol, (OwnsPoint source target otherRow otherCol ∨
          PassesCorner source target (otherRow + 1) (otherCol + 1)) ∧
        grid.moraAtCell row col ≤ grid.moraAtCell otherRow otherCol

variable [IsStrictOrderedRing R] {source target : Coordinate R} {greatCircle : GreatCircle R}

/-- A short leg is walked as a chord. -/
theorem maxMoraAlongLeg_of_short (grid : MoraGrid)
    (short : max |target.latitude - source.latitude| |shorterDlon source target| ≤ kMoraGreatCirclePieceDeg) :
    maxMoraAlongLeg grid greatCircle source target =
      (mergePlaces (legLat source target).crossing (legLon source target).crossing (legLat source target).count
        (legLon source target).count ((legLat source target).count + (legLon source target).count) (0, 0)).foldl
          (fun best place => max best (moraAtPlace grid (legLat source target) (legLon source target) place)) 0 := by
  rw [← walkCells_eq_foldl]
  simp only [maxMoraAlongLeg, if_pos short, legLat, legLon, add_sub_cancel]

/-- The cell of a point is that of the place with as many lines crossed. -/
theorem moraAtPlace_index (grid : MoraGrid) {t : R} (nonneg : 0 ≤ t) (lat lon : Axis R) :
    moraAtPlace grid lat lon (lat.index t, lon.index t) = grid.moraAtCell ⌊lat.along t⌋ ⌊lon.along t⌋ := by
  rw [moraAtPlace, lat.floor_along nonneg, lon.floor_along nonneg]

theorem mem_places_of_cut {lat lon : Axis R} {place : Nat × Nat}
    (cut : MergeCut lat.crossing lon.crossing lat.count lon.count place) :
    place ∈ mergePlaces lat.crossing lon.crossing lat.count lon.count (lat.count + lon.count) (0, 0) := by
  have rowLe := cut.row_le
  have colLe := cut.col_le
  exact cut.mem lat.monotone_crossing lon.monotone_crossing (Nat.zero_le _) (Nat.zero_le _) (by omega)

theorem cut_of_mem_places {lat lon : Axis R} {place : Nat × Nat}
    (member : place ∈ mergePlaces lat.crossing lon.crossing lat.count lon.count (lat.count + lon.count) (0, 0)) :
    MergeCut lat.crossing lon.crossing lat.count lon.count place :=
  mergeCut_of_mem lat.monotone_crossing lon.monotone_crossing mergeCut_start (Nat.zero_add _) member

section Short

variable (short : max |target.latitude - source.latitude| |shorterDlon source target| ≤ kMoraGreatCirclePieceDeg)

include short

theorem maxMoraAlongLeg_nonneg (grid : MoraGrid) : 0 ≤ maxMoraAlongLeg grid greatCircle source target := by
  rw [maxMoraAlongLeg_of_short grid short]
  exact (foldl_max_spec _ _ 0).1

theorem le_maxMoraAlongLeg {grid : MoraGrid} {place : Nat × Nat}
    (cut : MergeCut (legLat source target).crossing (legLon source target).crossing (legLat source target).count
      (legLon source target).count place) :
    moraAtPlace grid (legLat source target) (legLon source target) place ≤
      maxMoraAlongLeg grid greatCircle source target := by
  rw [maxMoraAlongLeg_of_short grid short]
  exact (foldl_max_spec _ _ 0).2.1 place (mem_places_of_cut cut)

variable (greatCircle) in
/-- The value is 0 or that of a cell the walk passes. -/
theorem maxMoraAlongLeg_attained (grid : MoraGrid) : maxMoraAlongLeg grid greatCircle source target = 0 ∨
    exists place, MergeCut (legLat source target).crossing (legLon source target).crossing
        (legLat source target).count (legLon source target).count place ∧
      maxMoraAlongLeg grid greatCircle source target =
        moraAtPlace grid (legLat source target) (legLon source target) place := by
  rw [maxMoraAlongLeg_of_short grid short]
  exact (foldl_max_spec _ _ 0).2.2.imp_right fun ⟨place, member, value⟩ => ⟨place, cut_of_mem_places member, value⟩

variable (greatCircle) in
/-- The value reaches the cell of a point, but not of a corner on the way north-west. -/
theorem le_maxMoraAlongLeg_of_point (grid : MoraGrid) {t : R} (started : 0 ≤ t) (atMost : t ≤ 1)
    (clear : 0 < (legLat source target).delta -> (legLon source target).delta < 0 ->
      ¬ AtCorner (legLat source target) (legLon source target) t) :
    grid.moraAtCell ⌊(legLat source target).along t⌋ ⌊(legLon source target).along t⌋ ≤
      maxMoraAlongLeg grid greatCircle source target := by
  have cut := mergeCut_index started atMost fun up down inside unfinished found =>
    clear up down ⟨⟨inside, unfinished⟩, found⟩
  have value : moraAtPlace grid _ _ _ ≤ maxMoraAlongLeg grid greatCircle source target :=
    le_maxMoraAlongLeg short cut
  rwa [moraAtPlace_index grid started] at value

theorem le_maxMoraAlongLeg_of_southWest {grid : MoraGrid} (up : 0 < (legLat source target).delta)
    (down : (legLon source target).delta < 0) {row col : Int}
    (corner : PassesCorner source target (row + 1) (col + 1)) :
    grid.moraAtCell row col ≤ maxMoraAlongLeg grid greatCircle source target := by
  rcases corner with ⟨t, ⟨started, unfinished⟩, onRow, onCol⟩
  rcases mergeCut_corner up down started unfinished onRow onCol with ⟨place, cut, rowIs, colIs⟩
  have value : moraAtPlace grid _ _ _ ≤ maxMoraAlongLeg grid greatCircle source target :=
    le_maxMoraAlongLeg short cut
  rwa [moraAtPlace, rowIs, colIs, Int.add_sub_cancel, Int.add_sub_cancel] at value

theorem coversLeg_of_matched {grid : MoraGrid} (matched : CornersMatched grid source target) :
    CoversLeg grid source target (maxMoraAlongLeg grid greatCircle source target) := by
  constructor
  · intro t started atMost
    by_cases corner : 0 < (legLat source target).delta ∧ (legLon source target).delta < 0 ∧
        AtCorner (legLat source target) (legLon source target) t
    · rcases corner with ⟨up, down, inside, row, col, onRow, onCol⟩
      rw [onRow, onCol, Int.floor_intCast, Int.floor_intCast]
      by_cases positive : 0 < grid.moraAtCell row col
      · rcases matched.matched up down row col ⟨t, inside, onRow, onCol⟩ positive with
          ⟨otherRow, otherCol, ⟨s, ⟨sStarted, sAtMost⟩, rowIs, colIs, clear⟩ | southWest, least⟩
        · have value := le_maxMoraAlongLeg_of_point greatCircle short grid sStarted sAtMost fun _ _ => clear
          rw [rowIs, colIs] at value
          exact least.trans value
        · exact least.trans (le_maxMoraAlongLeg_of_southWest short up down southWest)
      · exact (not_lt.mp positive).trans (maxMoraAlongLeg_nonneg short grid)
    · exact le_maxMoraAlongLeg_of_point greatCircle short grid started atMost fun up down inside => corner ⟨up, down, inside⟩
  · rcases maxMoraAlongLeg_attained greatCircle short grid with unknown | ⟨place, cut, value⟩
    · rw [unknown]
      exact matched.known
    · exact ⟨_, _, cut.meets, value.le⟩

theorem matched_of_coversLeg {grid : MoraGrid}
    (covers : CoversLeg grid source target (maxMoraAlongLeg grid greatCircle source target)) :
    CornersMatched grid source target := by
  rcases covers with ⟨above, row, col, meets, below⟩
  refine ⟨⟨row, col, meets, (maxMoraAlongLeg_nonneg short grid).trans below⟩, ?_⟩
  rintro up down cornerRow cornerCol ⟨t, ⟨started, unfinished⟩, onRow, onCol⟩ positive
  have least := above t started.le unfinished.le
  rw [onRow, onCol, Int.floor_intCast, Int.floor_intCast] at least
  rcases maxMoraAlongLeg_attained greatCircle short grid with unknown | ⟨place, cut, value⟩
  · rw [unknown] at least
    exact absurd positive (not_lt.mpr least)
  · rw [value] at least
    exact ⟨_, _, cut.point_or_corner up down, least⟩

/-- On every grid the value of a short leg covers it exactly when the corners it
passes through north-westward are matched by other cells, and some cell it meets is
not negative. -/
theorem maxMoraAlongLeg_covers_iff (grid : MoraGrid) (greatCircle : GreatCircle R) :
    CoversLeg grid source target (maxMoraAlongLeg grid greatCircle source target) ↔
      CornersMatched grid source target :=
  ⟨matched_of_coversLeg short, coversLeg_of_matched short⟩

end Short

/-- A leg through the corner (1, 0), and its middle. -/
def diagonalSource : Coordinate Rat := ⟨1 / 2, 1 / 2⟩
def diagonalTarget : Coordinate Rat := ⟨3 / 2, -1 / 2⟩

/-- Short legs are not cut. -/
def noGreatCircle : GreatCircle Rat := fun _ _ => none

theorem diagonal_facts :
    max |diagonalTarget.latitude - diagonalSource.latitude| |shorterDlon diagonalSource diagonalTarget| ≤
        kMoraGreatCirclePieceDeg ∧
      ((0 : Rat) < 1 / 2 ∧ (1 / 2 : Rat) < 1) ∧ 0 < (legLat diagonalSource diagonalTarget).delta ∧
      (legLon diagonalSource diagonalTarget).delta < 0 ∧
      (legLat diagonalSource diagonalTarget).along (1 / 2) = (1 : Int) ∧
      (legLon diagonalSource diagonalTarget).along (1 / 2) = (0 : Int) := by
  decide +kernel

theorem diagonal_along (t : Rat) :
    (legLat diagonalSource diagonalTarget).along t = 1 / 2 + t ∧
      (legLon diagonalSource diagonalTarget).along t = 1 / 2 - t := by
  have deltas : (legLat diagonalSource diagonalTarget).delta = 1 ∧
      (legLon diagonalSource diagonalTarget).delta = -1 := by
    decide +kernel
  rw [Axis.along, Axis.along, deltas.1, deltas.2, mul_one, mul_neg_one, ← sub_eq_add_neg]
  exact ⟨rfl, rfl⟩

theorem not_cornersMatched_diagonal : ¬ CornersMatched (MoraGrid.single 1 0) diagonalSource diagonalTarget := by
  intro matched
  rcases diagonal_facts with ⟨_, inside, up, down, onRow, onCol⟩
  have known : (MoraGrid.single 1 0).moraAtCell 1 0 = 1 := MoraGrid.moraAtCell_single (by decide) (by decide)
  rcases matched.matched up down 1 0 ⟨1 / 2, inside, onRow, onCol⟩ (by rw [known]; decide) with
    ⟨row, col, owned, least⟩
  rw [known] at least
  rcases (MoraGrid.moraAtCell_single_le 1 0 row col (by decide)).2 (Int.one_pos.trans_le least) with ⟨isRow, wrapped⟩
  have rowOne : row = 1 := by omega
  have lat := fun t => (diagonal_along t).1
  have lon := fun t => (diagonal_along t).2
  rcases owned with ⟨t, ⟨started, atMost⟩, rowIs, colIs, clear⟩ | ⟨t, ⟨_, unfinished⟩, rowIs, _⟩
  · -- North of the corner and not west of it is the corner alone.
    rw [lat, rowOne, Int.floor_eq_iff] at rowIs
    rw [lon, Int.floor_eq_iff] at colIs
    have low : ((-1 : Int) : Rat) ≤ col := by
      by_contra beyond
      have next : col + 1 ≤ -1 := by
        have less : col < -1 := by exact_mod_cast not_le.mp beyond
        omega
      have cast : ((col + 1 : Int) : Rat) ≤ ((-1 : Int) : Rat) := Int.cast_le.mpr next
      push_cast at cast
      linarith [colIs.2]
    have high : (col : Rat) ≤ ((0 : Int) : Rat) := by
      by_contra beyond
      have next : 1 ≤ col := by
        have more : 0 < col := by exact_mod_cast not_le.mp beyond
        omega
      have cast : ((1 : Int) : Rat) ≤ (col : Rat) := Int.cast_le.mpr next
      push_cast at cast
      linarith [colIs.1]
    have colZero : col = 0 := by
      have lower : -1 ≤ col := by exact_mod_cast low
      have upper : col ≤ 0 := by exact_mod_cast high
      omega
    rw [colZero] at colIs
    push_cast at rowIs colIs
    have middle : t = 1 / 2 := by linarith [rowIs.1, colIs.1]
    exact clear (middle ▸ ⟨inside, 1, 0, onRow, onCol⟩)
  · rw [lat, rowOne] at rowIs
    push_cast at rowIs
    linarith

/-- The cell north-east of the corner is missed. -/
theorem not_coversLeg_diagonal :
    ¬ CoversLeg (MoraGrid.single 1 0) diagonalSource diagonalTarget
      (maxMoraAlongLeg (MoraGrid.single 1 0) noGreatCircle diagonalSource diagonalTarget) :=
  fun covers => not_cornersMatched_diagonal (matched_of_coversLeg diagonal_facts.1 covers)

/-- The same leg flown back runs south-east, and is covered. -/
theorem maxMoraAlongLeg_covers_back :
    CoversLeg (MoraGrid.single 1 0) diagonalTarget diagonalSource
      (maxMoraAlongLeg (MoraGrid.single 1 0) noGreatCircle diagonalTarget diagonalSource) := by
  have back : max |diagonalSource.latitude - diagonalTarget.latitude| |shorterDlon diagonalTarget diagonalSource| ≤
        kMoraGreatCirclePieceDeg ∧ ¬ 0 < (legLat diagonalTarget diagonalSource).delta := by
    decide +kernel
  refine (maxMoraAlongLeg_covers_iff back.1 (MoraGrid.single 1 0) noGreatCircle).mpr
    ⟨⟨1, 0, ⟨1 / 2, ?_⟩, ?_⟩, fun up => absurd up back.2⟩
  · decide +kernel
  · exact (MoraGrid.moraAtCell_single_le 1 0 1 0 (by decide)).1

end Cover

end Walk
end BravoFinder
