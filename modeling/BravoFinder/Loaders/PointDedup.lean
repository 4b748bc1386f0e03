import BravoFinder.Build.FaithfulGraph
import Mathlib.Algebra.Field.Rat
import Mathlib.Algebra.Order.Field.Basic
import Mathlib.Algebra.Order.Ring.Rat
import Mathlib.Tactic.NormNum

namespace BravoFinder

/-!
# Points that are the same

A key may name several points, so the loaders merge rows by key and position:
the first row of a point is kept, and a later one near it is dropped.  A row that
was dropped still resolves, because the tolerance of a lookup is wider than the
distance of the merge.
-/

/-- Two rows of one key closer than this are the same point. -/
def kSamePointNm {R : Type} [Field R] : R := 0.5

/-- `PointDeduper`.  `seen key` is the vector under a key, empty where the map has none. -/
structure PointDeduper (R : Type) where
  seen : Ident -> List (Coordinate R)

/-- A row of a source, as far as it is deduplicated. -/
structure PointRow (R : Type) where
  key : Ident
  coord : Coordinate R
deriving DecidableEq

namespace PointDeduper

variable {R : Type} [Field R] [LinearOrder R]

def empty : PointDeduper R := ⟨fun _ => []⟩

/-- `Insert`; whether the row is a new point. -/
def insert (earth : Geodesy R) (deduper : PointDeduper R) (key : Ident) (coord : Coordinate R) :
    PointDeduper R × Bool :=
  match FixedIdent.fromIdent key with
  | .error _ => (deduper, false)
  | .ok _ =>
      if (deduper.seen key).any fun p => earth.distanceTo p coord < kSamePointNm then (deduper, false)
      else (⟨Function.update deduper.seen key (deduper.seen key ++ [coord])⟩, true)

/-- A loader's rows, with those that are kept. -/
def load (earth : Geodesy R) (rows : List (PointRow R)) : PointDeduper R × List (PointRow R) :=
  rows.foldl (fun state row =>
    ((state.1.insert earth row.key row.coord).1,
      if (state.1.insert earth row.key row.coord).2 then state.2 ++ [row] else state.2)) (empty, [])

/-- The points that a loader keeps. -/
def kept (earth : Geodesy R) (rows : List (PointRow R)) : List (PointRow R) :=
  (load earth rows).2

variable {earth : Geodesy R}

/-- Some kept point of its key is near the row. -/
def Near (earth : Geodesy R) (points : List (PointRow R)) (row : PointRow R) : Prop :=
  exists point, point ∈ points ∧ point.key = row.key ∧ earth.distanceTo point.coord row.coord < kSamePointNm

/-- The key fits the compact identifier. -/
def Fits (key : Ident) : Prop := exists fixed, FixedIdent.fromIdent key = .ok fixed

theorem load_append (rows : List (PointRow R)) (row : PointRow R) :
    load earth (rows ++ [row]) = (((load earth rows).1.insert earth row.key row.coord).1,
      if ((load earth rows).1.insert earth row.key row.coord).2 then (load earth rows).2 ++ [row]
      else (load earth rows).2) := by
  rw [load, List.foldl_append]
  rfl

/-- What `Insert` does: it records a new point, or nothing. -/
theorem insert_cases (deduper : PointDeduper R) (key : Ident) (coord : Coordinate R) :
    (Fits key ∧ (forall p, p ∈ deduper.seen key -> ¬ earth.distanceTo p coord < kSamePointNm) ∧
        deduper.insert earth key coord =
          (⟨Function.update deduper.seen key (deduper.seen key ++ [coord])⟩, true)) ∨
      (Fits key -> exists p, p ∈ deduper.seen key ∧ earth.distanceTo p coord < kSamePointNm) ∧
        deduper.insert earth key coord = (deduper, false) := by
  rw [insert]
  rcases packed : FixedIdent.fromIdent key with error | fixed
  · refine .inr ⟨fun ⟨fixed, fits⟩ => ?_, rfl⟩
    cases packed.symm.trans fits
  · dsimp only
    split_ifs with near
    · rcases List.any_eq_true.mp near with ⟨p, member, close⟩
      exact .inr ⟨fun _ => ⟨p, member, of_decide_eq_true close⟩, rfl⟩
    · refine .inl ⟨⟨fixed, packed⟩, fun p member close => near ?_, rfl⟩
      exact List.any_eq_true.mpr ⟨p, member, decide_eq_true close⟩

/-- What was seen under a key is what was kept of it. -/
theorem seen_load (rows : List (PointRow R)) (key : Ident) :
    (load earth rows).1.seen key = ((kept earth rows).filter fun point => point.key = key).map PointRow.coord := by
  induction rows using List.reverseRecOn with
  | nil => rfl
  | append_singleton rows row inductionHypothesis =>
      rw [kept, load_append]
      rcases insert_cases (load earth rows).1 row.key row.coord with
        ⟨_, _, inserted⟩ | ⟨_, refused⟩
      · rw [inserted]
        dsimp only
        rw [if_pos rfl, List.filter_append, List.map_append, Function.update_apply, ← kept]
        by_cases same : key = row.key
        · rw [if_pos same, ← same, inductionHypothesis, List.filter_singleton, decide_eq_true same.symm]
          rfl
        · rw [if_neg same, inductionHypothesis, List.filter_singleton, decide_eq_false (Ne.symm same)]
          exact (List.append_nil _).symm
      · rw [refused]
        dsimp only
        rw [if_neg Bool.false_ne_true]
        exact inductionHypothesis

/-- A further row is kept unless its key does not fit or a kept point is near. -/
theorem kept_append (rows : List (PointRow R)) (row : PointRow R) :
    (Fits row.key ∧ ¬ Near earth (kept earth rows) row ∧ kept earth (rows ++ [row]) = kept earth rows ++ [row]) ∨
      (Fits row.key -> Near earth (kept earth rows) row) ∧ kept earth (rows ++ [row]) = kept earth rows := by
  have seen : forall p, p ∈ (load earth rows).1.seen row.key ↔
      exists point, point ∈ kept earth rows ∧ point.key = row.key ∧ point.coord = p := by
    intro p
    rw [seen_load, List.mem_map]
    constructor
    · rintro ⟨point, member, same⟩
      rcases List.mem_filter.mp member with ⟨listed, sameKey⟩
      exact ⟨point, listed, of_decide_eq_true sameKey, same⟩
    · rintro ⟨point, listed, sameKey, same⟩
      exact ⟨point, List.mem_filter.mpr ⟨listed, decide_eq_true sameKey⟩, same⟩
  rcases insert_cases (load earth rows).1 row.key row.coord with
    ⟨fits, apart, inserted⟩ | ⟨refusing, refused⟩
  · refine .inl ⟨fits, ?_, ?_⟩
    · rintro ⟨point, member, sameKey, close⟩
      exact apart point.coord ((seen _).mpr ⟨point, member, sameKey, rfl⟩) close
    · rw [kept, load_append, inserted]
      rfl
  · refine .inr ⟨fun fits => ?_, ?_⟩
    · rcases refusing fits with ⟨p, member, close⟩
      rcases (seen p).mp member with ⟨point, listed, sameKey, rfl⟩
      exact ⟨point, listed, sameKey, close⟩
    · rw [kept, load_append, refused]
      rfl

/-- Kept points are far apart, and each fits. -/
theorem apart_kept (rows : List (PointRow R)) :
    (kept earth rows).Pairwise fun first second =>
      first.key = second.key -> kSamePointNm ≤ earth.distanceTo first.coord second.coord := by
  induction rows using List.reverseRecOn with
  | nil => exact List.Pairwise.nil
  | append_singleton rows row inductionHypothesis =>
      rcases kept_append rows row with ⟨_, far, extended⟩ | ⟨_, same⟩
      · rw [extended]
        refine List.pairwise_append.mpr ⟨inductionHypothesis, List.pairwise_singleton _ _, ?_⟩
        intro point member other isRow sameKey
        rw [List.mem_singleton.mp isRow] at sameKey ⊢
        exact not_lt.mp fun close => far ⟨point, member, sameKey, close⟩
      · rw [same]
        exact inductionHypothesis

/-- Every row that fits is near a kept point. -/
theorem near_kept [IsStrictOrderedRing R] (zero : forall coord, earth.distanceTo coord coord = 0)
    {rows : List (PointRow R)} {row : PointRow R} (listed : row ∈ rows) (fits : Fits row.key) :
    Near earth (kept earth rows) row := by
  induction rows using List.reverseRecOn with
  | nil => exact absurd listed List.not_mem_nil
  | append_singleton rows last inductionHypothesis =>
      have grown : Near earth (kept earth rows) row -> Near earth (kept earth (rows ++ [last])) row := by
        rintro ⟨point, member, near⟩
        rcases kept_append rows last with ⟨_, _, extended⟩ | ⟨_, same⟩
        · exact ⟨point, extended ▸ List.mem_append_left _ member, near⟩
        · exact ⟨point, same ▸ member, near⟩
      rcases List.mem_append.mp listed with earlier | isLast
      · exact grown (inductionHypothesis earlier)
      · cases List.mem_singleton.mp isLast
        rcases kept_append rows row with ⟨_, _, extended⟩ | ⟨near, _⟩
        · have positive : (0 : R) < kSamePointNm := by norm_num [kSamePointNm]
          exact ⟨row, extended ▸ List.mem_append_right _ List.mem_cons_self, rfl, (zero row.coord).symm ▸ positive⟩
        · exact grown (near fits)

/-- The kept points of a key depend on the rows of that key alone. -/
theorem filter_kept (rows : List (PointRow R)) (key : Ident) :
    (kept earth rows).filter (fun point => point.key = key) =
      kept earth (rows.filter fun row => row.key = key) := by
  induction rows using List.reverseRecOn with
  | nil => rfl
  | append_singleton rows row inductionHypothesis =>
      rw [List.filter_append, List.filter_singleton]
      by_cases same : row.key = key
      · -- Of the row's own key the same points are kept before it.
        have near : Near earth (kept earth rows) row ↔
            Near earth (kept earth (rows.filter fun row => row.key = key)) row := by
          rw [← inductionHypothesis]
          constructor
          · rintro ⟨point, member, sameKey, close⟩
            exact ⟨point, List.mem_filter.mpr ⟨member, decide_eq_true (sameKey.trans same)⟩, sameKey, close⟩
          · rintro ⟨point, member, sameKey, close⟩
            exact ⟨point, (List.mem_filter.mp member).1, sameKey, close⟩
        rw [decide_eq_true same, cond_true]
        rcases kept_append rows row with ⟨fits, far, extended⟩ | ⟨covered, unchanged⟩
        · rcases kept_append (rows.filter fun row => row.key = key) row with
            ⟨_, _, extendedToo⟩ | ⟨coveredToo, _⟩
          · rw [extended, extendedToo, List.filter_append, List.filter_singleton, decide_eq_true same, cond_true,
              inductionHypothesis]
          · exact absurd (near.mpr (coveredToo fits)) far
        · rcases kept_append (rows.filter fun row => row.key = key) row with
            ⟨fits, far, _⟩ | ⟨_, unchangedToo⟩
          · exact absurd (near.mp (covered fits)) far
          · rw [unchanged, unchangedToo, inductionHypothesis]
      · rw [decide_eq_false same, cond_false, List.append_nil, ← inductionHypothesis]
        rcases kept_append rows row with ⟨_, _, extended⟩ | ⟨_, unchanged⟩
        · rw [extended, List.filter_append, List.filter_singleton, decide_eq_false same, cond_false, List.append_nil]
        · rw [unchanged]

end PointDeduper

/-! ## Looking a row up -/

section Lookup

variable {R : Type} [Field R] [LinearOrder R] {data : NavData R}

omit [Field R] [LinearOrder R] in
/-- The points of an identifier are the positions at which it stands. -/
theorem NavData.mem_pointsOf {ident : Ident} {v : Int} :
    v ∈ data.pointsOf ident ↔ exists (index : Nat) (w : Waypoint R),
      data.waypoints[index]? = some w ∧ w.ident = ident ∧ v = index := by
  rw [pointsOf, List.mem_map]
  constructor
  · rintro ⟨⟨w, index⟩, member, rfl⟩
    rcases List.mem_filter.mp member with ⟨listed, named⟩
    exact ⟨index, w, List.mem_zipIdx_iff_getElem?.mp listed, of_decide_eq_true named, rfl⟩
  · rintro ⟨index, w, here, named, rfl⟩
    exact ⟨(w, index), List.mem_filter.mpr ⟨List.mem_zipIdx_iff_getElem?.mpr here, decide_eq_true named⟩, rfl⟩

/-- The waypoints of a built graph are those of its data. -/
theorem vertexNear_build {earth : Geodesy R} {narrow : R -> R} {built : BuiltGraph R}
    (accepted : build earth narrow data = .ok built) {ident : Ident} {key : FixedIdent}
    (packed : FixedIdent.fromIdent ident = .ok key) (near : Coordinate R) (maxNm : R) :
    built.vertexNear earth key near maxNm =
      (((data.pointsOf ident).filter fun v => earth.distanceTo near (data.positionOf v) ≤ maxNm).argmin
        fun v => earth.distanceTo near (data.positionOf v)).getD (-1) ∧
      forall v, built.graph.coordOf v = data.positionOf v := by
  rw [build] at accepted
  rcases idents : packIdents data with error | packing
  · rw [idents] at accepted
    cases accepted
  · rw [idents] at accepted
    cases accepted
    refine ⟨?_, fun v => rfl⟩
    have listed := candidates_eq packing earth narrow ident
    rw [Surveyor.candidates, packed] at listed
    rw [GraphBuilder.vertexNear_eq, ← listed]
    rfl

end Lookup

namespace PointDeduper

variable {R : Type} [Field R] [LinearOrder R] [IsStrictOrderedRing R]

/-- A row resolves to the nearest kept point of its key. -/
structure Resolves (earth : Geodesy R) (points : List (PointRow R)) (built : BuiltGraph R) (row : PointRow R) :
    Prop where
  found : exists (key : FixedIdent) (index : Nat) (point : PointRow R), FixedIdent.fromIdent row.key = .ok key ∧
    built.vertexNear earth key row.coord kFixHintToleranceNm = index ∧ points[index]? = some point ∧
      point.key = row.key ∧ built.graph.coordOf index = point.coord ∧
        earth.distanceTo row.coord point.coord < kSamePointNm ∧
          forall other, other ∈ points -> other.key = row.key ->
            earth.distanceTo row.coord point.coord ≤ earth.distanceTo row.coord other.coord

theorem resolves_of_near {earth : Geodesy R} (symmetric : forall first second,
      earth.distanceTo first second = earth.distanceTo second first)
    {points : List (PointRow R)} {row : PointRow R} (fits : Fits row.key) (covered : Near earth points row)
    {data : NavData R} (loaded : data.waypoints.map (fun w => PointRow.mk w.ident w.coord) = points)
    {narrow : R -> R} {built : BuiltGraph R} (accepted : build earth narrow data = .ok built) :
    Resolves earth points built row := by
  rcases fits with ⟨key, packed⟩
  have standing : forall (index : Nat) (point : PointRow R), points[index]? = some point ->
      data.positionOf index = point.coord ∧
        ((index : Int) ∈ data.pointsOf row.key ↔ point.key = row.key) := by
    intro index point here
    rw [← loaded, List.getElem?_map, Option.map_eq_some_iff] at here
    rcases here with ⟨w, at_, rfl⟩
    have inside := (List.getElem?_eq_some_iff.mp at_).1
    constructor
    · rw [NavData.positionOf, NavData.coords, Int.toNat_natCast, List.getD_eq_getElem?_getD,
        List.getElem?_append_left (by rwa [List.length_map]), List.getElem?_map, at_]
      rfl
    · rw [NavData.mem_pointsOf]
      constructor
      · rintro ⟨other, found, same, named, isIndex⟩
        cases Int.ofNat_inj.mp isIndex
        cases at_.symm.trans same
        exact named
      · exact fun named => ⟨index, w, at_, named, rfl⟩
  rcases vertexNear_build accepted packed row.coord kFixHintToleranceNm with ⟨nearest, positions⟩
  rcases covered with ⟨point, member, sameKey, close⟩
  rcases List.getElem?_of_mem member with ⟨start, here⟩
  have within : earth.distanceTo row.coord point.coord < kSamePointNm := symmetric _ _ ▸ close
  have tolerated : (kSamePointNm : R) ≤ kFixHintToleranceNm := by norm_num [kSamePointNm, kFixHintToleranceNm]
  have candidate : (start : Int) ∈ (data.pointsOf row.key).filter fun v =>
      earth.distanceTo row.coord (data.positionOf v) ≤ kFixHintToleranceNm := by
    refine List.mem_filter.mpr ⟨(standing start point here).2.mpr sameKey, decide_eq_true ?_⟩
    rw [(standing start point here).1]
    exact within.le.trans tolerated
  rcases best : ((data.pointsOf row.key).filter fun v =>
      earth.distanceTo row.coord (data.positionOf v) ≤ kFixHintToleranceNm).argmin
        fun v => earth.distanceTo row.coord (data.positionOf v) with _ | v
  · rw [List.argmin_eq_none.mp best] at candidate
    exact absurd candidate List.not_mem_nil
  · rcases List.argmin_eq_some_iff.mp best with ⟨chosen, least, _⟩
    have listed := (List.mem_filter.mp chosen).1
    rcases NavData.mem_pointsOf.mp listed with ⟨index, w, at_, named, rfl⟩
    have here' : points[index]? = some ⟨w.ident, w.coord⟩ := by
      rw [← loaded, List.getElem?_map, at_]
      rfl
    have closest : earth.distanceTo row.coord w.coord ≤ earth.distanceTo row.coord point.coord := by
      have compared := least start candidate
      rwa [(standing start point here).1, (standing index _ here').1] at compared
    refine ⟨key, index, ⟨w.ident, w.coord⟩, packed, ?_, here', named, ?_, closest.trans_lt within, ?_⟩
    · rw [nearest, best]
      rfl
    · rw [positions]
      exact (standing index _ here').1
    · intro other isPoint otherKey
      rcases List.getElem?_of_mem isPoint with ⟨place, there⟩
      rcases le_or_gt (earth.distanceTo row.coord other.coord) kFixHintToleranceNm with near | far
      · have compared := least (place : Int) (List.mem_filter.mpr ⟨(standing place other there).2.mpr otherKey,
          decide_eq_true (by rwa [(standing place other there).1])⟩)
        rwa [(standing place other there).1, (standing index _ here').1] at compared
      · exact (closest.trans_lt within).le.trans (tolerated.trans far.le)

/-- Merging rows loses no reference: the kept points of a key are far apart and
independent of other keys, each row is near one of them, and a lookup of the row
finds the nearest. -/
theorem rows_resolve (earth : Geodesy R) (symmetric : forall first second,
      earth.distanceTo first second = earth.distanceTo second first)
    (zero : forall coord, earth.distanceTo coord coord = 0) (rows : List (PointRow R)) :
    ((kept earth rows).Pairwise fun first second =>
      first.key = second.key -> kSamePointNm ≤ earth.distanceTo first.coord second.coord) ∧
    (forall row, row ∈ rows -> Fits row.key -> Near earth (kept earth rows) row) ∧
    (forall key, (kept earth rows).filter (fun point => point.key = key) =
      kept earth (rows.filter fun row => row.key = key)) ∧
    forall (data : NavData R) (narrow : R -> R) (built : BuiltGraph R),
      data.waypoints.map (fun w => PointRow.mk w.ident w.coord) = kept earth rows ->
      build earth narrow data = .ok built ->
        forall row, row ∈ rows -> Fits row.key -> Resolves earth (kept earth rows) built row :=
  ⟨apart_kept rows, fun _ listed fits => near_kept zero listed fits, filter_kept rows,
    fun _ _ _ loaded accepted _ listed fits =>
      resolves_of_near symmetric fits (near_kept zero listed fits) loaded accepted⟩

/-- Distance along a meridian. -/
def latitudeEarth : Geodesy Rat where
  distanceTo origin target := |origin.latitude - target.latitude|
  bearingTo _ _ := 0
  chordNm origin target := |origin.latitude - target.latitude|
  distanceTo_nonneg _ _ := abs_nonneg _
  bearingTo_nonneg _ _ := le_refl _

/-- Three rows of one key; the second is near both others. -/
def threeRows : List (PointRow Rat) :=
  [⟨⟨[65], [90]⟩, ⟨0, 0⟩⟩, ⟨⟨[65], [90]⟩, ⟨3 / 10, 0⟩⟩, ⟨⟨[65], [90]⟩, ⟨6 / 10, 0⟩⟩]

/-- The points that are kept of them. -/
def twoPoints : NavData Rat where
  waypoints := [⟨⟨[65], [90]⟩, ⟨0, 0⟩, .kFix⟩, ⟨⟨[65], [90]⟩, ⟨6 / 10, 0⟩, .kFix⟩]
  airways := []
  airports := []
  count_lt := by simp

theorem rows_resolve_three : exists built, build latitudeEarth id twoPoints = .ok built ∧
    Resolves latitudeEarth (kept latitudeEarth threeRows) built ⟨⟨[65], [90]⟩, ⟨3 / 10, 0⟩⟩ := by
  have promises := rows_resolve latitudeEarth (fun first second => abs_sub_comm _ _)
    (fun coord => abs_eq_zero.mpr (sub_self _)) threeRows
  have loaded : twoPoints.waypoints.map (fun w => PointRow.mk w.ident w.coord) = kept latitudeEarth threeRows := by
    decide +kernel
  have accepted : (build latitudeEarth id twoPoints).toOption.isSome = true := by decide +kernel
  rcases built : build latitudeEarth id twoPoints with error | graph
  · rw [built] at accepted
    cases accepted
  · exact ⟨graph, rfl, promises.2.2.2 twoPoints id graph loaded built _ (List.mem_cons_of_mem _ List.mem_cons_self)
      ⟨⟨[65], [90], by decide, by decide⟩, rfl⟩⟩

end PointDeduper
end BravoFinder
