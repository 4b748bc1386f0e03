import BravoFinder.Build.FixLookup
import BravoFinder.Library.SortedIndex
import Mathlib.Data.List.MinMax
import Mathlib.Data.Prod.Basic

namespace BravoFinder

/-!
# The vertices of a key

The index of full identifiers is sorted by key and, under one key, by vertex.  So
the entries of a key are its waypoints in the order they were loaded: the first
of them is the vertex of the key, and of those near a position the nearest is
taken, the first of them when several are as near.
-/

theorem FixedIdent.before_iff {first second : FixedIdent} :
    first.before second = true ↔
      Prod.Lex (· < ·) (· < ·) (first.ident, first.arinc424IcaoCode) (second.ident, second.arinc424IcaoCode) := by
  rw [Prod.lex_iff, before, Bool.or_eq_true, Bool.and_eq_true, decide_eq_true_iff, decide_eq_true_iff, beq_iff_eq]

/-- Full identifiers are strictly ordered. -/
instance strictTotalOrder_fixedIdent :
    IsStrictTotalOrder FixedIdent fun first second => first.before second = true where
  trichotomous first second forwards backwards := by
    rw [FixedIdent.before_iff] at forwards backwards
    have same := Std.Trichotomous.trichotomous _ _ forwards backwards
    cases first
    cases second
    cases same
    rfl
  irrefl _ step := (Std.Irrefl.irrefl _) (FixedIdent.before_iff.mp step)
  trans _ _ _ step next := by
    rw [FixedIdent.before_iff] at step next ⊢
    exact IsTrans.trans _ _ _ step next

theorem FixedIdent.not_before_self (fixed : FixedIdent) : ¬ fixed.before fixed = true :=
  strictTotalOrder_fixedIdent.toIsStrictOrder.toIrrefl.irrefl fixed

theorem FixedIdent.eq_of_not_before {first second : FixedIdent} (forwards : ¬ first.before second = true)
    (backwards : ¬ second.before first = true) : first = second :=
  strictTotalOrder_fixedIdent.toTrichotomous.trichotomous _ _ forwards backwards

namespace GraphBuilder

variable {R : Type}

theorem byKey_iff {first second : FixedIdent × Int} :
    byKey first second = true ↔
      Prod.Lex (fun left right => FixedIdent.before left right = true) (· < ·) first second := by
  rw [Prod.lex_iff, byKey]
  split_ifs with forwards backwards
  · exact iff_of_true rfl (Or.inl forwards)
  · refine iff_of_false (by decide) ?_
    rintro (step | ⟨same, _⟩)
    · exact forwards step
    · exact FixedIdent.not_before_self _ (same ▸ backwards)
  · rw [decide_eq_true_iff, or_iff_right forwards, and_iff_right (FixedIdent.eq_of_not_before forwards backwards)]

/-- The waypoints of a key, in load order. -/
def keyedVertices (builder : GraphBuilder R) (key : FixedIdent) : List Int :=
  ((builder.idents.take builder.firstAirportVertex).zipIdx.filter fun entry => entry.1 == key).map fun entry =>
    (entry.2 : Int)

/-- The index is in the order of its comparison. -/
theorem pairwise_identIndex (builder : GraphBuilder R) :
    builder.identIndex.Pairwise fun first second => ¬ byKey second first = true :=
  have _trans : IsTrans (FixedIdent × Int) fun first second => byKey first second = true :=
    ⟨fun _ _ _ step next => byKey_iff.mpr (IsTrans.trans _ _ _ (byKey_iff.mp step) (byKey_iff.mp next))⟩
  have _irrefl : Std.Irrefl fun first second : FixedIdent × Int => byKey first second = true :=
    ⟨fun _ step => Std.Irrefl.irrefl _ (byKey_iff.mp step)⟩
  SortedIndex.pairwise_insertionSort _

theorem pairwise_keyedVertices (builder : GraphBuilder R) (key : FixedIdent) :
    (builder.keyedVertices key).Pairwise (· ≤ ·) := by
  have positions : ((builder.idents.take builder.firstAirportVertex).zipIdx.map Prod.snd).Pairwise (· ≤ ·) := by
    rw [List.zipIdx_map_snd]
    exact List.pairwise_le_range'
  rw [keyedVertices, List.pairwise_map]
  exact ((List.pairwise_map.mp positions).sublist List.filter_sublist).imp Int.ofNat_le.mpr

/-- The entries of a key are its waypoints in load order. -/
theorem map_identRange (builder : GraphBuilder R) (key : FixedIdent) :
    (builder.identRange key).map Prod.snd = builder.keyedVertices key := by
  have sorted : SortedIndex.Sorted Prod.fst (fun left right => FixedIdent.before left right = true)
      builder.identIndex :=
    builder.pairwise_identIndex.imp fun apart step => apart (byKey_iff.mpr (Prod.lex_iff.mpr (Or.inl step)))
  have range : builder.identRange key = builder.identIndex.filter fun entry => entry.1 == key := by
    rw [← SortedIndex.takeWhile_lowerBound sorted key]
    simp only [identRange, SortedIndex.lowerBound, Bool.decide_eq_true]
  have same : List.Perm ((builder.identRange key).map Prod.snd) (builder.keyedVertices key) := by
    rw [range, identIndex, keyedVertices]
    refine (((List.perm_insertionSort _ _).filter _).map _).trans ?_
    rw [List.filter_map, List.map_map]
    exact List.Perm.refl _
  refine same.eq_of_pairwise (fun _ _ _ _ => Int.le_antisymm) ?_ (builder.pairwise_keyedVertices key)
  rw [range, List.pairwise_map, List.pairwise_filter]
  refine builder.pairwise_identIndex.imp fun apart isKey alsoKey => ?_
  refine Int.not_lt.mp fun less => apart (byKey_iff.mpr (Prod.lex_iff.mpr (Or.inr ⟨?_, less⟩)))
  exact (beq_iff_eq.mp alsoKey).trans (beq_iff_eq.mp isKey).symm

/-- The vertex of a key is its first waypoint. -/
theorem vertexByIdent_eq (builder : GraphBuilder R) (key : FixedIdent) :
    builder.vertexByIdent key = (builder.keyedVertices key).head?.getD (-1) := by
  rw [vertexByIdent, ← map_identRange]
  rcases builder.identRange key with _ | ⟨entry, rest⟩ <;> rfl

/-- The better of the candidates so far, with its distance. -/
def nearer [LinearOrder R] (nm : Int -> R) (best : Int × R) (candidate : Int) : Int × R :=
  if nm candidate ≤ best.2 ∧ (best.1 < 0 ∨ nm candidate < best.2) then (candidate, nm candidate) else best

/-- Keeping the better of two finds the nearest within the limit. -/
theorem foldl_nearer [LinearOrder R] {candidates : List Int} (vertices : forall v, v ∈ candidates -> 0 ≤ v)
    (nm : Int -> R) (maxNm : R) :
    candidates.foldl (nearer nm) (-1, maxNm) =
      match (candidates.filter fun v => nm v ≤ maxNm).argmin nm with
      | none => (-1, maxNm)
      | some v => (v, nm v) := by
  induction candidates using List.reverseRecOn with
  | nil => rfl
  | append_singleton front last inductionHypothesis =>
      have before := inductionHypothesis fun v member => vertices v (List.mem_append_left _ member)
      rw [List.foldl_append, before, List.foldl_cons, List.foldl_nil, List.filter_append, List.filter_singleton]
      rcases best : (front.filter fun v => nm v ≤ maxNm).argmin nm with _ | v
      · rw [List.argmin_eq_none.mp best, List.nil_append, nearer]
        by_cases near : nm last ≤ maxNm
        · rw [if_pos ⟨near, Or.inl (show (-1 : Int) < 0 by decide)⟩, decide_eq_true near]
          rfl
        · rw [if_neg fun both => near both.1, decide_eq_false near]
          rfl
      · have listed := List.mem_filter.mp (List.argmin_mem best)
        have isVertex := vertices v (List.mem_append_left _ listed.1)
        have within : nm v ≤ maxNm := of_decide_eq_true listed.2
        rw [nearer]
        by_cases closer : nm last < nm v
        · rw [if_pos ⟨closer.le, Or.inr closer⟩, decide_eq_true (closer.le.trans within), cond_true,
            List.argmin_concat, best]
          simp only [if_pos closer]
        · rw [if_neg fun both => both.2.elim (fun negative => absurd negative (Int.not_lt.mpr isVertex)) closer]
          by_cases near : nm last ≤ maxNm
          · rw [decide_eq_true near, cond_true, List.argmin_concat, best]
            simp only [if_neg closer]
          · rw [decide_eq_false near, cond_false, List.append_nil, best]

theorem nonneg_of_mem_keyedVertices {builder : GraphBuilder R} {key : FixedIdent} {v : Int}
    (member : v ∈ builder.keyedVertices key) : 0 ≤ v := by
  rcases List.mem_map.mp member with ⟨_, _, rfl⟩
  exact Int.natCast_nonneg _

/-- The vertex near a position is the nearest waypoint of the key within the
limit, and the first loaded of those as near. -/
theorem vertexNear_eq [LinearOrder R] [Zero R] (builder : GraphBuilder R) (earth : Geodesy R) (key : FixedIdent)
    (near : Coordinate R) (maxNm : R) :
    builder.vertexNear earth key near maxNm =
      (((builder.keyedVertices key).filter fun v => earth.distanceTo near (builder.graph.coordOf v) ≤ maxNm).argmin
        fun v => earth.distanceTo near (builder.graph.coordOf v)).getD (-1) := by
  have vertices : forall v, v ∈ builder.keyedVertices key -> 0 ≤ v := fun _ member => nonneg_of_mem_keyedVertices member
  have folded := foldl_nearer vertices (fun v => earth.distanceTo near (builder.graph.coordOf v)) maxNm
  rw [← map_identRange, List.foldl_map] at folded
  rw [vertexNear, ← map_identRange]
  refine (congrArg Prod.fst folded).trans ?_
  rcases List.argmin _ _ with _ | v <;> rfl

end GraphBuilder
end BravoFinder
