import BravoFinder.Build.KeyedVertices
import BravoFinder.Build.NameLookup
import BravoFinder.Core.PackedIdent
import BravoFinder.Library.BinarySearch

namespace BravoFinder

/-!
# The lookup indices as they are stored

`RebuildIndices` fills three arrays of stored keys with their vertices and sorts
them by key and vertex, with a sort that may be any.  A lookup packs its key,
searches by halving and reads on while the key is the same.
-/

namespace PackedIndex

variable {K : Type}

/-- `by_key`. -/
def byKey (less : K -> K -> Bool) (first second : K × Int) : Bool :=
  if less first.1 second.1 then true
  else if less second.1 first.1 then false
  else decide (first.2 < second.2)

/-- What `std::sort` leaves: the same entries, none after one that it comes before. -/
structure Sorts (less : K -> K -> Bool) (entries index : List (K × Int)) : Prop where
  perm : List.Perm index entries
  sorted : index.Pairwise fun first second => ¬ byKey less second first = true

/-- The entries from `std::lower_bound` on, while the key is the same. -/
def range (less equal : K -> K -> Bool) (index : List (K × Int)) (key : K) : List (K × Int) :=
  (index.drop (BinarySearch.lowerBound (fun entry => less entry.1 key) index)).takeWhile fun entry =>
    equal entry.1 key

/-- The vertex of the entry at `std::lower_bound`, when it has the key. -/
def first (less equal : K -> K -> Bool) (index : List (K × Int)) (key : K) : Int :=
  (((index[BinarySearch.lowerBound (fun entry => less entry.1 key) index]?).filter fun entry =>
    equal entry.1 key).map Prod.snd).getD (-1)

end PackedIndex

/-- The three arrays of a builder. -/
structure PackedIndices where
  identIndex : List (PackedIdent × Int)
  identAll : List (PackedText 7 × Int)
  airportIndex : List (PackedText 7 × Int)

namespace GraphBuilder

variable {R : Type}

/-- `FixedName8::From(idents_[i].IdentView())`. -/
def packedName (fixed : FixedIdent) : PackedText 7 :=
  PackedText.pack fixed.ident fixed.ident_length PackedText.narrow_seven

/-- `RebuildIndices`, with the sort left open. -/
structure Indexes (builder : GraphBuilder R) (indices : PackedIndices) : Prop where
  identIndex : PackedIndex.Sorts PackedIdent.less
    ((builder.idents.take builder.firstAirportVertex).zipIdx.map fun entry =>
      (PackedIdent.ofFixed entry.1, (entry.2 : Int))) indices.identIndex
  identAll : PackedIndex.Sorts PackedText.less
    ((builder.idents.take builder.firstAirportVertex).zipIdx.map fun entry =>
      (packedName entry.1, (entry.2 : Int))) indices.identAll
  airportIndex : PackedIndex.Sorts PackedText.less
    (((builder.idents.drop builder.firstAirportVertex).zipIdx builder.firstAirportVertex).map fun entry =>
      (packedName entry.1, (entry.2 : Int))) indices.airportIndex

end GraphBuilder

namespace PackedIndices

/-- `VertexByIdent` of a stored key. -/
def vertexByKey (indices : PackedIndices) (key : PackedIdent) : Int :=
  PackedIndex.first PackedIdent.less PackedIdent.equal indices.identIndex key

/-- `VertexByIdent`. -/
def vertexByIdent (indices : PackedIndices) (ident : Ident) : Int :=
  match FixedIdent.fromIdent ident with
  | .error _ => -1
  | .ok key => indices.vertexByKey (PackedIdent.ofFixed key)

/-- `VerticesByIdent`. -/
def verticesByIdent (indices : PackedIndices) (ident : Text) : List Int :=
  match FixedName8.ofText ident with
  | .error _ => []
  | .ok key => (PackedIndex.range PackedText.less PackedText.equal indices.identAll
      (PackedText.pack key.text key.text_length PackedText.narrow_seven)).map Prod.snd

/-- `VertexByAirport`. -/
def vertexByAirport (indices : PackedIndices) (icao : Text) : Int :=
  match FixedName8.ofText icao with
  | .error _ => -1
  | .ok key => PackedIndex.first PackedText.less PackedText.equal indices.airportIndex
      (PackedText.pack key.text key.text_length PackedText.narrow_seven)

/-- `VertexNear`. -/
def vertexNear {R : Type} [LinearOrder R] [Zero R] (indices : PackedIndices) (graph : NavGraph R R)
    (earth : Geodesy R) (key : PackedIdent) (near : Coordinate R) (maxNm : R) : Int :=
  ((PackedIndex.range PackedIdent.less PackedIdent.equal indices.identIndex key).foldl (fun best entry =>
    let nm := earth.distanceTo near (graph.coordOf entry.2)
    if nm ≤ best.2 ∧ (best.1 < 0 ∨ nm < best.2) then (entry.2, nm) else best) (-1, maxNm)).1

end PackedIndices
/-! ## A range is the entries of the key -/

namespace PackedIndex

variable {K M : Type}

/-- Stored keys are compared as what they mean is. -/
structure Means (less equal : K -> K -> Bool) (mean : K -> M) (before : M -> M -> Prop) : Prop where
  less_iff : forall {a b}, less a b = true ↔ before (mean a) (mean b)
  equal_iff : forall {a b}, equal a b = true ↔ mean a = mean b

variable {less equal : K -> K -> Bool} {mean : K -> M} {before : M -> M -> Prop} [IsStrictTotalOrder M before]
  {entries index : List (K × Int)}

theorem Means.byKey_iff (means : Means less equal mean before) {first second : K × Int} :
    byKey less first second = true ↔
      before (mean first.1) (mean second.1) ∨ mean first.1 = mean second.1 ∧ first.2 < second.2 := by
  rw [byKey]
  split_ifs with forwards backwards
  · exact iff_of_true rfl (Or.inl (means.less_iff.mp forwards))
  · rw [means.less_iff] at forwards backwards
    refine iff_of_false (by decide) ?_
    rintro (step | ⟨same, _⟩)
    · exact forwards step
    · exact SortedIndex.irrefl _ (same ▸ backwards)
  · rw [means.less_iff] at forwards backwards
    rw [decide_eq_true_iff, or_iff_right forwards,
      and_iff_right (SortedIndex.eq_of_not_before forwards backwards)]

theorem Sorts.byMeaning (sorts : Sorts less entries index) (means : Means less equal mean before) :
    SortedIndex.Sorted (fun entry => mean entry.1) before index :=
  sorts.sorted.imp fun apart step => apart (means.byKey_iff.mpr (Or.inl step))

/-- Insertion sort is one such sort. -/
theorem Means.sorts_insertionSort (means : Means less equal mean before) (entries : List (K × Int)) :
    Sorts less entries (entries.insertionSort fun first second => byKey less first second) := by
  have _trans : IsTrans (K × Int) fun first second => byKey less first second = true := by
    refine ⟨fun first second third step next => means.byKey_iff.mpr ?_⟩
    rcases means.byKey_iff.mp step with less | ⟨same, less⟩
    · rcases means.byKey_iff.mp next with nextLess | ⟨nextSame, -⟩
      · exact Or.inl (IsTrans.trans _ _ _ less nextLess)
      · exact Or.inl (nextSame ▸ less)
    · rcases means.byKey_iff.mp next with nextLess | ⟨nextSame, nextVertex⟩
      · exact Or.inl (same ▸ nextLess)
      · exact Or.inr ⟨same.trans nextSame, less.trans nextVertex⟩
  have _irrefl : Std.Irrefl fun first second : K × Int => byKey less first second = true := by
    refine ⟨fun entry step => ?_⟩
    rcases means.byKey_iff.mp step with less | ⟨-, less⟩
    · exact SortedIndex.irrefl _ less
    · exact Int.lt_irrefl _ less
  exact ⟨List.perm_insertionSort _ _, SortedIndex.pairwise_insertionSort _⟩

omit [IsStrictTotalOrder M before] in
theorem Means.below_eq (means : Means less equal mean before) [DecidableRel before] (key : K) :
    (fun entry : K × Int => less entry.1 key) = fun entry => decide (before (mean entry.1) (mean key)) := by
  funext entry
  rw [Bool.eq_iff_iff, decide_eq_true_iff]
  exact means.less_iff

/-- The halving search skips what a search from the front would skip. -/
theorem Means.range_eq_dropWhile (means : Means less equal mean before) (sorts : Sorts less entries index)
    (key : K) : range less equal index key =
      (index.dropWhile fun entry => less entry.1 key).takeWhile fun entry => equal entry.1 key := by
  classical
  rw [range, means.below_eq key,
    BinarySearch.drop_lowerBound (BinarySearch.partitioned_of_sorted (sorts.byMeaning means) (mean key))]

variable [DecidableEq M]

theorem Means.range_eq_filter (means : Means less equal mean before) (sorts : Sorts less entries index) (key : K) :
    range less equal index key = index.filter fun entry => equal entry.1 key := by
  classical
  have same : (fun entry : K × Int => equal entry.1 key) = fun entry => mean entry.1 == mean key := by
    funext entry
    rw [Bool.eq_iff_iff, beq_iff_eq]
    exact means.equal_iff
  rw [means.range_eq_dropWhile sorts, means.below_eq key, same]
  exact SortedIndex.takeWhile_lowerBound (sorts.byMeaning means) (mean key)

/-- The vertices read for a key are those of its entries, in ascending order. -/
theorem Means.map_range (means : Means less equal mean before) (sorts : Sorts less entries index)
    (ascending : (entries.map Prod.snd).Pairwise (· ≤ ·)) (key : K) :
    (range less equal index key).map Prod.snd =
      (entries.filter fun entry => mean entry.1 = mean key).map Prod.snd := by
  have same : (fun entry : K × Int => equal entry.1 key) = fun entry => decide (mean entry.1 = mean key) := by
    funext entry
    rw [Bool.eq_iff_iff, decide_eq_true_iff]
    exact means.equal_iff
  rw [means.range_eq_filter sorts, same]
  refine ((sorts.perm.filter _).map _).eq_of_pairwise (fun _ _ _ _ => Int.le_antisymm) ?_ ?_
  · rw [List.pairwise_map, List.pairwise_filter]
    refine sorts.sorted.imp fun apart isKey alsoKey => ?_
    have keyed := of_decide_eq_true isKey
    have alsoKeyed := of_decide_eq_true alsoKey
    exact Int.not_lt.mp fun step => apart (means.byKey_iff.mpr (Or.inr ⟨alsoKeyed.trans keyed.symm, step⟩))
  · exact (List.pairwise_map.mp ascending).filter _ |> List.pairwise_map.mpr

omit [IsStrictTotalOrder M before] [DecidableEq M] in
/-- The entry at the lower bound is the first of the range. -/
theorem first_eq (index : List (K × Int)) (key : K) :
    first less equal index key = ((range less equal index key).map Prod.snd).head?.getD (-1) := by
  rw [first, range, List.head?_map, List.head?_takeWhile, List.head?_drop]

end PackedIndex

theorem PackedIdent.means :
    PackedIndex.Means PackedIdent.less PackedIdent.equal PackedIdent.toFixed fun first second =>
      first.before second = true where
  less_iff := PackedIdent.less_iff
  equal_iff := PackedIdent.equal_iff

theorem PackedText.means (cap : Nat) :
    PackedIndex.Means (@PackedText.less cap) PackedText.equal PackedText.view (· < ·) where
  less_iff := PackedText.less_iff
  equal_iff := PackedText.equal_iff

/-! ## Scans -/

/-- The lowest vertex of a kind, or `-1` when there is none. -/
def IsLowest (kind : Int -> Prop) (v : Int) : Prop :=
  kind v ∧ (forall other, kind other -> v ≤ other) ∨ v = -1 ∧ forall other, ¬ kind other

/-- The nearest vertex of a kind within a distance, the lowest of those as near,
or `-1` when there is none. -/
def IsNearest {R : Type} [LinearOrder R] (kind : Int -> Prop) (nm : Int -> R) (maxNm : R) (v : Int) : Prop :=
  kind v ∧ nm v ≤ maxNm ∧ (forall other, kind other -> nm v < nm other ∨ nm v = nm other ∧ v ≤ other) ∨
    v = -1 ∧ forall other, kind other -> ¬ nm other ≤ maxNm

/-- A list of all the vertices of a kind in ascending order. -/
structure Lists (kind : Int -> Prop) (vertices : List Int) : Prop where
  mem_iff : forall v, v ∈ vertices ↔ kind v
  ascending : vertices.Pairwise (· < ·)

namespace Lists

variable {kind : Int -> Prop} {vertices : List Int}

theorem isLowest_head? (lists : Lists kind vertices) : IsLowest kind (vertices.head?.getD (-1)) := by
  rcases vertices with _ | ⟨v, rest⟩
  · exact Or.inr ⟨rfl, fun other isKind => List.not_mem_nil ((lists.mem_iff other).mpr isKind)⟩
  · refine Or.inl ⟨(lists.mem_iff v).mp List.mem_cons_self, fun other isKind => ?_⟩
    rcases List.mem_cons.mp ((lists.mem_iff other).mpr isKind) with rfl | later
    · exact le_rfl
    · exact ((List.pairwise_cons.mp lists.ascending).1 other later).le

/-- What stands earlier in an ascending list is lower. -/
theorem le_of_idxOf_le {vertices : List Int} (ascending : vertices.Pairwise (· < ·)) {v other : Int}
    (listed : v ∈ vertices) (otherListed : other ∈ vertices) (earlier : vertices.idxOf v ≤ vertices.idxOf other) :
    v ≤ other := by
  have bound := List.idxOf_lt_length_of_mem listed
  have otherBound := List.idxOf_lt_length_of_mem otherListed
  have here : vertices[vertices.idxOf v] = v := List.getElem_idxOf bound
  have there : vertices[vertices.idxOf other] = other := List.getElem_idxOf otherBound
  rcases Nat.lt_or_eq_of_le earlier with before | same
  · have step := List.pairwise_iff_getElem.mp ascending _ _ bound otherBound before
    rw [here, there] at step
    exact step.le
  · exact le_of_eq (here.symm.trans (by simp only [same, there]))

theorem isNearest_argmin {R : Type} [LinearOrder R] (lists : Lists kind vertices) (nm : Int -> R) (maxNm : R) :
    IsNearest kind nm maxNm (((vertices.filter fun v => nm v ≤ maxNm).argmin nm).getD (-1)) := by
  rcases best : (vertices.filter fun v => nm v ≤ maxNm).argmin nm with _ | v
  · refine Or.inr ⟨rfl, fun other isKind near => ?_⟩
    have member : other ∈ vertices.filter fun v => nm v ≤ maxNm :=
      List.mem_filter.mpr ⟨(lists.mem_iff other).mpr isKind, decide_eq_true near⟩
    rw [List.argmin_eq_none.mp best] at member
    cases member
  · rcases List.argmin_eq_some_iff.mp best with ⟨member, least, earliest⟩
    rcases List.mem_filter.mp member with ⟨listed, near⟩
    have within : nm v ≤ maxNm := of_decide_eq_true near
    refine Or.inl ⟨(lists.mem_iff v).mp listed, within, fun other isKind => ?_⟩
    rcases lt_or_ge (nm v) (nm other) with closer | asNear
    · exact Or.inl closer
    · have otherMember : other ∈ vertices.filter fun v => nm v ≤ maxNm :=
        List.mem_filter.mpr ⟨(lists.mem_iff other).mpr isKind, decide_eq_true (asNear.trans within)⟩
      exact Or.inr ⟨le_antisymm (least other otherMember) asNear,
        le_of_idxOf_le (lists.ascending.filter _) member otherMember (earliest other otherMember asNear)⟩

end Lists
end BravoFinder
