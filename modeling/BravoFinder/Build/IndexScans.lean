import BravoFinder.Build.NearestOnNetwork
import BravoFinder.Build.PackedIndex

namespace BravoFinder

/-!
# Index lookups are linear scans

What the sorted arrays give for a key is what reading every vertex in order would
give: waypoints for identifiers, airports for ICAO codes, the lowest vertex
first.
-/

namespace GraphBuilder

variable {R : Type}

/-- A waypoint with this identifier and region. -/
def WaypointOf (builder : GraphBuilder R) (ident : Ident) (v : Int) : Prop :=
  0 ≤ v ∧ v < builder.firstAirportVertex ∧ builder.identOf v = ident

/-- A waypoint with this identifier, in whatever region. -/
def WaypointNamed (builder : GraphBuilder R) (ident : Text) (v : Int) : Prop :=
  0 ≤ v ∧ v < builder.firstAirportVertex ∧ (builder.identOf v).ident = ident

/-- An airport with this ICAO code. -/
def AirportNamed (builder : GraphBuilder R) (icao : Text) (v : Int) : Prop :=
  builder.isAirport v = true ∧ (builder.identOf v).ident = icao

end GraphBuilder

section Entries

variable {K M : Type} [DecidableEq M] (pack : FixedIdent -> K) (mean : K -> M)

/-- The entries of an index in vertex order. -/
def entriesFrom (start : Nat) (fixeds : List FixedIdent) : List (K × Int) :=
  (fixeds.zipIdx start).map fun entry => (pack entry.1, (entry.2 : Int))

omit [DecidableEq M] in
theorem pairwise_entriesFrom (start : Nat) (fixeds : List FixedIdent) :
    ((entriesFrom pack start fixeds).map Prod.snd).Pairwise (· < ·) := by
  have vertices : (entriesFrom pack start fixeds).map Prod.snd =
      ((fixeds.zipIdx start).map Prod.snd).map fun position : Nat => (position : Int) := by
    rw [entriesFrom, List.map_map, List.map_map]
    rfl
  have ordered : (List.range' start fixeds.length).Pairwise (· < ·) := List.pairwise_lt_range'
  rw [vertices, List.zipIdx_map_snd, List.pairwise_map]
  exact ordered.imp Int.ofNat_lt.mpr

/-- The entries of a key are the positions at which it stands. -/
theorem lists_entriesFrom (start : Nat) (fixeds : List FixedIdent) (wanted : M) :
    Lists (fun v => exists index fixed, fixeds[index]? = some fixed ∧ mean (pack fixed) = wanted ∧
        v = ((start + index : Nat) : Int))
      (((entriesFrom pack start fixeds).filter fun entry => mean entry.1 = wanted).map Prod.snd) where
  mem_iff v := by
    rw [List.mem_map]
    constructor
    · rintro ⟨entry, member, rfl⟩
      rcases List.mem_filter.mp member with ⟨listed, isWanted⟩
      rcases List.mem_map.mp listed with ⟨⟨fixed, position⟩, inside, rfl⟩
      rcases List.mem_zipIdx_iff_le_and_getElem?_sub.mp inside with ⟨bound, found⟩
      exact ⟨position - start, fixed, found, of_decide_eq_true isWanted, by rw [Nat.add_sub_cancel' bound]⟩
    · rintro ⟨index, fixed, found, isWanted, rfl⟩
      refine ⟨(pack fixed, ((start + index : Nat) : Int)), List.mem_filter.mpr ⟨List.mem_map.mpr ?_, ?_⟩, rfl⟩
      · refine ⟨(fixed, start + index), List.mem_zipIdx_iff_le_and_getElem?_sub.mpr ⟨Nat.le_add_right _ _, ?_⟩, rfl⟩
        rw [Nat.add_sub_cancel_left]
        exact found
      · exact decide_eq_true isWanted
  ascending := by
    rw [List.pairwise_map]
    exact (List.pairwise_map.mp (pairwise_entriesFrom pack start fixeds)).filter _

end Entries

/-- Vertices of a kind under another name. -/
theorem Lists.congr {kind other : Int -> Prop} {vertices : List Int} (lists : Lists kind vertices)
    (same : forall v, kind v ↔ other v) : Lists other vertices :=
  ⟨fun v => (lists.mem_iff v).trans (same v), lists.ascending⟩

/-- Nothing is found where there is nothing. -/
theorem IsLowest.none {kind : Int -> Prop} (nothing : forall v, ¬ kind v) : IsLowest kind (-1) :=
  Or.inr ⟨rfl, nothing⟩

namespace GraphBuilder

variable {R : Type} {builder : GraphBuilder R} {indices : PackedIndices}

theorem identOf_natCast {index : Nat} {fixed : FixedIdent} (here : builder.idents[index]? = some fixed) :
    builder.identOf index = ⟨fixed.ident, fixed.arinc424IcaoCode⟩ := by
  rw [identOf, Int.toNat_natCast, here]

/-- A waypoint is a position before the airports. -/
theorem waypoint_iff (property : Ident -> Prop) (v : Int) :
    (exists index fixed, (builder.idents.take builder.firstAirportVertex)[index]? = some fixed ∧
      property ⟨fixed.ident, fixed.arinc424IcaoCode⟩ ∧ v = ((0 + index : Nat) : Int)) ↔
    0 ≤ v ∧ v < builder.firstAirportVertex ∧ property (builder.identOf v) := by
  constructor
  · rintro ⟨index, fixed, here, holds, rfl⟩
    rw [List.getElem?_take] at here
    split_ifs at here with bound
    rw [Nat.zero_add, identOf_natCast here]
    exact ⟨Int.natCast_nonneg _, Int.ofNat_lt.mpr bound, holds⟩
  · rintro ⟨nonneg, bound, holds⟩
    rcases Int.eq_ofNat_of_zero_le nonneg with ⟨index, rfl⟩
    have inside : index < builder.firstAirportVertex := Int.ofNat_lt.mp bound
    have present : index < builder.idents.length := by
      rw [builder.idents_length]
      exact inside.trans_le builder.firstAirportVertex_le
    have here := List.getElem?_eq_getElem present
    rw [identOf_natCast here] at holds
    exact ⟨index, _, by rw [List.getElem?_take, if_pos inside, here], holds, by rw [Nat.zero_add]⟩

/-- An airport is a position from the first airport on. -/
theorem airport_iff (property : Ident -> Prop) (v : Int) :
    (exists index fixed, (builder.idents.drop builder.firstAirportVertex)[index]? = some fixed ∧
      property ⟨fixed.ident, fixed.arinc424IcaoCode⟩ ∧
        v = ((builder.firstAirportVertex + index : Nat) : Int)) ↔
    builder.isAirport v = true ∧ property (builder.identOf v) := by
  rw [isAirport, decide_eq_true_iff, NavGraph.vertexCount]
  constructor
  · rintro ⟨index, fixed, here, holds, rfl⟩
    rw [List.getElem?_drop] at here
    have bound := (List.getElem?_eq_some_iff.mp here).1
    rw [builder.idents_length] at bound
    rw [identOf_natCast here]
    exact ⟨⟨by omega, by exact_mod_cast bound⟩, holds⟩
  · rintro ⟨⟨low, high⟩, holds⟩
    rcases Int.eq_ofNat_of_zero_le ((Int.natCast_nonneg _).trans low) with ⟨position, rfl⟩
    have start : builder.firstAirportVertex ≤ position := by exact_mod_cast low
    have present : position < builder.idents.length := by
      rw [builder.idents_length]
      exact_mod_cast high
    have here := List.getElem?_eq_getElem present
    rw [identOf_natCast here] at holds
    refine ⟨position - builder.firstAirportVertex, _, ?_, holds, by rw [Nat.add_sub_cancel' start]⟩
    rw [List.getElem?_drop, Nat.add_sub_cancel' start, here]

theorem eq_iff_fields {first second : FixedIdent} : first = second ↔
    (⟨first.ident, first.arinc424IcaoCode⟩ : Ident) = ⟨second.ident, second.arinc424IcaoCode⟩ := by
  cases first
  cases second
  rw [FixedIdent.mk.injEq, Ident.mk.injEq]

/-- The range of a stored key lists the waypoints with what it means. -/
theorem lists_identRange (indexes : builder.Indexes indices) (key : PackedIdent) :
    Lists (builder.WaypointOf ⟨key.toFixed.ident, key.toFixed.arinc424IcaoCode⟩)
      ((PackedIndex.range PackedIdent.less PackedIdent.equal indices.identIndex key).map Prod.snd) := by
  have ascending := pairwise_entriesFrom PackedIdent.ofFixed 0 (builder.idents.take builder.firstAirportVertex)
  rw [PackedIdent.means.map_range indexes.identIndex (ascending.imp Int.le_of_lt) key]
  refine (lists_entriesFrom PackedIdent.ofFixed PackedIdent.toFixed 0 _ key.toFixed).congr fun v => ?_
  rw [WaypointOf, ← waypoint_iff fun ident => ident = ⟨key.toFixed.ident, key.toFixed.arinc424IcaoCode⟩]
  simp only [PackedIdent.toFixed_ofFixed, eq_iff_fields]

theorem lists_nameRange (indexes : builder.Indexes indices) (key : PackedText 7) :
    Lists (builder.WaypointNamed key.view)
      ((PackedIndex.range PackedText.less PackedText.equal indices.identAll key).map Prod.snd) := by
  have ascending := pairwise_entriesFrom packedName 0 (builder.idents.take builder.firstAirportVertex)
  rw [(PackedText.means 7).map_range indexes.identAll (ascending.imp Int.le_of_lt) key]
  refine (lists_entriesFrom packedName PackedText.view 0 _ key.view).congr fun v => ?_
  rw [WaypointNamed, ← waypoint_iff fun ident => ident.ident = key.view]
  simp only [packedName, PackedText.view_pack]

theorem lists_airportRange (indexes : builder.Indexes indices) (key : PackedText 7) :
    Lists (builder.AirportNamed key.view)
      ((PackedIndex.range PackedText.less PackedText.equal indices.airportIndex key).map Prod.snd) := by
  have ascending := pairwise_entriesFrom packedName builder.firstAirportVertex
    (builder.idents.drop builder.firstAirportVertex)
  rw [(PackedText.means 7).map_range indexes.airportIndex (ascending.imp Int.le_of_lt) key]
  refine (lists_entriesFrom packedName PackedText.view _ _ key.view).congr fun v => ?_
  rw [AirportNamed, ← airport_iff fun ident => ident.ident = key.view]
  simp only [packedName, PackedText.view_pack]

/-! ### The lookups -/

theorem isLowest_vertexByKey (indexes : builder.Indexes indices) (key : PackedIdent) :
    IsLowest (builder.WaypointOf ⟨key.toFixed.ident, key.toFixed.arinc424IcaoCode⟩)
      (indices.vertexByKey key) := by
  rw [PackedIndices.vertexByKey, PackedIndex.first_eq]
  exact (lists_identRange indexes key).isLowest_head?

/-- No vertex has an identifier that is too long to be stored. -/
theorem fits_identOf (builder : GraphBuilder R) (v : Int) :
    (builder.identOf v).ident.length ≤ 7 ∧ (builder.identOf v).arinc424IcaoCode.length ≤ 3 := by
  rw [identOf]
  split
  · exact ⟨Nat.zero_le _, Nat.zero_le _⟩
  · rename_i fixed _
    exact ⟨fixed.ident_length, fixed.arinc424IcaoCode_length⟩

theorem isLowest_vertexByIdent (indexes : builder.Indexes indices) (ident : Ident) :
    IsLowest (builder.WaypointOf ident) (indices.vertexByIdent ident) := by
  rw [PackedIndices.vertexByIdent]
  rcases packed : FixedIdent.fromIdent ident with error | key
  · refine IsLowest.none fun v waypoint => ?_
    rcases builder.fits_identOf v with ⟨identFits, codeFits⟩
    rw [waypoint.2.2] at identFits codeFits
    rw [FixedIdent.fromIdent, FixedIdent.fromParts, dif_pos identFits, dif_pos codeFits] at packed
    cases packed
  · rcases FixedIdent.parts_of_fromParts packed with ⟨same, sameCode⟩
    have lowest := isLowest_vertexByKey indexes (PackedIdent.ofFixed key)
    rw [PackedIdent.toFixed_ofFixed, same, sameCode] at lowest
    exact lowest

theorem lists_verticesByIdent (indexes : builder.Indexes indices) (ident : Text) :
    Lists (builder.WaypointNamed ident) (indices.verticesByIdent ident) := by
  rw [PackedIndices.verticesByIdent]
  rcases packed : FixedName8.ofText ident with error | key
  · refine ⟨fun v => iff_of_false List.not_mem_nil fun waypoint => ?_, List.Pairwise.nil⟩
    have fits := (builder.fits_identOf v).1
    rw [waypoint.2.2] at fits
    rw [FixedName8.ofText, dif_pos fits] at packed
    cases packed
  · have listed := lists_nameRange indexes (PackedText.pack key.text key.text_length PackedText.narrow_seven)
    rw [PackedText.view_pack] at listed
    cases FixedName8.text_of_ofText packed
    exact listed

theorem isLowest_vertexByAirport (indexes : builder.Indexes indices) (icao : Text) :
    IsLowest (builder.AirportNamed icao) (indices.vertexByAirport icao) := by
  rw [PackedIndices.vertexByAirport]
  rcases packed : FixedName8.ofText icao with error | key
  · refine IsLowest.none fun v airport => ?_
    have fits := (builder.fits_identOf v).1
    rw [airport.2] at fits
    rw [FixedName8.ofText, dif_pos fits] at packed
    cases packed
  · have listed := lists_airportRange indexes (PackedText.pack key.text key.text_length PackedText.narrow_seven)
    rw [PackedText.view_pack] at listed
    cases FixedName8.text_of_ofText packed
    show IsLowest _ (PackedIndex.first _ _ _ _)
    rw [PackedIndex.first_eq]
    exact listed.isLowest_head?

theorem isNearest_vertexNear [LinearOrder R] [Zero R] (indexes : builder.Indexes indices) (earth : Geodesy R)
    (key : PackedIdent) (near : Coordinate R) (maxNm : R) :
    IsNearest (builder.WaypointOf ⟨key.toFixed.ident, key.toFixed.arinc424IcaoCode⟩)
      (fun v => earth.distanceTo near (builder.graph.coordOf v)) maxNm
      (indices.vertexNear builder.graph earth key near maxNm) := by
  have listed := lists_identRange indexes key
  have vertices : forall v, v ∈ (PackedIndex.range PackedIdent.less PackedIdent.equal indices.identIndex key).map
      Prod.snd -> 0 ≤ v := fun v member => ((listed.mem_iff v).mp member).1
  have folded := foldl_nearer vertices (fun v => earth.distanceTo near (builder.graph.coordOf v)) maxNm
  have nearest := listed.isNearest_argmin (fun v => earth.distanceTo near (builder.graph.coordOf v)) maxNm
  rw [List.foldl_map] at folded
  have found : indices.vertexNear builder.graph earth key near maxNm = _ := congrArg Prod.fst folded
  rw [found]
  rcases best : List.argmin _ _ with _ | v
  · rw [best] at nearest
    exact nearest
  · rw [best] at nearest
    exact nearest

end GraphBuilder

/-- A kind has one list. -/
theorem Lists.unique {kind : Int -> Prop} {first second : List Int} (lists : Lists kind first)
    (others : Lists kind second) : first = second := by
  have agree : forall v u : Int, v ∈ first -> u ∈ second -> v < u -> u < v -> v = u :=
    fun _ _ _ _ below above => absurd above (Int.lt_asymm below)
  exact List.Perm.eq_of_pairwise agree lists.ascending others.ascending
    ((List.perm_ext_iff_of_nodup (lists.ascending.imp ne_of_lt) (others.ascending.imp ne_of_lt)).mpr
      fun v => (lists.mem_iff v).trans (others.mem_iff v).symm)

/-! ### The lookups of the builder -/

namespace GraphBuilder

variable {R : Type} {builder : GraphBuilder R} {indices : PackedIndices}

theorem lists_keyedVertices (builder : GraphBuilder R) (key : FixedIdent) :
    Lists (builder.WaypointOf ⟨key.ident, key.arinc424IcaoCode⟩) (builder.keyedVertices key) := by
  have plain := lists_entriesFrom id id 0 (builder.idents.take builder.firstAirportVertex) key
  rw [entriesFrom, List.filter_map, List.map_map] at plain
  refine plain.congr fun v => ?_
  rw [WaypointOf, ← waypoint_iff fun ident => ident = ⟨key.ident, key.arinc424IcaoCode⟩]
  simp only [id_eq, eq_iff_fields]

/-- The arrays list the waypoints of a key that the builder lists. -/
theorem map_range_eq_keyedVertices (indexes : builder.Indexes indices) (key : FixedIdent) :
    (PackedIndex.range PackedIdent.less PackedIdent.equal indices.identIndex (PackedIdent.ofFixed key)).map
      Prod.snd = builder.keyedVertices key := by
  have packed := lists_identRange indexes (PackedIdent.ofFixed key)
  rw [PackedIdent.toFixed_ofFixed] at packed
  exact packed.unique (builder.lists_keyedVertices key)

theorem vertexByKey_eq (indexes : builder.Indexes indices) (key : FixedIdent) :
    indices.vertexByKey (PackedIdent.ofFixed key) = builder.vertexByIdent key := by
  rw [PackedIndices.vertexByKey, PackedIndex.first_eq, map_range_eq_keyedVertices indexes, vertexByIdent_eq]

theorem vertexNear_packed_eq [LinearOrder R] [Zero R] (indexes : builder.Indexes indices) (earth : Geodesy R)
    (key : FixedIdent) (near : Coordinate R) (maxNm : R) :
    indices.vertexNear builder.graph earth (PackedIdent.ofFixed key) near maxNm =
      builder.vertexNear earth key near maxNm := by
  have packed : indices.vertexNear builder.graph earth (PackedIdent.ofFixed key) near maxNm =
      (((PackedIndex.range PackedIdent.less PackedIdent.equal indices.identIndex
        (PackedIdent.ofFixed key)).map Prod.snd).foldl
        (nearer fun v => earth.distanceTo near (builder.graph.coordOf v)) (-1, maxNm)).1 := by
    rw [List.foldl_map]
    rfl
  have plain : builder.vertexNear earth key near maxNm = (((builder.identRange key).map Prod.snd).foldl
      (nearer fun v => earth.distanceTo near (builder.graph.coordOf v)) (-1, maxNm)).1 := by
    rw [List.foldl_map]
    rfl
  rw [packed, plain, map_range_eq_keyedVertices indexes, map_identRange]

/-- The names of the builder's own indices. -/
theorem means_fixedName8 :
    PackedIndex.Means (fun first second : FixedName8 => decide (first.text < second.text))
      (fun first second => first == second) FixedName8.text (· < ·) where
  less_iff := decide_eq_true_iff
  equal_iff {first second} := by
    cases first
    cases second
    rw [beq_iff_eq, FixedName8.mk.injEq]

theorem byKey_eq_byName (first second : FixedName8 × Int) :
    PackedIndex.byKey (fun left right => decide (left.text < right.text)) first second = byName first second := by
  simp only [PackedIndex.byKey, byName, decide_eq_true_iff]

theorem sorts_nameIndex (start : Nat) (fixeds : List FixedIdent) :
    PackedIndex.Sorts (fun first second : FixedName8 => decide (first.text < second.text))
      (entriesFrom FixedIdent.name start fixeds) (nameIndex fixeds start) := by
  have sorts := means_fixedName8.sorts_insertionSort (entriesFrom FixedIdent.name start fixeds)
  simp only [byKey_eq_byName] at sorts
  exact sorts

/-- A sorted index of names lists the positions of a name. -/
theorem lists_nameIndex (start : Nat) (fixeds : List FixedIdent) (key : FixedName8) :
    Lists (fun v => exists index fixed, fixeds[index]? = some fixed ∧ fixed.name.text = key.text ∧
        v = ((start + index : Nat) : Int)) ((nameRange (nameIndex fixeds start) key).map Prod.snd) := by
  have sorts := sorts_nameIndex start fixeds
  have ascending := pairwise_entriesFrom FixedIdent.name start fixeds
  have read := means_fixedName8.map_range sorts (ascending.imp Int.le_of_lt) key
  rw [means_fixedName8.range_eq_dropWhile sorts] at read
  exact read ▸ lists_entriesFrom FixedIdent.name FixedName8.text start fixeds key.text

theorem verticesByIdent_packed_eq (indexes : builder.Indexes indices) (ident : Text) :
    indices.verticesByIdent ident = builder.verticesByIdent ident := by
  have packed := lists_verticesByIdent indexes ident
  unfold PackedIndices.verticesByIdent verticesByIdent at *
  rcases found : FixedName8.ofText ident with error | key
  · rfl
  · rw [found] at packed
    refine packed.unique ((lists_nameIndex 0 _ key).congr fun v => ?_)
    cases FixedName8.text_of_ofText found
    rw [WaypointNamed, ← waypoint_iff fun ident => ident.ident = key.text]
    rfl

theorem vertexByAirport_packed_eq (indexes : builder.Indexes indices) (icao : Text) :
    indices.vertexByAirport icao = builder.vertexByAirport icao := by
  unfold PackedIndices.vertexByAirport vertexByAirport
  rcases found : FixedName8.ofText icao with error | key
  · rfl
  · have packed := lists_airportRange indexes (PackedText.pack key.text key.text_length PackedText.narrow_seven)
    rw [PackedText.view_pack] at packed
    have same := packed.unique ((lists_nameIndex builder.firstAirportVertex
      (builder.idents.drop builder.firstAirportVertex) key).congr fun v => by
        rw [AirportNamed, ← airport_iff fun ident => ident.ident = key.text]
        rfl)
    dsimp only
    rw [PackedIndex.first_eq, same, airportIndex]
    rcases nameRange _ key with _ | ⟨entry, rest⟩ <;> rfl

end GraphBuilder

/-! ## Comparison and lookup -/

/-- A strict comparison with an equality: exactly one of less, equal and greater. -/
structure StrictlyOrders {K : Type} (less equal : K -> K -> Bool) : Prop where
  irrefl : forall {a b}, equal a b = true -> ¬ less a b = true
  trans : forall {a b c}, less a b = true -> less b c = true -> less a c = true
  total : forall {a b}, less a b = true ∨ equal a b = true ∨ less b a = true

theorem PackedIndex.Means.strictlyOrders {K M : Type} {less equal : K -> K -> Bool} {mean : K -> M}
    {before : M -> M -> Prop} [IsStrictTotalOrder M before] (means : PackedIndex.Means less equal mean before) :
    StrictlyOrders less equal where
  irrefl same step := SortedIndex.irrefl _
    (means.equal_iff.mp same ▸ means.less_iff.mp step)
  trans step next := means.less_iff.mpr
    (IsTrans.trans (r := before) _ _ _ (means.less_iff.mp step) (means.less_iff.mp next))
  total {a b} := by
    rw [means.less_iff, means.less_iff, means.equal_iff]
    by_cases forwards : before (mean a) (mean b)
    · exact Or.inl forwards
    · by_cases backwards : before (mean b) (mean a)
      · exact Or.inr (Or.inr backwards)
      · exact Or.inr (Or.inl (SortedIndex.eq_of_not_before forwards backwards))

/-- Stored keys are in the order of the texts they hold, and a lookup over the
sorted arrays gives what a scan of the vertices gives. -/
theorem lookups_eq_scans {R : Type} [LinearOrder R] [Zero R] {builder : GraphBuilder R} {indices : PackedIndices}
    (indexes : builder.Indexes indices) :
    (StrictlyOrders PackedIdent.less PackedIdent.equal ∧
      (forall first second : PackedIdent,
        (first.equal second = true ↔ first.ident.view = second.ident.view ∧
          first.arinc424IcaoCode.view = second.arinc424IcaoCode.view) ∧
        (first.less second = true ↔ Prod.Lex (· < ·) (· < ·)
          (first.ident.view, first.arinc424IcaoCode.view) (second.ident.view, second.arinc424IcaoCode.view))) ∧
      (forall fixed : FixedIdent, (PackedIdent.ofFixed fixed).toFixed = fixed)) ∧
    (forall cap : Nat, StrictlyOrders (@PackedText.less cap) PackedText.equal ∧
      (forall first second : PackedText cap, (first.equal second = true ↔ first.view = second.view) ∧
        (first.less second = true ↔ first.view < second.view)) ∧
      (forall (s : Text) (fits : s.length ≤ cap) (narrow : cap < 256), (PackedText.pack s fits narrow).view = s)) ∧
    (forall ident, IsLowest (builder.WaypointOf ident) (indices.vertexByIdent ident)) ∧
    (forall ident, Lists (builder.WaypointNamed ident) (indices.verticesByIdent ident)) ∧
    (forall icao, IsLowest (builder.AirportNamed icao) (indices.vertexByAirport icao)) ∧
    (forall (earth : Geodesy R) (key : PackedIdent) (near : Coordinate R) (maxNm : R),
      IsNearest (builder.WaypointOf ⟨key.ident.view, key.arinc424IcaoCode.view⟩)
        (fun v => earth.distanceTo near (builder.graph.coordOf v)) maxNm
        (indices.vertexNear builder.graph earth key near maxNm)) := by
  refine ⟨⟨PackedIdent.means.strictlyOrders, fun first second => ⟨?_, ?_⟩, PackedIdent.toFixed_ofFixed⟩,
    fun cap => ⟨(PackedText.means cap).strictlyOrders,
      fun _ _ => ⟨PackedText.equal_iff, PackedText.less_iff⟩, PackedText.view_pack⟩,
    GraphBuilder.isLowest_vertexByIdent indexes, GraphBuilder.lists_verticesByIdent indexes,
    GraphBuilder.isLowest_vertexByAirport indexes, GraphBuilder.isNearest_vertexNear indexes⟩
  · rw [PackedIdent.equal_iff, GraphBuilder.eq_iff_fields, Ident.mk.injEq]
    rfl
  · exact PackedIdent.less_iff.trans FixedIdent.before_iff

/-- The arrays of the two fixes on a meridian. -/
def meridianIndices : PackedIndices where
  identIndex := [(PackedIdent.ofFixed waypointB, 0), (PackedIdent.ofFixed waypointC, 1)]
  identAll := [(GraphBuilder.packedName waypointB, 0), (GraphBuilder.packedName waypointC, 1)]
  airportIndex := []

theorem lookups_eq_scans_meridian :
    IsLowest (meridianBuilder.WaypointOf ⟨waypointC.ident, waypointC.arinc424IcaoCode⟩)
      (meridianIndices.vertexByIdent ⟨waypointC.ident, waypointC.arinc424IcaoCode⟩) := by
  have indexes : meridianBuilder.Indexes meridianIndices :=
    ⟨⟨List.Perm.refl _, by decide⟩, ⟨List.Perm.refl _, by decide⟩, ⟨List.Perm.refl _, by decide⟩⟩
  exact (lookups_eq_scans indexes).2.2.1 _

end BravoFinder
