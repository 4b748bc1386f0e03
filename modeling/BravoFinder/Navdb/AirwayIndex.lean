import BravoFinder.Build.NameLookup
import BravoFinder.Cache.GraphSnapshot
import BravoFinder.Constraints.AirwayRule
import BravoFinder.Core.Decimal
import BravoFinder.Library.KeyedMerge
import BravoFinder.Library.SortedIndex
import BravoFinder.Routing.RouteString

namespace BravoFinder

/-!
# Airways by designator

The index lists, under each designator, the directed legs of the edges that carry
it.  A leg that is already listed is left out, and two legs count as one when
their keys agree.  A key is made of both identifiers, the level and the flight
levels, so it says nothing of the length of a leg, nor of the regions of its ends.
-/

/-- A directed segment of an airway. -/
structure AirwayLeg (R : Type) where
  «from» : FixedName8
  «to» : FixedName8
  distanceNm : R
  level : AirwayLevel
  baseFl : Int
  topFl : Int
deriving DecidableEq

/-- An airway as its directed segments. -/
structure AirwayInfo (R : Type) where
  name : Text
  segments : List (AirwayLeg R)
deriving DecidableEq

/-- `leg_key`. -/
def legKey {R : Type} (l : AirwayLeg R) : Text :=
  l.from.text ++ [0] ++ l.to.text ++ [l.level.toByte] ++ toStringInt l.baseFl ++ [0] ++ toStringInt l.topFl

/-! ## What a key tells -/

/-- A text is split at its last character of another kind than the rest. -/
theorem split_at_last {A : Type} {kind : A -> Prop} {before before' after after' : List A} {x x' : A}
    (same : before ++ x :: after = before' ++ x' :: after') (inKind : forall c, c ∈ after -> kind c)
    (inKind' : forall c, c ∈ after' -> kind c) (other : ¬ kind x) (other' : ¬ kind x') :
    before = before' ∧ x = x' ∧ after = after' := by
  rcases List.append_eq_append_iff.mp same with ⟨middle, whole, rest⟩ | ⟨middle, whole, rest⟩
  · cases middle with
    | nil => exact ⟨by rw [whole, List.append_nil], List.cons.inj rest⟩
    | cons first middle =>
        rw [List.cons_append, List.cons.injEq] at rest
        exact absurd (inKind x' (rest.2 ▸ List.mem_append_right _ List.mem_cons_self)) other'
  · cases middle with
    | nil => exact ⟨by rw [whole, List.append_nil], (List.cons.inj rest).imp Eq.symm Eq.symm⟩
    | cons first middle =>
        rw [List.cons_append, List.cons.injEq] at rest
        exact absurd (inKind' x (rest.2 ▸ List.mem_append_right _ List.mem_cons_self)) other

theorem AirwayLevel.toByte_injective : Function.Injective AirwayLevel.toByte := by
  intro first second same
  cases first <;> cases second <;> first | rfl | exact absurd same (by decide)

/-- No number has a byte of a level in it, nor a NUL. -/
theorem AirwayLevel.toByte_lt (level : AirwayLevel) : ¬ (45 : UInt8) ≤ level.toByte := by
  cases level <;> decide

/-- Both ends of a leg as its key has them, and nothing else of it. -/
def AirwayLeg.joinedEnds {R : Type} (l : AirwayLeg R) : Text :=
  l.from.text ++ [0] ++ l.to.text

/-- Keys agree exactly when the joined ends and the other fields but the length do. -/
theorem legKey_eq_iff {R : Type} {first second : AirwayLeg R} :
    legKey first = legKey second ↔
      first.joinedEnds = second.joinedEnds ∧ first.level = second.level ∧ first.baseFl = second.baseFl ∧
        first.topFl = second.topFl := by
  have spelled : forall l : AirwayLeg R, legKey l =
      (l.joinedEnds ++ l.level.toByte :: toStringInt l.baseFl) ++ 0 :: toStringInt l.topFl := fun l => by
    simp only [legKey, AirwayLeg.joinedEnds, List.append_assoc, List.cons_append, List.nil_append]
  rw [spelled, spelled]
  constructor
  · intro same
    rcases split_at_last same (fun _ member => printable_of_mem_toStringInt member)
      (fun _ member => printable_of_mem_toStringInt member) (by decide) (by decide) with ⟨front, _, top⟩
    rcases split_at_last front (fun _ member => printable_of_mem_toStringInt member)
      (fun _ member => printable_of_mem_toStringInt member) first.level.toByte_lt second.level.toByte_lt with
      ⟨ends, level, base⟩
    exact ⟨ends, AirwayLevel.toByte_injective level, toStringInt_injective base, toStringInt_injective top⟩
  · rintro ⟨ends, level, base, top⟩
    rw [ends, level, base, top]

/-- Names without a NUL are read off the joined ends. -/
theorem AirwayLeg.ends_of_joinedEnds {R : Type} {first second : AirwayLeg R} (source : 0 ∉ first.from.text)
    (target : 0 ∉ first.to.text) (same : first.joinedEnds = second.joinedEnds) :
    first.from = second.from ∧ first.to = second.to := by
  rw [joinedEnds, joinedEnds, List.append_assoc, List.append_assoc, List.singleton_append, List.singleton_append,
    List.append_cons_inj_of_notMem source target] at same
  exact ⟨FixedName8.eq_of_text same.1, FixedName8.eq_of_text same.2.2⟩

section Index

variable {R : Type}

/-- Push a leg, unless one with its key was pushed before.  `seen` holds the keys
of the segments, so it is read off them. -/
def AirwayInfo.push (info : AirwayInfo R) (leg : AirwayLeg R) : AirwayInfo R :=
  if legKey leg ∈ info.segments.map legKey then info else { info with segments := info.segments ++ [leg] }

/-- Legs collected under their designators. -/
def airwayMerge (R : Type) : KeyedMerge (AirwayInfo R) (Text × AirwayLeg R) Text where
  key := AirwayInfo.name
  slot := Prod.fst
  fresh := fun (designator, leg) => ⟨designator, [leg]⟩
  combine := fun info (_, leg) => info.push leg
  key_fresh _ := rfl
  key_combine info entry := by
    show (info.push entry.2).name = info.name
    unfold AirwayInfo.push
    split_ifs <;> rfl

/-- The entry an element makes in the index. -/
def indexEntry (info : AirwayInfo R) : Option (FixedName8 × AirwayInfo R) :=
  match FixedName8.ofText info.name with
  | .error _ => none
  | .ok key => some (key, info)

namespace GraphBuilder

variable (builder : GraphBuilder R)

/-- The leg of an edge, when both names fit a key. -/
def legOf (u : Int) (e : GraphEdge R) : Option (AirwayLeg R) :=
  match FixedName8.ofText (builder.identOf u).ident, FixedName8.ofText (builder.identOf e.toVertex).ident with
  | .ok source, .ok target => some ⟨source, target, e.distanceNm, e.level, e.baseFl, e.topFl⟩
  | _, _ => none

/-- What one edge registers: its leg under each designator of its name. -/
def registrations (u : Int) (e : GraphEdge R) : List (Text × AirwayLeg R) :=
  if e.airwayId = 0 then []
  else match builder.legOf u e with
    | none => []
    | some leg => (splitDesignators (builder.airwayName e.airwayId)).map fun designator => (designator, leg)

/-- What the loops over the graph register, in order. -/
def allRegistrations : List (Text × AirwayLeg R) :=
  builder.graph.vertices.flatMap fun u => (builder.graph.edgesFrom u).flatMap (builder.registrations u)

/-- `BuildAirwayIndex`.  The designators are distinct, so the sorted index does
not depend on the order the hash map is read in. -/
def buildAirwayIndex : List (FixedName8 × AirwayInfo R) :=
  SortedIndex.sort (fun entry : FixedName8 × AirwayInfo R => entry.1.text) (· < ·)
    (((airwayMerge R).collect builder.allRegistrations).filterMap indexEntry)

/-- `FindAirway`. -/
def findAirway (name : Text) : Option (AirwayInfo R) :=
  match FixedName8.ofText name with
  | .error _ => none
  | .ok key =>
      ((SortedIndex.lowerBound (fun entry : FixedName8 × AirwayInfo R => entry.1.text) (· < ·)
        builder.buildAirwayIndex key.text).head?.filter fun entry => entry.1.text == key.text).map Prod.snd

/-! ## What the index should hold -/

/-- An edge of an airway that carries the designator. -/
structure Carries (designator : Text) (u : Int) (e : GraphEdge R) : Prop where
  inRange : builder.graph.InRange u
  edge : e ∈ builder.graph.edgesFrom u
  isAirway : e.airwayId ≠ 0
  named : designator ∈ splitDesignators (builder.airwayName e.airwayId)

/-- The name of a vertex as a key. -/
def endName (v : Int) : FixedName8 :=
  (builder.idents[v.toNat]?).elim .empty FixedIdent.name

/-- An edge as a leg. -/
def asLeg (u : Int) (e : GraphEdge R) : AirwayLeg R :=
  ⟨builder.endName u, builder.endName e.toVertex, e.distanceNm, e.level, e.baseFl, e.topFl⟩

/-- The index has an entry for a designator that some edge carries, and the
entry has exactly the legs of those edges, each once. -/
structure LosesNoLeg (designator : Text) : Prop where
  found : (builder.findAirway designator).isSome = true ↔ exists u e, builder.Carries designator u e
  complete : forall info, builder.findAirway designator = some info ->
    forall u e, builder.Carries designator u e -> builder.asLeg u e ∈ info.segments
  distinct : forall info, builder.findAirway designator = some info -> info.segments.Nodup
  sound : forall info, builder.findAirway designator = some info ->
    forall leg, leg ∈ info.segments -> exists u e, builder.Carries designator u e ∧ builder.asLeg u e = leg

/-- Edges that carry the designator, between fixes of the same names and with the
same level and flight levels, are of one length, and names that differ do not read
the same when they are joined. -/
structure FieldsTellLegsApart (designator : Text) : Prop where
  lengths : forall u e v f, builder.Carries designator u e -> builder.Carries designator v f ->
    builder.endName u = builder.endName v -> builder.endName e.toVertex = builder.endName f.toVertex ->
      e.level = f.level -> e.baseFl = f.baseFl -> e.topFl = f.topFl -> e.distanceNm = f.distanceNm
  names : forall u e v f, builder.Carries designator u e -> builder.Carries designator v f ->
    (builder.asLeg u e).joinedEnds = (builder.asLeg v f).joinedEnds ->
      e.level = f.level -> e.baseFl = f.baseFl -> e.topFl = f.topFl ->
        builder.endName u = builder.endName v ∧ builder.endName e.toVertex = builder.endName f.toVertex

end GraphBuilder

/-! ## What an entry holds -/

/-- The legs of a list, one for each key. -/
structure OnePerKey (legs segments : List (AirwayLeg R)) : Prop where
  keys : (segments.map legKey).Nodup
  listed : forall leg, leg ∈ segments -> leg ∈ legs
  covers : forall leg, leg ∈ legs -> legKey leg ∈ segments.map legKey

theorem OnePerKey.push {legs : List (AirwayLeg R)} {info : AirwayInfo R} (one : OnePerKey legs info.segments)
    (leg : AirwayLeg R) : OnePerKey (legs ++ [leg]) (info.push leg).segments := by
  rw [AirwayInfo.push]
  split_ifs with seen
  · refine ⟨one.keys, fun other member => List.mem_append_left _ (one.listed other member), fun other member => ?_⟩
    rcases List.mem_append.mp member with old | new
    · exact one.covers other old
    · rw [List.mem_singleton.mp new]
      exact seen
  · refine ⟨?_, fun other member => ?_, fun other member => ?_⟩
    · rw [List.map_append, List.map_singleton]
      exact List.nodup_append.mpr ⟨one.keys, List.nodup_singleton _, fun key member other single same =>
        seen (List.mem_singleton.mp single ▸ same ▸ member)⟩
    · exact List.mem_append.mpr ((List.mem_append.mp member).imp (one.listed other) id)
    · rw [List.map_append, List.mem_append]
      rcases List.mem_append.mp member with old | new
      · exact Or.inl (one.covers other old)
      · rw [List.mem_singleton.mp new]
        exact Or.inr (List.mem_map_of_mem List.mem_cons_self)

/-- The entry of a designator has one leg for each key of its legs. -/
theorem onePerKey_of_folded {registered : List (Text × AirwayLeg R)} {info : AirwayInfo R}
    (made : (airwayMerge R).folded registered = some info) :
    OnePerKey (registered.map Prod.snd) info.segments := by
  induction registered using List.reverseRecOn generalizing info with
  | nil => cases made
  | append_singleton front entry inductionHypothesis =>
      rw [KeyedMerge.folded_append, Option.some.injEq] at made
      rw [List.map_append, List.map_singleton, ← made]
      rcases before : (airwayMerge R).folded front with _ | earlier
      · have none : front = [] := by
          rcases front with _ | ⟨first, rest⟩
          · rfl
          · cases before
        subst none
        exact ⟨List.nodup_singleton _, fun _ member => member, fun leg member =>
          List.mem_map_of_mem member⟩
      · exact (inductionHypothesis before).push entry.2

/-- Legs of one key each hold every leg exactly when keys tell legs apart. -/
theorem OnePerKey.complete_iff {legs segments : List (AirwayLeg R)} (one : OnePerKey legs segments) :
    (forall leg, leg ∈ legs -> leg ∈ segments) ↔
      forall first second, first ∈ legs -> second ∈ legs -> legKey first = legKey second -> first = second := by
  constructor
  · intro complete first second isFirst isSecond same
    exact List.inj_on_of_nodup_map one.keys (complete first isFirst) (complete second isSecond) same
  · intro apart leg member
    rcases List.mem_map.mp (one.covers leg member) with ⟨other, listed, same⟩
    rwa [← apart other leg (one.listed other listed) member same]

/-! ## The lookup -/

namespace GraphBuilder

variable {builder : GraphBuilder R}

theorem ofText_identOf (builder : GraphBuilder R) (v : Int) :
    FixedName8.ofText (builder.identOf v).ident = .ok (builder.endName v) := by
  rw [identOf, endName]
  rcases builder.idents[v.toNat]? with _ | fixed
  · rfl
  · exact FixedName8.ofText_self fixed.name

theorem legOf_eq (u : Int) (e : GraphEdge R) : builder.legOf u e = some (builder.asLeg u e) := by
  rw [legOf, ofText_identOf, ofText_identOf]
  rfl

/-- What is registered under a designator are the legs of the edges that carry it. -/
theorem mem_allRegistrations {designator : Text} {leg : AirwayLeg R} :
    (designator, leg) ∈ builder.allRegistrations ↔
      exists u e, builder.Carries designator u e ∧ builder.asLeg u e = leg := by
  rw [allRegistrations, List.mem_flatMap]
  simp only [List.mem_flatMap, registrations, legOf_eq]
  constructor
  · rintro ⟨u, inRange, e, edge, registered⟩
    split_ifs at registered with dct
    · cases registered
    · rcases List.mem_map.mp registered with ⟨_, named, same⟩
      cases same
      exact ⟨u, e, ⟨(builder.graph.mem_vertices u).mp inRange, edge, dct, named⟩, rfl⟩
  · rintro ⟨u, e, carries, rfl⟩
    refine ⟨u, (builder.graph.mem_vertices u).mpr carries.inRange, e, carries.edge, ?_⟩
    rw [if_neg carries.isAirway]
    exact List.mem_map.mpr ⟨designator, carries.named, rfl⟩

theorem name_of_indexEntry {info : AirwayInfo R} {entry : FixedName8 × AirwayInfo R}
    (made : indexEntry info = some entry) : entry.1.text = info.name ∧ entry.2 = info := by
  rw [indexEntry] at made
  rcases packed : FixedName8.ofText info.name with _ | key
  · rw [packed] at made
    cases made
  · rw [packed] at made
    cases made
    exact ⟨FixedName8.text_of_ofText packed, rfl⟩

/-- A name that fits has an entry. -/
theorem indexEntry_eq {info : AirwayInfo R} (short : info.name.length ≤ FixedName8.kCap) :
    indexEntry info = some (⟨info.name, short⟩, info) := by
  rw [indexEntry, show FixedName8.ofText info.name = .ok ⟨info.name, short⟩ from dif_pos short]

/-- Entries of distinct names have distinct keys. -/
theorem nodup_keys_entries {infos : List (AirwayInfo R)} (distinct : (infos.map AirwayInfo.name).Nodup) :
    ((infos.filterMap indexEntry).map fun entry => entry.1.text).Nodup := by
  induction infos with
  | nil => exact List.nodup_nil
  | cons info rest inductionHypothesis =>
      rw [List.map_cons, List.nodup_cons] at distinct
      rw [List.filterMap_cons]
      rcases made : indexEntry info with _ | entry
      · exact inductionHypothesis distinct.2
      · rw [List.map_cons, List.nodup_cons]
        refine ⟨fun again => ?_, inductionHypothesis distinct.2⟩
        rcases List.mem_map.mp again with ⟨other, listed, same⟩
        rcases List.mem_filterMap.mp listed with ⟨otherInfo, member, otherMade⟩
        have names : otherInfo.name = info.name :=
          (name_of_indexEntry otherMade).1.symm.trans (same.trans (name_of_indexEntry made).1)
        exact distinct.1 (names ▸ List.mem_map_of_mem member)

/-- The entry of a short name is the one of that name. -/
theorem any_indexEntry {designator : Text} (short : designator.length ≤ FixedName8.kCap) (info : AirwayInfo R) :
    ((indexEntry info).any fun entry => entry.1.text == designator) = decide (info.name = designator) := by
  rcases made : indexEntry info with _ | entry
  · rw [Option.any_none, eq_comm, decide_eq_false_iff_not]
    rintro rfl
    rw [indexEntry_eq short] at made
    cases made
  · rw [Option.any_some, (name_of_indexEntry made).1, Bool.eq_iff_iff, beq_iff_eq, decide_eq_true_iff]

/-- The lookup finds what was collected under the designator. -/
theorem findAirway_eq {designator : Text} (short : designator.length ≤ FixedName8.kCap) :
    builder.findAirway designator =
      (airwayMerge R).folded ((airwayMerge R).group designator builder.allRegistrations) := by
  have packed : FixedName8.ofText designator = .ok ⟨designator, short⟩ := dif_pos short
  have sorted : SortedIndex.Sorted (fun entry : FixedName8 × AirwayInfo R => entry.1.text) (· < ·)
      builder.buildAirwayIndex := SortedIndex.sorted_sort _
  have distinct := nodup_keys_entries ((airwayMerge R).nodup_keys_collect builder.allRegistrations)
  rw [findAirway, packed]
  simp only
  rw [SortedIndex.head?_lowerBound sorted, buildAirwayIndex,
    SortedIndex.find?_sort (V := FixedName8 × AirwayInfo R) distinct, List.find?_filterMap,
    ← KeyedMerge.atKey_collect, KeyedMerge.atKey]
  simp only [any_indexEntry short]
  change Option.map Prod.snd (Option.bind (List.find? (fun info => decide (info.name = designator)) _) indexEntry) =
    List.find? (fun info => decide (info.name = designator)) _
  rcases found : List.find? (fun info => decide (info.name = designator))
    ((airwayMerge R).collect builder.allRegistrations) with _ | info
  · rw [found]
    rfl
  · have named : info.name = designator :=
      of_decide_eq_true (List.find?_some (p := fun info : AirwayInfo R => decide (info.name = designator)) found)
    rw [found, Option.bind_some, indexEntry_eq (named ▸ short)]
    rfl

/-- The entry of a designator, from the legs registered under it. -/
theorem mem_group {designator : Text} {leg : AirwayLeg R} :
    leg ∈ ((airwayMerge R).group designator builder.allRegistrations).map Prod.snd ↔
      exists u e, builder.Carries designator u e ∧ builder.asLeg u e = leg := by
  rw [← mem_allRegistrations, List.mem_map]
  constructor
  · rintro ⟨⟨name, _⟩, grouped, rfl⟩
    rcases List.mem_filter.mp grouped with ⟨registered, same⟩
    have named : name = designator := of_decide_eq_true same
    rwa [← named]
  · intro registered
    exact ⟨(designator, leg), List.mem_filter.mpr ⟨registered, decide_eq_true rfl⟩, rfl⟩

/-- Every short designator of an edge is found. -/
theorem isSome_findAirway_iff {designator : Text} (short : designator.length ≤ FixedName8.kCap) :
    (builder.findAirway designator).isSome = true ↔ exists u e, builder.Carries designator u e := by
  rw [findAirway_eq short]
  have legs : forall leg, leg ∈ ((airwayMerge R).group designator builder.allRegistrations).map Prod.snd ↔
      exists u e, builder.Carries designator u e ∧ builder.asLeg u e = leg := fun _ => mem_group
  rcases grouped : (airwayMerge R).group designator builder.allRegistrations with _ | ⟨first, rest⟩
  · rw [grouped] at legs
    refine iff_of_false (Bool.not_eq_true _ ▸ rfl) ?_
    rintro ⟨u, e, carries⟩
    exact absurd ((legs _).mpr ⟨u, e, carries, rfl⟩) List.not_mem_nil
  · rw [grouped] at legs
    rcases (legs first.2).mp List.mem_cons_self with ⟨u, e, carries, _⟩
    exact iff_of_true rfl ⟨u, e, carries⟩

/-- The entry found has one leg for each key. -/
theorem onePerKey_of_findAirway {designator : Text} (short : designator.length ≤ FixedName8.kCap)
    {info : AirwayInfo R} (found : builder.findAirway designator = some info) :
    OnePerKey (((airwayMerge R).group designator builder.allRegistrations).map Prod.snd) info.segments :=
  onePerKey_of_folded (findAirway_eq short ▸ found)

/-- The fields tell the legs of a designator apart exactly when the keys do. -/
theorem fieldsTellLegsApart_iff (designator : Text) :
    builder.FieldsTellLegsApart designator ↔
      forall u e v f, builder.Carries designator u e -> builder.Carries designator v f ->
        legKey (builder.asLeg u e) = legKey (builder.asLeg v f) -> builder.asLeg u e = builder.asLeg v f := by
  constructor
  · intro apart u e v f first second same
    rcases legKey_eq_iff.mp same with ⟨ends, level, base, top⟩
    rcases apart.names u e v f first second ends level base top with ⟨source, target⟩
    have length := apart.lengths u e v f first second source target level base top
    exact AirwayLeg.mk.injEq .. ▸ ⟨source, target, length, level, base, top⟩
  · intro apart
    refine ⟨fun u e v f first second source target level base top => ?_,
      fun u e v f first second ends level base top => ?_⟩
    · have ends : (builder.asLeg u e).joinedEnds = (builder.asLeg v f).joinedEnds := by
        rw [AirwayLeg.joinedEnds, AirwayLeg.joinedEnds, asLeg, asLeg, source, target]
      have same := apart u e v f first second (legKey_eq_iff.mpr ⟨ends, level, base, top⟩)
      exact congrArg AirwayLeg.distanceNm same
    · have same := apart u e v f first second (legKey_eq_iff.mpr ⟨ends, level, base, top⟩)
      exact ⟨congrArg AirwayLeg.from same, congrArg AirwayLeg.to same⟩

/-- Without a NUL in a name, only the lengths matter. -/
theorem fieldsTellLegsApart_of_names {designator : Text}
    (source : forall u e, builder.Carries designator u e -> 0 ∉ (builder.endName u).text)
    (target : forall u e, builder.Carries designator u e -> 0 ∉ (builder.endName e.toVertex).text)
    (lengths : forall u e v f, builder.Carries designator u e -> builder.Carries designator v f ->
      builder.endName u = builder.endName v -> builder.endName e.toVertex = builder.endName f.toVertex ->
        e.level = f.level -> e.baseFl = f.baseFl -> e.topFl = f.topFl -> e.distanceNm = f.distanceNm) :
    builder.FieldsTellLegsApart designator :=
  ⟨lengths, fun u e _ _ first _ ends _ _ _ =>
    AirwayLeg.ends_of_joinedEnds (source u e first) (target u e first) ends⟩

/-- The index loses no leg of a designator exactly when the fields of its legs tell
them apart. -/
theorem losesNoLeg_iff {designator : Text} (short : designator.length ≤ FixedName8.kCap) :
    builder.LosesNoLeg designator ↔ builder.FieldsTellLegsApart designator := by
  rw [fieldsTellLegsApart_iff]
  constructor
  · intro holds u e v f first second same
    rcases Option.isSome_iff_exists.mp (holds.found.mpr ⟨u, e, first⟩) with ⟨info, found⟩
    refine ((onePerKey_of_findAirway short found).complete_iff.mp fun leg member => ?_) _ _
      (mem_group.mpr ⟨u, e, first, rfl⟩) (mem_group.mpr ⟨v, f, second, rfl⟩) same
    rcases mem_group.mp member with ⟨w, g, carries, rfl⟩
    exact holds.complete info found w g carries
  · intro apart
    refine ⟨isSome_findAirway_iff short, fun info found u e carries => ?_, fun info found => ?_,
      fun info found leg listed => ?_⟩
    · refine (onePerKey_of_findAirway short found).complete_iff.mpr (fun first second isFirst isSecond same => ?_) _
        (mem_group.mpr ⟨u, e, carries, rfl⟩)
      rcases mem_group.mp isFirst with ⟨v, f, carriesFirst, rfl⟩
      rcases mem_group.mp isSecond with ⟨w, g, carriesSecond, rfl⟩
      exact apart v f w g carriesFirst carriesSecond same
    · exact List.Nodup.of_map _ (onePerKey_of_findAirway short found).keys
    · exact mem_group.mp ((onePerKey_of_findAirway short found).listed leg listed)

end GraphBuilder
end Index

/-! ## One airway to two fixes of one name -/

/-- The fix `B` of region `RJ`. -/
def twinB : FixedIdent := ⟨[66], [82, 74], waypointB.ident_length, by decide⟩

/-- From `A` the airway `J6` leads to `B` of region `ZB` and to `B` of `RJ`. -/
def twinBuilder : GraphBuilder Int where
  graph :=
    { coords := [⟨0, 0⟩, ⟨0, 1⟩, ⟨0, 3⟩]
      offsets := [0, 2, 2, 2]
      edges := [⟨1, 60, 1, 0, 600, .kBoth⟩, ⟨2, 180, 1, 0, 600, .kBoth⟩]
      offsets_length := rfl
      offsets_sorted := by decide
      offsets_le := by decide
      edges_to := by decide
      vertexCount_lt := by decide }
  idents := [waypointA, waypointB, twinB]
  hasOutboundFlags := [true, false, false]
  hasInboundFlags := [false, true, true]
  firstAirportVertex := 3
  airwayNames := [kDctToken, [74, 54]]
  idents_length := rfl
  firstAirportVertex_le := by decide
  hasOutboundFlags_eq := by decide
  hasInboundFlags_eq := by decide
  waypoint_of_edge := by decide
  airwayId_lt := by decide

/-- The leg of 180 NM is not listed. -/
theorem not_losesNoLeg_twin : ¬ twinBuilder.LosesNoLeg [74, 54] := by
  intro holds
  have listed := holds.complete ⟨[74, 54], [twinBuilder.asLeg 0 ⟨1, 60, 1, 0, 600, .kBoth⟩]⟩ (by decide +kernel) 0
    ⟨2, 180, 1, 0, 600, .kBoth⟩ ⟨by decide, by decide, by decide, by decide⟩
  exact absurd listed (by decide)

/-- From `B` the airway `J6` leads to `A` twice, and once more at low levels. -/
def repeatedBuilder : GraphBuilder Int where
  graph :=
    { coords := [⟨0, 0⟩, ⟨0, 1⟩]
      offsets := [0, 3, 3]
      edges := [⟨1, 60, 1, 0, 600, .kBoth⟩, ⟨1, 60, 1, 0, 600, .kBoth⟩, ⟨1, 60, 1, 0, 245, .kLow⟩]
      offsets_length := rfl
      offsets_sorted := by decide
      offsets_le := by decide
      edges_to := by decide
      vertexCount_lt := by decide }
  idents := [waypointB, waypointA]
  hasOutboundFlags := [true, false]
  hasInboundFlags := [false, true]
  firstAirportVertex := 2
  airwayNames := [kDctToken, [74, 54]]
  idents_length := rfl
  firstAirportVertex_le := by decide
  hasOutboundFlags_eq := by decide
  hasInboundFlags_eq := by decide
  waypoint_of_edge := by decide
  airwayId_lt := by decide

theorem carries_repeatedBuilder {designator : Text} {u : Int} {e : GraphEdge Int}
    (carries : repeatedBuilder.Carries designator u e) : u = 0 ∧ e.toVertex = 1 ∧ e.distanceNm = 60 := by
  have vertices : u ∈ [0, 1] := (repeatedBuilder.graph.mem_vertices u).mpr carries.inRange
  have edge := carries.edge
  rcases List.mem_pair.mp vertices with rfl | rfl
  · have all : forall e, e ∈ repeatedBuilder.graph.edgesFrom 0 -> e.toVertex = 1 ∧ e.distanceNm = 60 := by decide
    exact ⟨rfl, all e edge⟩
  · exact absurd edge List.not_mem_nil

/-- Both legs of `J6` are listed, once each. -/
theorem losesNoLeg_iff_repeated :
    repeatedBuilder.LosesNoLeg [74, 54] ∧
      (repeatedBuilder.findAirway [74, 54]).map (fun info => info.segments.map AirwayLeg.topFl) = some [600, 245] := by
  refine ⟨(GraphBuilder.losesNoLeg_iff (by decide)).mpr ?_, by decide +kernel⟩
  refine GraphBuilder.fieldsTellLegsApart_of_names (fun u e carries => ?_) (fun u e carries => ?_)
    fun u e v f first second _ _ _ _ _ => ?_
  · rw [(carries_repeatedBuilder carries).1]
    decide
  · rw [(carries_repeatedBuilder carries).2.1]
    decide
  · rw [(carries_repeatedBuilder first).2.2, (carries_repeatedBuilder second).2.2]

end BravoFinder
