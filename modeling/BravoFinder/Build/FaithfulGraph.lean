import BravoFinder.Build.Populate

namespace BravoFinder

/-!
# The graph is the airway data

Each connection gives a link for each way it may be flown, between the points its
ends mean.  The edges of a vertex are the links from it, in the order of the
connections, except that an edge keeps a flight level in 16 bits only.
-/

/-- A way along a segment: where it leads from and to. -/
structure AirwayLink where
  source : Int
  target : Int
  segment : AirwaySegment
deriving DecidableEq

namespace NavData

variable {R : Type} [LinearOrder R] [Zero R]

omit [LinearOrder R] [Zero R] in
/-- The waypoints of an identifier, in load order. -/
def pointsOf (data : NavData R) (ident : Ident) : List Int :=
  (data.waypoints.zipIdx.filter fun entry => entry.1.ident = ident).map fun entry => (entry.2 : Int)

omit [LinearOrder R] in
def positionOf (data : NavData R) (v : Int) : Coordinate R :=
  data.coords.getD v.toNat ⟨0, 0⟩

variable [One R]

/-- The point that an end of a connection means, if there is one. -/
def endpoint (data : NavData R) (earth : Geodesy R) (ident : Ident) (hint : Option (Coordinate R)) : Option Int :=
  Surveyor.meantPoint earth data.positionOf (data.pointsOf ident) hint

/-- The links of a connection. -/
def linksOf (data : NavData R) (earth : Geodesy R) (conn : AirwayConnection R) : List AirwayLink :=
  match data.endpoint earth conn.from conn.fromHint, data.endpoint earth conn.to conn.toHint with
  | some source, some target =>
      (conn.segment.direction.ways source target).map fun way => ⟨way.1, way.2, conn.segment⟩
  | _, _ => []

/-- The links from a vertex, in the order of the connections. -/
def linksFrom (data : NavData R) (earth : Geodesy R) (v : Int) : List AirwayLink :=
  (data.airways.flatMap (data.linksOf earth)).filter fun link => link.source = v

end NavData

/-- An edge as its link says. -/
structure CarriesLink {R : Type} (builder : GraphBuilder R) (link : AirwayLink) (edge : GraphEdge R) : Prop where
  target : edge.toVertex = link.target
  level : edge.level = link.segment.level
  baseFl : edge.baseFl = link.segment.baseFl
  topFl : edge.topFl = link.segment.topFl
  isAirway : edge.airwayId ≠ 0
  named : builder.airwayName edge.airwayId = link.segment.name

/-- The graph holds the airways of the data, and nothing else. -/
structure HoldsTheAirways {R : Type} [LinearOrder R] [Zero R] [One R] (data : NavData R) (earth : Geodesy R)
    (builder : GraphBuilder R) : Prop where
  edges : forall v, builder.graph.InRange v ->
    List.Forall₂ (CarriesLink builder) (data.linksFrom earth v) (builder.graph.edgesFrom v)
  outbound : forall v, builder.graph.InRange v ->
    (builder.hasOutbound v = true ↔ builder.graph.edgesFrom v ≠ [])
  inbound : forall v, builder.graph.InRange v -> (builder.hasInbound v = true ↔
    exists u, builder.graph.InRange u ∧ exists edge, edge ∈ builder.graph.edgesFrom u ∧ edge.toVertex = v)
  airports : forall v, builder.graph.InRange v -> forall edge, edge ∈ builder.graph.edgesFrom v ->
    builder.isAirport v = false ∧ builder.isAirport edge.toVertex = false
  firstOffset : builder.graph.offsets.head? = some 0
  offsets : builder.graph.offsets.Pairwise (· ≤ ·)
  lastOffset : builder.graph.offsets.getLast? = some builder.graph.edges.length

/-- A value of 16 bits. -/
def FitsInt16 (value : Int) : Prop :=
  -2 ^ 15 ≤ value ∧ value < 2 ^ 15

theorem toInt16_eq_iff (value : Int) : toInt16 value = value ↔ FitsInt16 value := by
  rw [toInt16, FitsInt16, Int.bmod_def]
  split_ifs <;> omega

/-- The flight levels of every connection with both ends in the data fit. -/
def LevelsFit {R : Type} [LinearOrder R] [Zero R] [One R] (data : NavData R) (earth : Geodesy R) : Prop :=
  forall conn, conn ∈ data.airways -> (data.endpoint earth conn.from conn.fromHint).isSome = true ->
    (data.endpoint earth conn.to conn.toHint).isSome = true ->
      FitsInt16 conn.segment.baseFl ∧ FitsInt16 conn.segment.topFl

section Built

variable {R : Type} [LinearOrder R] [Zero R] [One R] {data : NavData R}

omit [LinearOrder R] [Zero R] [One R] in
theorem fromIdent_of_packWaypoint {w : Waypoint R} {fixed : FixedIdent} (packed : packWaypoint w = .ok fixed) :
    FixedIdent.fromIdent w.ident = .ok fixed := by
  rw [packWaypoint] at packed
  split_ifs at packed
  exact packed

/-- Two identifiers that pack alike are one. -/
theorem fromIdent_inj {ident other : Ident} {fixed : FixedIdent} (packed : FixedIdent.fromIdent ident = .ok fixed)
    (also : FixedIdent.fromIdent other = .ok fixed) : ident = other := by
  have parts := FixedIdent.parts_of_fromParts packed
  have otherParts := FixedIdent.parts_of_fromParts also
  cases ident
  cases other
  exact congrArg₂ Ident.mk (parts.1.symm.trans otherParts.1) (parts.2.symm.trans otherParts.2)

/-- The places of alike elements. -/
theorem places_eq {A B : Type} {r : A -> B -> Prop} {list : List A} {others : List B} (alike : List.Forall₂ r list others)
    {p : A -> Bool} {q : B -> Bool} (same : forall a b, r a b -> p a = q b) (start : Nat) :
    ((list.zipIdx start).filter fun entry => p entry.1).map (fun entry => (entry.2 : Int)) =
      ((others.zipIdx start).filter fun entry => q entry.1).map fun entry => (entry.2 : Int) := by
  induction alike generalizing start with
  | nil => rfl
  | @cons a b rest otherRest head _ inductionHypothesis =>
      rw [List.zipIdx_cons, List.zipIdx_cons, List.filter_cons, List.filter_cons]
      have agree := same a b head
      simp only
      rw [agree]
      split_ifs
      · rw [List.map_cons, List.map_cons, inductionHypothesis]
      · exact inductionHypothesis (start + 1)

omit [One R] in
/-- The packed waypoints of an identifier are those of the data. -/
theorem candidates_eq (packed : PackedIdents data) (earth : Geodesy R) (narrow : R -> R) (ident : Ident) :
    (packed.surveyor earth narrow).candidates ident = data.pointsOf ident := by
  have waypoints : packed.tables.idents.take packed.tables.firstAirportVertex = packed.waypoints := by
    show (packed.waypoints ++ packed.airports).take data.waypoints.length = packed.waypoints
    rw [packed.waypoints_packed.length_eq, List.take_left]
  rw [Surveyor.candidates, NavData.pointsOf]
  rcases wanted : FixedIdent.fromIdent ident with error | key
  · symm
    have none : forall (w : Waypoint R) (fixed : FixedIdent), packWaypoint w = .ok fixed -> decide (w.ident = ident) = false := by
      intro w fixed packs
      refine decide_eq_false fun same => ?_
      have packsIdent := fromIdent_of_packWaypoint packs
      rw [same, wanted] at packsIdent
      cases packsIdent
    refine (places_eq packed.waypoints_packed (p := fun w => decide (w.ident = ident)) (q := fun _ => false) none 0).trans ?_
    rw [List.filter_false]
    rfl
  · show ((packed.tables.idents.take packed.tables.firstAirportVertex).zipIdx.filter fun entry => entry.1 == key).map
      (fun entry => (entry.2 : Int)) = _
    rw [waypoints]
    symm
    refine places_eq packed.waypoints_packed (p := fun w => decide (w.ident = ident)) (q := fun fixed => fixed == key)
      (fun w fixed packs => ?_) 0
    have packsIdent := fromIdent_of_packWaypoint packs
    rw [Bool.eq_iff_iff, decide_eq_true_iff, beq_iff_eq]
    constructor
    · intro same
      rw [same, wanted, Except.ok.injEq] at packsIdent
      exact packsIdent.symm
    · intro same
      exact fromIdent_inj packsIdent (same ▸ wanted)

/-- The edge of a link, as it is stored. -/
structure StoresLink (names : List Text) (link : AirwayLink) (edge : GraphEdge R) : Prop where
  target : edge.toVertex = link.target
  level : edge.level = link.segment.level
  baseFl : edge.baseFl = toInt16 link.segment.baseFl
  topFl : edge.topFl = toInt16 link.segment.topFl
  isAirway : edge.airwayId ≠ 0
  named : names[edge.airwayId]? = some link.segment.name

omit [LinearOrder R] [Zero R] [One R] in
theorem StoresLink.extend {names more : List Text} (kept : names <+: more) {link : AirwayLink} {edge : GraphEdge R}
    (stores : StoresLink names link edge) : StoresLink more link edge := by
  rcases kept with ⟨others, rfl⟩
  have bound := (List.getElem?_eq_some_iff.mp stores.named).1
  exact { stores with named := (List.getElem?_append_left bound).trans stores.named }

/-- An end resolves to the point it means. -/
theorem endpoint_cases (packed : PackedIdents data) (earth : Geodesy R) (narrow : R -> R) (ident : Ident)
    (hint : Option (Coordinate R)) :
    (packed.surveyor earth narrow).resolve ident hint < 0 ∧ data.endpoint earth ident hint = none ∨
      0 ≤ (packed.surveyor earth narrow).resolve ident hint ∧
        data.endpoint earth ident hint = some ((packed.surveyor earth narrow).resolve ident hint) := by
  have cases := (packed.surveyor earth narrow).resolve_cases ident hint
  rw [candidates_eq] at cases
  exact cases.imp id fun found => ⟨found.1.1, found.2⟩

/-- A connection without one of its ends gives no link. -/
theorem linksOf_absent {packed : PackedIdents data} {earth : Geodesy R} {narrow : R -> R} {conn : AirwayConnection R}
    (absent : (packed.surveyor earth narrow).resolve conn.from conn.fromHint < 0 ∨
      (packed.surveyor earth narrow).resolve conn.to conn.toHint < 0) : data.linksOf earth conn = [] := by
  rw [NavData.linksOf]
  rcases endpoint_cases packed earth narrow conn.from conn.fromHint with ⟨_, none⟩ | ⟨source, found⟩
  · rw [none]
  · rcases endpoint_cases packed earth narrow conn.to conn.toHint with ⟨_, none⟩ | ⟨target, alsoFound⟩
    · rw [found, none]
    · exact absurd absent (not_or.mpr ⟨Int.not_lt.mpr source, Int.not_lt.mpr target⟩)

/-- Any other gives one for each way of its segment. -/
theorem linksOf_resolved {packed : PackedIdents data} {earth : Geodesy R} {narrow : R -> R} {conn : AirwayConnection R}
    (source : 0 ≤ (packed.surveyor earth narrow).resolve conn.from conn.fromHint)
    (target : 0 ≤ (packed.surveyor earth narrow).resolve conn.to conn.toHint) :
    data.linksOf earth conn = (conn.segment.direction.ways
      ((packed.surveyor earth narrow).resolve conn.from conn.fromHint)
      ((packed.surveyor earth narrow).resolve conn.to conn.toHint)).map fun way => ⟨way.1, way.2, conn.segment⟩ := by
  rw [NavData.linksOf]
  rcases endpoint_cases packed earth narrow conn.from conn.fromHint with ⟨negative, _⟩ | ⟨_, found⟩
  · exact absurd source (Int.not_le.mpr negative)
  · rcases endpoint_cases packed earth narrow conn.to conn.toHint with ⟨negative, _⟩ | ⟨_, alsoFound⟩
    · exact absurd target (Int.not_le.mpr negative)
    · rw [found, alsoFound]

omit [One R] in
/-- The edges pushed for a segment store its links. -/
theorem storesLink_ways (surveyor : Surveyor R) {names : List Text} {airwayId : Nat} {s : AirwaySegment}
    (isAirway : airwayId ≠ 0) (named : names[airwayId]? = some s.name) {ways : List (Int × Int)}
    (nonneg : forall way, way ∈ ways -> 0 ≤ way.1) (v : Nat) :
    List.Forall₂ (StoresLink names)
      ((ways.map fun way => (⟨way.1, way.2, s⟩ : AirwayLink)).filter fun link => link.source = v)
      ((ways.filter fun way => way.1.toNat = v).map fun way => surveyor.edgeTo way.1 way.2 airwayId s) := by
  induction ways with
  | nil => exact List.Forall₂.nil
  | cons way rest inductionHypothesis =>
      have others := inductionHypothesis fun other member => nonneg other (List.mem_cons_of_mem _ member)
      have source := nonneg way List.mem_cons_self
      rw [List.map_cons, List.filter_cons, List.filter_cons]
      by_cases here : way.1 = v
      · rw [if_pos (decide_eq_true here), if_pos (decide_eq_true (by omega))]
        exact List.Forall₂.cons ⟨rfl, rfl, rfl, rfl, isAirway, named⟩ others
      · rw [if_neg (by rwa [decide_eq_true_iff]), if_neg (by rw [decide_eq_true_iff]; omega)]
        exact others

/-- While the table of names is not full, the rows hold the links of the
connections so far. -/
theorem storesLink_wire (packed : PackedIdents data) (earth : Geodesy R) (narrow : R -> R)
    (airways : List (AirwayConnection R))
    (open' : ((packed.surveyor earth narrow).wire airways).airwayOverflow = false) {v : Nat}
    (inside : v < data.coords.length) :
    List.Forall₂ (StoresLink ((packed.surveyor earth narrow).wire airways).airwayNames)
      ((airways.flatMap (data.linksOf earth)).filter fun link => link.source = v)
      (((packed.surveyor earth narrow).wire airways).rows.getD v []) := by
  induction airways using List.reverseRecOn with
  | nil =>
      rw [Surveyor.wire, List.foldl_nil, row_empty]
      exact List.Forall₂.nil
  | append_singleton front conn inductionHypothesis =>
      have sound := (packed.surveyor earth narrow).sound_wire front
      rw [Surveyor.wire, List.foldl_append, ← Surveyor.wire, List.foldl_cons, List.foldl_nil] at open' ⊢
      rw [List.flatMap_append, List.flatMap_singleton, List.filter_append]
      generalize (packed.surveyor earth narrow).wire front = wiring at sound open' inductionHypothesis ⊢
      rcases Surveyor.connect_cases (packed.surveyor earth narrow) sound.named conn with
        ⟨absent, same⟩ | ⟨resolved, full | wired⟩
      · rw [same] at open' ⊢
        rw [linksOf_absent absent, List.filter_nil, List.append_nil]
        exact inductionHypothesis open'
      · rw [full] at open'
        cases open'
      · rcases wired with ⟨after, airwayId, names, same⟩
        rcases Surveyor.sound_names sound names with ⟨soundAfter, isId⟩
        have source := Surveyor.bounds_of_resolve resolved.1
        have target := Surveyor.bounds_of_resolve resolved.2
        have ends : forall way, way ∈ conn.segment.direction.ways
            ((packed.surveyor earth narrow).resolve conn.from conn.fromHint)
            ((packed.surveyor earth narrow).resolve conn.to conn.toHint) ->
            (0 ≤ way.1 ∧ way.1 < (packed.surveyor earth narrow).tables.firstAirportVertex) ∧
              0 ≤ way.2 ∧ way.2 < (packed.surveyor earth narrow).tables.firstAirportVertex := by
          intro way member
          rcases Surveyor.mem_ways member with rfl | rfl
          · exact ⟨source, target⟩
          · exact ⟨target, source⟩
        rcases Surveyor.sound_addEdges soundAfter isId conn.segment ends with ⟨_, sameNames, sameOverflow⟩
        rw [same] at open' ⊢
        have inRows : v < after.rows.length := soundAfter.wired.length.symm ▸ inside
        rw [sameNames, Surveyor.row_addEdges inRows, names.rows, linksOf_resolved resolved.1 resolved.2]
        refine List.rel_append ((inductionHypothesis ?_).imp fun _ _ stores => stores.extend names.kept)
          (storesLink_ways _ names.isAirway names.named (fun way member => (ends way member).1.1) v)
        rw [← names.overflow, ← sameOverflow]
        exact open'

omit [LinearOrder R] [Zero R] [One R] in
/-- The stored edge is the link's exactly when its flight levels fit. -/
theorem carriesLink_iff {builder : GraphBuilder R} {link : AirwayLink} {edge : GraphEdge R}
    (stores : StoresLink builder.airwayNames link edge) :
    CarriesLink builder link edge ↔ FitsInt16 link.segment.baseFl ∧ FitsInt16 link.segment.topFl := by
  rw [← toInt16_eq_iff, ← toInt16_eq_iff, ← stores.baseFl, ← stores.topFl]
  constructor
  · exact fun carries => ⟨carries.baseFl, carries.topFl⟩
  · rintro ⟨base, top⟩
    refine ⟨stores.target, stores.level, base, top, stores.isAirway, ?_⟩
    rw [GraphBuilder.airwayName, List.getD_eq_getElem?_getD, stores.named, Option.getD_some]

omit [LinearOrder R] [Zero R] [One R] in
theorem carriesLinks_iff {builder : GraphBuilder R} {links : List AirwayLink} {edges : List (GraphEdge R)}
    (stores : List.Forall₂ (StoresLink builder.airwayNames) links edges) :
    List.Forall₂ (CarriesLink builder) links edges ↔
      forall link, link ∈ links -> FitsInt16 link.segment.baseFl ∧ FitsInt16 link.segment.topFl := by
  induction stores with
  | nil => exact iff_of_true List.Forall₂.nil fun _ member => absurd member List.not_mem_nil
  | cons head _ inductionHypothesis =>
      rw [List.forall₂_cons, List.forall_mem_cons, carriesLink_iff head, inductionHypothesis]

theorem mem_linksOf {earth : Geodesy R} {conn : AirwayConnection R} {link : AirwayLink} :
    link ∈ data.linksOf earth conn ↔
      exists source target, data.endpoint earth conn.from conn.fromHint = some source ∧
        data.endpoint earth conn.to conn.toHint = some target ∧
          exists way, way ∈ conn.segment.direction.ways source target ∧ ⟨way.1, way.2, conn.segment⟩ = link := by
  rw [NavData.linksOf]
  rcases data.endpoint earth conn.from conn.fromHint with _ | source
  · exact iff_of_false List.not_mem_nil (by rintro ⟨_, _, none, _⟩; cases none)
  · rcases data.endpoint earth conn.to conn.toHint with _ | target
    · exact iff_of_false List.not_mem_nil (by rintro ⟨_, _, _, none, _⟩; cases none)
    · rw [List.mem_map]
      constructor
      · exact fun found => ⟨source, target, rfl, rfl, found⟩
      · rintro ⟨_, _, sameSource, sameTarget, found⟩
        cases sameSource
        cases sameTarget
        exact found

/-- A segment may be flown some way. -/
theorem exists_way (direction : AirwayDirection) (source target : Int) :
    exists way, way ∈ direction.ways source target := by
  cases direction
  · exact ⟨(source, target), List.mem_cons_self⟩
  · exact ⟨(source, target), List.mem_cons_self⟩
  · exact ⟨(target, source), List.mem_cons_self⟩

/-- The point an end means is a waypoint. -/
theorem bounds_of_endpoint (packed : PackedIdents data) {earth : Geodesy R} {ident : Ident}
    {hint : Option (Coordinate R)} {v : Int} (found : data.endpoint earth ident hint = some v) :
    0 ≤ v ∧ v < data.waypoints.length := by
  rcases endpoint_cases packed earth id ident hint with ⟨_, none⟩ | ⟨nonneg, same⟩
  · rw [found] at none
    cases none
  · rw [found, Option.some.injEq] at same
    rw [same]
    exact Surveyor.bounds_of_resolve nonneg

/-- The links of all vertices fit exactly when those of all connections do. -/
theorem levelsFit_iff (packed : PackedIdents data) (earth : Geodesy R) :
    (forall v : Int, 0 ≤ v ∧ v < data.coords.length -> forall link, link ∈ data.linksFrom earth v ->
      FitsInt16 link.segment.baseFl ∧ FitsInt16 link.segment.topFl) ↔ LevelsFit data earth := by
  constructor
  · intro fits conn listed isSource isTarget
    rcases Option.isSome_iff_exists.mp isSource with ⟨source, foundSource⟩
    rcases Option.isSome_iff_exists.mp isTarget with ⟨target, foundTarget⟩
    rcases exists_way conn.segment.direction source target with ⟨way, member⟩
    have bound : 0 ≤ way.1 ∧ way.1 < data.coords.length := by
      have first := data.first_le
      have boundSource := bounds_of_endpoint packed foundSource
      have boundTarget := bounds_of_endpoint packed foundTarget
      rcases Surveyor.mem_ways member with rfl | rfl
      · exact ⟨boundSource.1, by simp only; omega⟩
      · exact ⟨boundTarget.1, by simp only; omega⟩
    refine fits way.1 bound ⟨way.1, way.2, conn.segment⟩ (List.mem_filter.mpr ⟨?_, decide_eq_true rfl⟩)
    exact List.mem_flatMap.mpr ⟨conn, listed, mem_linksOf.mpr ⟨source, target, foundSource, foundTarget, way, member, rfl⟩⟩
  · intro fits v _ link member
    rcases List.mem_flatMap.mp (List.mem_filter.mp member).1 with ⟨conn, listed, isLink⟩
    rcases mem_linksOf.mp isLink with ⟨source, target, foundSource, foundTarget, way, _, rfl⟩
    exact fits conn listed (by rw [foundSource]; rfl) (by rw [foundTarget]; rfl)

omit [LinearOrder R] [Zero R] [One R] in
/-- An edge joins waypoints, so no airport. -/
theorem not_isAirport_of_edge {builder : GraphBuilder R} {v : Int} (inRange : builder.graph.InRange v)
    {edge : GraphEdge R} (member : edge ∈ builder.graph.edgesFrom v) :
    builder.isAirport v = false ∧ builder.isAirport edge.toVertex = false := by
  rcases builder.waypoint_of_edge v ((NavGraph.mem_vertices _ v).mpr inRange) edge member with ⟨source, target⟩
  exact ⟨decide_eq_false fun airport => absurd source (Int.not_lt.mpr airport.1),
    decide_eq_false fun airport => absurd target (Int.not_lt.mpr airport.1)⟩

/-- Built without overflow, the graph holds the airways of the data exactly when
the flight levels fit. -/
theorem holdsTheAirways_iff {earth : Geodesy R} {narrow : R -> R} {built : BuiltGraph R}
    (accepted : build earth narrow data = .ok built) (noOverflow : built.airwayOverflow = false) :
    HoldsTheAirways data earth built.toGraphBuilder ↔ LevelsFit data earth := by
  rw [build] at accepted
  rcases packs : packIdents data with error | packed
  · rw [packs] at accepted
    cases accepted
  rw [packs] at accepted
  cases accepted
  have wired := ((packed.surveyor earth narrow).sound_wire data.airways).wired
  have stores : forall v : Int, 0 ≤ v ∧ v < data.coords.length ->
      List.Forall₂ (StoresLink (packed.builder wired).airwayNames) (data.linksFrom earth v)
        ((packed.builder wired).graph.edgesFrom v) := by
    rintro v ⟨nonneg, below⟩
    rcases Int.eq_ofNat_of_zero_le nonneg with ⟨index, rfl⟩
    have inside := Int.ofNat_lt.mp below
    have row : (packed.builder wired).graph.edgesFrom index =
        ((packed.surveyor earth narrow).wire data.airways).rows.getD index [] := packed.edgesFrom_builder wired inside
    rw [row]
    exact storesLink_wire packed earth narrow data.airways noOverflow inside
  rw [← levelsFit_iff packed]
  constructor
  · exact fun holds v inRange => (carriesLinks_iff (stores v inRange)).mp (holds.edges v inRange)
  · intro fits
    refine ⟨fun v inRange => (carriesLinks_iff (stores v inRange)).mpr (fits v inRange),
      fun v inRange => GraphBuilder.hasOutbound_iff _ inRange, fun v inRange => GraphBuilder.hasInbound_iff _ inRange,
      fun v inRange edge member => not_isAirport_of_edge inRange member, RowTable.head?_offsets _ 0,
      RowTable.pairwise_offsets _ 0, ?_⟩
    rw [← Nat.zero_add (GraphBuilder.graph _).edges.length]
    exact RowTable.getLast?_offsets _ 0

end Built

/-! ## Two fixes and a flight level out of range -/

/-- Distance along the equator, in whole degrees. -/
def degreeEarth : Geodesy Int where
  distanceTo origin target := 60 * (origin.longitude - target.longitude).natAbs
  bearingTo origin target := if origin.longitude ≤ target.longitude then 90 else 270
  chordNm origin target := 60 * (origin.longitude - target.longitude).natAbs
  distanceTo_nonneg origin target := by omega
  bearingTo_nonneg origin target := by split <;> omega

/-- The segment of `J6` from `A` to `B`. -/
def segmentUpTo (topFl : Int) : AirwaySegment := ⟨[74, 54], .kForward, .kHigh, 180, topFl⟩

/-- The fixes `A` and `B` of region `ZB`, joined by the segment. -/
def segmentData (topFl : Int) : NavData Int where
  waypoints := [⟨⟨[65], [90, 66]⟩, ⟨0, 0⟩, .kFix⟩, ⟨⟨[66], [90, 66]⟩, ⟨0, 1⟩, .kFix⟩]
  airways := [⟨⟨[65], [90, 66]⟩, ⟨[66], [90, 66]⟩, segmentUpTo topFl, none, none⟩]
  airports := []
  count_lt := by simp

/-- Flight level 40000 is stored as another. -/
theorem not_holdsTheAirways_high :
    exists built, build degreeEarth id (segmentData 40000) = .ok built ∧ built.airwayOverflow = false ∧
      ¬ HoldsTheAirways (segmentData 40000) degreeEarth built.toGraphBuilder := by
  have stored : (build degreeEarth id (segmentData 40000)).toOption.map
      (fun built => (built.airwayOverflow, built.graph.vertexCount, built.graph.edgesFrom 0)) =
        some (false, 2, [⟨1, 60, 1, 180, -25536, .kHigh⟩]) := by decide +kernel
  have links : (segmentData 40000).linksFrom degreeEarth 0 = [⟨0, 1, segmentUpTo 40000⟩] := by decide +kernel
  rcases built : build degreeEarth id (segmentData 40000) with error | graph
  · rw [built] at stored
    cases stored
  rw [built] at stored
  simp only [Except.toOption, Option.map_some, Option.some.injEq, Prod.mk.injEq] at stored
  refine ⟨graph, rfl, stored.1, fun holds => ?_⟩
  have inRange : graph.graph.InRange 0 := ⟨Int.le_refl 0, by rw [stored.2.1]; decide⟩
  have carries := holds.edges 0 inRange
  rw [links, stored.2.2] at carries
  cases carries with
  | cons head _ => exact absurd head.topFl (by decide)

theorem holdsTheAirways_iff_low :
    (build degreeEarth id (segmentData 600)).toOption.isSome = true ∧
      forall built, build degreeEarth id (segmentData 600) = .ok built ->
        (HoldsTheAirways (segmentData 600) degreeEarth built.toGraphBuilder ↔
          LevelsFit (segmentData 600) degreeEarth) := by
  refine ⟨by decide +kernel, fun built accepted => holdsTheAirways_iff accepted ?_⟩
  have stored : (build degreeEarth id (segmentData 600)).toOption.map (fun built => built.airwayOverflow) =
      some false := by decide +kernel
  rw [accepted] at stored
  exact Option.some.inj stored

end BravoFinder
