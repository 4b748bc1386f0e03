import BravoFinder.Build.KeyedVertices
import BravoFinder.Build.NameLookup
import BravoFinder.Cache.GraphSnapshot
import BravoFinder.Core.Route
import BravoFinder.Library.RowTable

namespace BravoFinder

/-!
# The graph of a dataset

The vertices come first, then each connection adds its edges to the rows of its
ends, and the rows are stored end to end at last.  A flight level of a segment is
an `int` and that of an edge is stored in 16 bits.
-/

/-- Direction in which a segment may be flown. -/
inductive AirwayDirection where
  | kBoth
  | kForward
  | kBackward
deriving DecidableEq, Repr

structure AirwaySegment where
  name : Text
  direction : AirwayDirection
  level : AirwayLevel
  baseFl : Int
  topFl : Int
deriving DecidableEq

/-- A segment between two points, with their positions where these are known. -/
structure AirwayConnection (R : Type) where
  «from» : Ident
  «to» : Ident
  segment : AirwaySegment
  fromHint : Option (Coordinate R)
  toHint : Option (Coordinate R)

structure Waypoint (R : Type) where
  ident : Ident
  coord : Coordinate R
  kind : WaypointKind

structure Airport (R : Type) where
  icao : Text
  arinc424IcaoCode : Text
  coord : Coordinate R
  elevationFt : Int

/-- What the graph is built from.  The vertices are counted in an `int`. -/
structure NavData (R : Type) where
  waypoints : List (Waypoint R)
  airways : List (AirwayConnection R)
  airports : List (Airport R)
  count_lt : waypoints.length + airports.length < 2 ^ 31

/-- The builder, with the tables of its vertices that no search reads. -/
structure BuiltGraph (R : Type) extends GraphBuilder R where
  kinds : List WaypointKind
  airportElevationsFt : List Int
  airwayOverflow : Bool

/-- The cast to `int16_t`. -/
def toInt16 (value : Int) : Int :=
  value.bmod (2 ^ 16)

/-! ## Rows of edges -/

section Rows

variable {R : Type}

/-- `has_inbound[e.to] = 1`, for each edge. -/
def markInbound (edges : List (GraphEdge R)) (flags : List Bool) : List Bool :=
  edges.foldl (fun flags edge => flags.set edge.toVertex.toNat true) flags

/-- Rows whose edges join waypoints and are named. -/
structure WellWired (total firstAirportVertex : Nat) (names : List Text) (rows : List (List (GraphEdge R))) :
    Prop where
  length : rows.length = total
  source : forall v edge, edge ∈ rows.getD v [] -> v < firstAirportVertex
  target : forall v edge, edge ∈ rows.getD v [] -> 0 ≤ edge.toVertex ∧ edge.toVertex < firstAirportVertex
  airwayId : forall v edge, edge ∈ rows.getD v [] -> edge.airwayId < names.length

theorem exists_row {rows : List (List (GraphEdge R))} {edge : GraphEdge R} (member : edge ∈ rows.flatten) :
    exists v, v < rows.length ∧ edge ∈ rows.getD v [] := by
  rcases List.mem_flatten.mp member with ⟨row, listed, inRow⟩
  rcases List.getElem_of_mem listed with ⟨v, bound, rfl⟩
  exact ⟨v, bound, by rwa [List.getD_eq_getElem?_getD, List.getElem?_eq_getElem bound]⟩

theorem getD_markInbound (edges : List (GraphEdge R)) (flags : List Bool) {v : Nat} (inside : v < flags.length) :
    (markInbound edges flags).getD v false =
      (flags.getD v false || edges.any fun edge => edge.toVertex.toNat == v) := by
  induction edges generalizing flags with
  | nil => rw [List.any_nil, Bool.or_false, markInbound, List.foldl_nil]
  | cons edge rest inductionHypothesis =>
      rw [markInbound, List.foldl_cons, ← markInbound, inductionHypothesis _ (by rwa [List.length_set]),
        List.any_cons, ← Bool.or_assoc]
      congr 1
      rw [List.getD_eq_getElem?_getD, List.getElem?_set]
      by_cases same : edge.toVertex.toNat = v
      · rw [if_pos same, same, if_pos inside, beq_self_eq_true, Bool.or_true]
        rfl
      · rw [if_neg same, beq_eq_false_iff_ne.mpr same, Bool.or_false, List.getD_eq_getElem?_getD]

theorem length_markInbound (edges : List (GraphEdge R)) (flags : List Bool) :
    (markInbound edges flags).length = flags.length := by
  induction edges generalizing flags with
  | nil => rfl
  | cons edge rest inductionHypothesis =>
      rw [markInbound, List.foldl_cons, ← markInbound, inductionHypothesis, List.length_set]

/-- The graph of some rows. -/
def graphOfRows (coords : List (Coordinate R)) (count_lt : coords.length < 2 ^ 31) {firstAirportVertex : Nat}
    (first_le : firstAirportVertex ≤ coords.length) {names : List Text} {rows : List (List (GraphEdge R))}
    (wired : WellWired coords.length firstAirportVertex names rows) : NavGraph R R where
  coords := coords
  offsets := RowTable.offsets rows 0
  edges := rows.flatten
  offsets_length := by rw [RowTable.length_offsets, wired.length]
  offsets_sorted := RowTable.pairwise_offsets rows 0
  offsets_le offset member := by
    have bounds := (RowTable.bounds_of_mem_offsets member).2
    rwa [Nat.zero_add] at bounds
  edges_to edge member := by
    rcases exists_row member with ⟨v, _, inRow⟩
    have bounds := wired.target v edge inRow
    exact ⟨bounds.1, by omega⟩
  vertexCount_lt := count_lt

theorem edgesFrom_graphOfRows {coords : List (Coordinate R)} {count_lt : coords.length < 2 ^ 31}
    {firstAirportVertex : Nat} {first_le : firstAirportVertex ≤ coords.length} {names : List Text}
    {rows : List (List (GraphEdge R))} (wired : WellWired coords.length firstAirportVertex names rows) {v : Nat}
    (inside : v < coords.length) :
    (graphOfRows coords count_lt first_le wired).edgesFrom v = rows.getD v [] :=
  RowTable.slice_flatten (wired.length.symm ▸ inside)

/-- A table, read at each of its places. -/
theorem map_eq_map_range {A B : Type} {table : List A} {total : Nat} (length : table.length = total) (default : A)
    (g : A -> B) : table.map g = (List.range total).map fun v => g (table.getD v default) := by
  refine List.ext_getElem (by rw [List.length_map, List.length_map, List.length_range, length]) fun v inside _ => ?_
  rw [List.length_map] at inside
  rw [List.getElem_map, List.getElem_map, List.getElem_range, List.getD_eq_getElem?_getD,
    List.getElem?_eq_getElem inside, Option.getD_some]

/-- An edge ends at a vertex when some row has one that does. -/
theorem any_flatten_eq {total firstAirportVertex : Nat} {names : List Text} {rows : List (List (GraphEdge R))}
    (wired : WellWired total firstAirportVertex names rows) (v : Nat) :
    (rows.flatten.any fun edge => edge.toVertex.toNat == v) =
      (List.range total).any fun source => (rows.getD source []).any fun edge => edge.toVertex == (v : Int) := by
  rw [Bool.eq_iff_iff, List.any_eq_true, List.any_eq_true]
  constructor
  · rintro ⟨edge, member, same⟩
    rcases exists_row member with ⟨source, bound, inRow⟩
    refine ⟨source, List.mem_range.mpr (wired.length ▸ bound), List.any_eq_true.mpr ⟨edge, inRow, ?_⟩⟩
    have nonneg := (wired.target source edge inRow).1
    rw [beq_iff_eq] at same ⊢
    omega
  · rintro ⟨source, bound, found⟩
    rcases List.any_eq_true.mp found with ⟨edge, inRow, same⟩
    have inside : source < rows.length := wired.length.symm ▸ List.mem_range.mp bound
    refine ⟨edge, List.mem_flatten.mpr ⟨rows[source], List.getElem_mem inside, ?_⟩, ?_⟩
    · rwa [List.getD_eq_getElem?_getD, List.getElem?_eq_getElem inside] at inRow
    · rw [beq_iff_eq] at same ⊢
      omega

/-- The builder of some rows. -/
def builderOfRows (coords : List (Coordinate R)) (idents : List FixedIdent) (count_lt : coords.length < 2 ^ 31)
    (idents_length : idents.length = coords.length) {firstAirportVertex : Nat}
    (first_le : firstAirportVertex ≤ coords.length) {names : List Text} {rows : List (List (GraphEdge R))}
    (wired : WellWired coords.length firstAirportVertex names rows) : GraphBuilder R where
  graph := graphOfRows coords count_lt first_le wired
  idents := idents
  hasOutboundFlags := rows.map fun row => !row.isEmpty
  hasInboundFlags := markInbound rows.flatten (List.replicate coords.length false)
  firstAirportVertex := firstAirportVertex
  airwayNames := names
  idents_length := idents_length
  firstAirportVertex_le := first_le
  hasOutboundFlags_eq := by
    rw [map_eq_map_range wired.length [], NavGraph.vertices, List.map_map]
    refine List.map_congr_left fun v listed => ?_
    exact congrArg (fun row : List (GraphEdge R) => !row.isEmpty)
      (edgesFrom_graphOfRows wired (List.mem_range.mp listed)).symm
  hasInboundFlags_eq := by
    have length : (markInbound rows.flatten (List.replicate coords.length false)).length = coords.length := by
      rw [length_markInbound, List.length_replicate]
    rw [← List.map_id (markInbound _ _), map_eq_map_range length false, NavGraph.vertices, List.map_map]
    refine List.map_congr_left fun v listed => ?_
    have inside := List.mem_range.mp listed
    have unmarked : (List.replicate coords.length false).getD v false = false := by
      rw [List.getD_eq_getElem?_getD, List.getElem?_replicate_of_lt inside, Option.getD_some]
    rw [id, getD_markInbound _ _ (by rwa [List.length_replicate]), any_flatten_eq wired, unmarked, Bool.false_or,
      Function.comp_apply, Bool.eq_iff_iff, List.any_eq_true, List.any_eq_true]
    constructor
    · rintro ⟨source, bound, found⟩
      refine ⟨Int.ofNat source, List.mem_map_of_mem bound, ?_⟩
      rwa [show (Int.ofNat source) = (source : Int) from rfl, edgesFrom_graphOfRows wired (List.mem_range.mp bound)]
    · rintro ⟨_, listed, found⟩
      rcases List.mem_map.mp listed with ⟨source, bound, rfl⟩
      rw [show (Int.ofNat source) = (source : Int) from rfl,
        edgesFrom_graphOfRows wired (List.mem_range.mp bound)] at found
      exact ⟨source, bound, found⟩
  waypoint_of_edge v inRange edge member := by
    rcases List.mem_map.mp inRange with ⟨index, bound, rfl⟩
    rw [show (Int.ofNat index) = (index : Int) from rfl, edgesFrom_graphOfRows wired (List.mem_range.mp bound)] at member
    exact ⟨Int.ofNat_lt.mpr (wired.source index edge member), (wired.target index edge member).2⟩
  airwayId_lt v inRange edge member := by
    rcases List.mem_map.mp inRange with ⟨index, bound, rfl⟩
    rw [show (Int.ofNat index) = (index : Int) from rfl, edgesFrom_graphOfRows wired (List.mem_range.mp bound)] at member
    exact wired.airwayId index edge member

end Rows

/-! ## Adding the connections -/

/-- The names and rows while connections are added. -/
structure Wiring (R : Type) where
  airwayNames : List Text
  airwayOverflow : Bool
  rows : List (List (GraphEdge R))

/-- `airway_id_for`.  `name_to_id` holds each name after the first with its place,
so it is read off the names.  No id stands for the `-1` of a full table. -/
def Wiring.airwayIdFor {R : Type} (wiring : Wiring R) (name : Text) : Wiring R × Option Nat :=
  if wiring.airwayNames.tail.contains name then (wiring, some (wiring.airwayNames.tail.idxOf name + 1))
  else if 0xFFFF < wiring.airwayNames.length then ({ wiring with airwayOverflow := true }, none)
  else ({ wiring with airwayNames := wiring.airwayNames ++ [name] }, some wiring.airwayNames.length)

/-- What edges are made with: the tables of the vertices, the trigonometry, and
the conversion of a length to a `float`. -/
structure Surveyor (R : Type) [LinearOrder R] [Zero R] where
  tables : GraphBuilder R
  earth : Geodesy R
  narrow : R -> R

namespace Surveyor

variable {R : Type} [LinearOrder R] [Zero R] (surveyor : Surveyor R)

/-- The edge that `add_edge` pushes.  An id is at most `0xFFFF`, so its cast keeps it. -/
def edgeTo (source target : Int) (airwayId : Nat) (s : AirwaySegment) : GraphEdge R :=
  ⟨target, surveyor.narrow (surveyor.earth.distanceTo (surveyor.tables.graph.coordOf source)
    (surveyor.tables.graph.coordOf target)), airwayId, toInt16 s.baseFl, toInt16 s.topFl, s.level⟩

/-- `add_edge`. -/
def addEdge (wiring : Wiring R) (source target : Int) (airwayId : Nat) (s : AirwaySegment) : Wiring R :=
  { wiring with
    rows := wiring.rows.modify source.toNat fun row => row ++ [surveyor.edgeTo source target airwayId s] }

variable [One R]

/-- `resolve`: a position picks among the points of the key. -/
def resolve (ident : Ident) (hint : Option (Coordinate R)) : Int :=
  match hint with
  | none => surveyor.tables.vertexByFullIdent ident
  | some near =>
      match FixedIdent.fromIdent ident with
      | .error _ => -1
      | .ok key => surveyor.tables.vertexNear surveyor.earth key near kFixHintToleranceNm

/-- One turn of the loop over the airways. -/
def connect (wiring : Wiring R) (conn : AirwayConnection R) : Wiring R :=
  let source := surveyor.resolve conn.from conn.fromHint
  let target := surveyor.resolve conn.to conn.toHint
  if source < 0 ∨ target < 0 then wiring
  else
    match wiring.airwayIdFor conn.segment.name with
    | (named, none) => named
    | (named, some airwayId) =>
        let forward :=
          if conn.segment.direction ≠ .kBackward then surveyor.addEdge named source target airwayId conn.segment
          else named
        if conn.segment.direction ≠ .kForward then surveyor.addEdge forward target source airwayId conn.segment
        else forward

/-- The connections, wired in order. -/
def wire (airways : List (AirwayConnection R)) : Wiring R :=
  airways.foldl surveyor.connect
    ⟨[kDctToken], false, List.replicate surveyor.tables.graph.coords.length []⟩

end Surveyor

/-! ## What is wired -/

section Wired

variable {R : Type}

/-- A wiring over the vertices of some tables. -/
structure Wiring.Sound (tables : GraphBuilder R) (wiring : Wiring R) : Prop where
  wired : WellWired tables.graph.coords.length tables.firstAirportVertex wiring.airwayNames wiring.rows
  named : wiring.airwayNames ≠ []

/-- A row after an edge was pushed to some row. -/
theorem getD_modify {rows : List (List (GraphEdge R))} {v : Nat} (inside : v < rows.length) (row : Nat)
    (edge : GraphEdge R) :
    (rows.modify row fun row => row ++ [edge]).getD v [] =
      rows.getD v [] ++ if row = v then [edge] else [] := by
  rw [List.getD_eq_getElem?_getD, List.getD_eq_getElem?_getD, List.getElem?_modify, List.getElem?_eq_getElem inside]
  split_ifs with here
  · rfl
  · rw [List.append_nil]
    rfl

theorem mem_modify_row {rows : List (List (GraphEdge R))} {row v : Nat} {edge other : GraphEdge R}
    (member : other ∈ (rows.modify row fun row => row ++ [edge]).getD v []) :
    other ∈ rows.getD v [] ∨ other = edge ∧ v = row := by
  by_cases inside : v < rows.length
  · rw [getD_modify inside, List.mem_append] at member
    refine member.imp id fun pushed => ?_
    split_ifs at pushed with here
    · exact ⟨List.mem_singleton.mp pushed, here.symm⟩
    · cases pushed
  · rw [List.getD_eq_getElem?_getD, List.getElem?_eq_none (by rw [List.length_modify]; omega)] at member
    cases member

theorem row_empty (total v : Nat) : (List.replicate total ([] : List (GraphEdge R))).getD v [] = [] := by
  rw [List.getD_eq_getElem?_getD, List.getElem?_replicate]
  split_ifs <;> rfl

/-- No edge, nothing to keep. -/
theorem wellWired_empty (total first : Nat) (names : List Text) :
    WellWired total first names (List.replicate total ([] : List (GraphEdge R))) where
  length := List.length_replicate
  source v _ member := absurd (row_empty total v ▸ member) List.not_mem_nil
  target v _ member := absurd (row_empty total v ▸ member) List.not_mem_nil
  airwayId v _ member := absurd (row_empty total v ▸ member) List.not_mem_nil

/-- A row of waypoints takes another edge between waypoints. -/
theorem WellWired.modify {total first : Nat} {names : List Text} {rows : List (List (GraphEdge R))}
    (wired : WellWired total first names rows) {source : Nat} {edge : GraphEdge R} (isWaypoint : source < first)
    (target : 0 ≤ edge.toVertex ∧ edge.toVertex < first) (named : edge.airwayId < names.length) :
    WellWired total first names (rows.modify source fun row => row ++ [edge]) where
  length := by rw [List.length_modify, wired.length]
  source v other member := by
    rcases mem_modify_row member with old | ⟨rfl, rfl⟩
    · exact wired.source v other old
    · exact isWaypoint
  target v other member := by
    rcases mem_modify_row member with old | ⟨rfl, rfl⟩
    · exact wired.target v other old
    · exact target
  airwayId v other member := by
    rcases mem_modify_row member with old | ⟨rfl, rfl⟩
    · exact wired.airwayId v other old
    · exact named

/-- What a name's id is: a place of the name, after those taken before. -/
structure Wiring.Names (before after : Wiring R) (name : Text) (airwayId : Nat) : Prop where
  kept : before.airwayNames <+: after.airwayNames
  named : after.airwayNames[airwayId]? = some name
  isAirway : airwayId ≠ 0
  rows : after.rows = before.rows
  overflow : after.airwayOverflow = before.airwayOverflow

/-- A name gets an id, or the table is full. -/
theorem Wiring.airwayIdFor_cases {wiring : Wiring R} (named : wiring.airwayNames ≠ []) (name : Text) :
    wiring.airwayIdFor name = ({ wiring with airwayOverflow := true }, none) ∨
      exists after airwayId, wiring.airwayIdFor name = (after, some airwayId) ∧ wiring.Names after name airwayId := by
  rw [airwayIdFor]
  split_ifs with known full
  · refine Or.inr ⟨_, _, rfl, List.prefix_rfl, ?_, Nat.succ_ne_zero _, rfl, rfl⟩
    rw [← List.getElem?_tail]
    exact List.getElem?_idxOf (List.contains_iff_mem.mp known)
  · exact Or.inl rfl
  · refine Or.inr ⟨_, _, rfl, List.prefix_append _ _, ?_, ?_, rfl, rfl⟩
    · rw [List.getElem?_append_right (Nat.le_refl _), Nat.sub_self]
      rfl
    · exact fun none => named (List.length_eq_zero_iff.mp none)

end Wired

/-- The ways a segment may be flown between its ends. -/
def AirwayDirection.ways (direction : AirwayDirection) (source target : Int) : List (Int × Int) :=
  (if direction ≠ .kBackward then [(source, target)] else []) ++
    if direction ≠ .kForward then [(target, source)] else []

namespace Surveyor

variable {R : Type} [LinearOrder R] [Zero R] {surveyor : Surveyor R}

/-- Push an edge for each way. -/
def addEdges (surveyor : Surveyor R) (wiring : Wiring R) (airwayId : Nat) (s : AirwaySegment)
    (ways : List (Int × Int)) : Wiring R :=
  ways.foldl (fun wiring way => surveyor.addEdge wiring way.1 way.2 airwayId s) wiring

variable [One R]

/-- One connection leaves the wiring as it is, finds the table of names full, or
pushes an edge for each way the segment may be flown. -/
theorem connect_cases (surveyor : Surveyor R) {wiring : Wiring R} (named : wiring.airwayNames ≠ []) (conn : AirwayConnection R) :
    (surveyor.resolve conn.from conn.fromHint < 0 ∨ surveyor.resolve conn.to conn.toHint < 0) ∧
        surveyor.connect wiring conn = wiring ∨
      (0 ≤ surveyor.resolve conn.from conn.fromHint ∧ 0 ≤ surveyor.resolve conn.to conn.toHint) ∧
        (surveyor.connect wiring conn = { wiring with airwayOverflow := true } ∨
          exists after airwayId, wiring.Names after conn.segment.name airwayId ∧
            surveyor.connect wiring conn = surveyor.addEdges after airwayId conn.segment
              (conn.segment.direction.ways (surveyor.resolve conn.from conn.fromHint)
                (surveyor.resolve conn.to conn.toHint))) := by
  rw [connect]
  simp only
  by_cases absent : surveyor.resolve conn.from conn.fromHint < 0 ∨ surveyor.resolve conn.to conn.toHint < 0
  · exact Or.inl ⟨absent, if_pos absent⟩
  · refine Or.inr ⟨by rwa [not_or, Int.not_lt, Int.not_lt] at absent, ?_⟩
    rw [if_neg absent]
    rcases Wiring.airwayIdFor_cases named conn.segment.name with full | ⟨after, airwayId, given, names⟩
    · exact Or.inl (by rw [full])
    · refine Or.inr ⟨after, airwayId, names, ?_⟩
      rw [given, AirwayDirection.ways, addEdges]
      simp only
      split_ifs <;> rfl

omit [LinearOrder R] [Zero R] [One R] in
/-- A key leads to waypoints. -/
theorem bounds_of_mem_keyedVertices {tables : GraphBuilder R} {key : FixedIdent} {v : Int}
    (member : v ∈ tables.keyedVertices key) : 0 ≤ v ∧ v < tables.firstAirportVertex := by
  rcases List.mem_map.mp member with ⟨⟨fixed, index⟩, listed, rfl⟩
  have bound := List.snd_lt_of_mem_zipIdx (List.mem_filter.mp listed).1
  rw [List.length_take] at bound
  have below : index < tables.firstAirportVertex := by omega
  exact ⟨Int.natCast_nonneg _, Int.ofNat_lt.mpr below⟩

/-- The point that a connection means, of those with its identifier in load order:
the nearest to its position within the tolerance, and without a position the
first loaded. -/
def meantPoint (earth : Geodesy R) (positionOf : Int -> Coordinate R) (points : List Int)
    (hint : Option (Coordinate R)) : Option Int :=
  match hint with
  | none => points.head?
  | some near =>
      (points.filter fun v => earth.distanceTo near (positionOf v) ≤ kFixHintToleranceNm).argmin fun v =>
        earth.distanceTo near (positionOf v)

theorem mem_of_meantPoint {earth : Geodesy R} {positionOf : Int -> Coordinate R} {points : List Int}
    {hint : Option (Coordinate R)} {v : Int} (meant : meantPoint earth positionOf points hint = some v) :
    v ∈ points := by
  rcases hint with _ | near
  · exact List.mem_of_mem_head? meant
  · exact (List.mem_filter.mp (List.argmin_mem meant)).1

/-- The waypoints of an identifier, in load order. -/
def candidates (surveyor : Surveyor R) (ident : Ident) : List Int :=
  match FixedIdent.fromIdent ident with
  | .error _ => []
  | .ok key => surveyor.tables.keyedVertices key

theorem resolve_eq (surveyor : Surveyor R) (ident : Ident) (hint : Option (Coordinate R)) :
    surveyor.resolve ident hint =
      (meantPoint surveyor.earth surveyor.tables.graph.coordOf (surveyor.candidates ident) hint).getD (-1) := by
  rcases hint with _ | near
  · rw [resolve, GraphBuilder.vertexByFullIdent, candidates, meantPoint]
    rcases FixedIdent.fromIdent ident with _ | key
    · rfl
    · exact GraphBuilder.vertexByIdent_eq _ key
  · rw [resolve, candidates, meantPoint]
    rcases FixedIdent.fromIdent ident with _ | key
    · rfl
    · exact GraphBuilder.vertexNear_eq _ _ key near _

omit [One R] in
theorem bounds_of_mem_candidates {ident : Ident} {v : Int} (member : v ∈ surveyor.candidates ident) :
    0 ≤ v ∧ v < surveyor.tables.firstAirportVertex := by
  rw [candidates] at member
  rcases packed : FixedIdent.fromIdent ident with _ | key
  · rw [packed] at member
    cases member
  · rw [packed] at member
    exact bounds_of_mem_keyedVertices member

/-- An end resolves to the point that is meant, if there is one. -/
theorem resolve_cases (surveyor : Surveyor R) (ident : Ident) (hint : Option (Coordinate R)) :
    (surveyor.resolve ident hint < 0 ∧
        meantPoint surveyor.earth surveyor.tables.graph.coordOf (surveyor.candidates ident) hint = none) ∨
      (0 ≤ surveyor.resolve ident hint ∧ surveyor.resolve ident hint < surveyor.tables.firstAirportVertex) ∧
        meantPoint surveyor.earth surveyor.tables.graph.coordOf (surveyor.candidates ident) hint =
          some (surveyor.resolve ident hint) := by
  rw [resolve_eq]
  rcases meant : meantPoint surveyor.earth surveyor.tables.graph.coordOf (surveyor.candidates ident) hint with _ | v
  · exact Or.inl ⟨by rw [Option.getD_none]; decide, rfl⟩
  · exact Or.inr ⟨bounds_of_mem_candidates (mem_of_meantPoint meant), rfl⟩

theorem bounds_of_resolve {ident : Ident} {hint : Option (Coordinate R)} (found : 0 ≤ surveyor.resolve ident hint) :
    0 ≤ surveyor.resolve ident hint ∧ surveyor.resolve ident hint < surveyor.tables.firstAirportVertex := by
  rcases surveyor.resolve_cases ident hint with ⟨absent, _⟩ | ⟨bounds, _⟩
  · exact absurd found (Int.not_le.mpr absent)
  · exact bounds

omit [One R] in
/-- Edges between waypoints keep the wiring sound, and the names as they are. -/
theorem sound_addEdges {wiring : Wiring R} (sound : wiring.Sound surveyor.tables) {airwayId : Nat}
    (isId : airwayId < wiring.airwayNames.length) (s : AirwaySegment) {ways : List (Int × Int)}
    (waypoints : forall way, way ∈ ways -> (0 ≤ way.1 ∧ way.1 < surveyor.tables.firstAirportVertex) ∧
      0 ≤ way.2 ∧ way.2 < surveyor.tables.firstAirportVertex) :
    (surveyor.addEdges wiring airwayId s ways).Sound surveyor.tables ∧
      (surveyor.addEdges wiring airwayId s ways).airwayNames = wiring.airwayNames ∧
      (surveyor.addEdges wiring airwayId s ways).airwayOverflow = wiring.airwayOverflow := by
  induction ways generalizing wiring with
  | nil => exact ⟨sound, rfl, rfl⟩
  | cons way rest inductionHypothesis =>
      rw [addEdges, List.foldl_cons, ← addEdges]
      have ends := waypoints way List.mem_cons_self
      have source : way.1.toNat < surveyor.tables.firstAirportVertex := by omega
      have pushed : (surveyor.addEdge wiring way.1 way.2 airwayId s).Sound surveyor.tables :=
        ⟨sound.wired.modify source ends.2 isId, sound.named⟩
      exact inductionHypothesis pushed isId fun other member => waypoints other (List.mem_cons_of_mem _ member)

omit [One R] in
/-- What the edges add to a row. -/
theorem row_addEdges {wiring : Wiring R} {v : Nat} (inside : v < wiring.rows.length) (airwayId : Nat)
    (s : AirwaySegment) (ways : List (Int × Int)) :
    (surveyor.addEdges wiring airwayId s ways).rows.getD v [] = wiring.rows.getD v [] ++
      (ways.filter fun way => way.1.toNat = v).map fun way => surveyor.edgeTo way.1 way.2 airwayId s := by
  induction ways generalizing wiring with
  | nil => exact (List.append_nil _).symm
  | cons way rest inductionHypothesis =>
      have still : v < (surveyor.addEdge wiring way.1 way.2 airwayId s).rows.length := by
        rw [addEdge, List.length_modify]
        exact inside
      rw [addEdges, List.foldl_cons, ← addEdges, inductionHypothesis still, addEdge, getD_modify inside,
        List.append_assoc, List.filter_cons]
      split_ifs with here isHere isHere
      · rfl
      · exact absurd (decide_eq_true here) isHere
      · exact absurd (of_decide_eq_true isHere) here
      · rfl

theorem mem_ways {direction : AirwayDirection} {source target : Int} {way : Int × Int}
    (member : way ∈ direction.ways source target) : way = (source, target) ∨ way = (target, source) := by
  rw [AirwayDirection.ways, List.mem_append] at member
  refine member.imp (fun forward => ?_) fun backward => ?_
  · split_ifs at forward
    · exact List.mem_singleton.mp forward
    · cases forward
  · split_ifs at backward
    · exact List.mem_singleton.mp backward
    · cases backward

omit [One R] in
/-- Names with one more id are those before. -/
theorem sound_names {wiring after : Wiring R} {name : Text} {airwayId : Nat} (sound : wiring.Sound surveyor.tables)
    (names : wiring.Names after name airwayId) :
    after.Sound surveyor.tables ∧ airwayId < after.airwayNames.length := by
  have more := names.kept.length_le
  refine ⟨⟨?_, fun none => ?_⟩, (List.getElem?_eq_some_iff.mp names.named).1⟩
  · rw [names.rows]
    exact ⟨sound.wired.length, sound.wired.source, sound.wired.target, fun v edge member =>
      (sound.wired.airwayId v edge member).trans_le more⟩
  · rw [none] at more
    exact sound.named (List.length_eq_zero_iff.mp (Nat.le_zero.mp more))

theorem sound_connect {wiring : Wiring R} (sound : wiring.Sound surveyor.tables) (conn : AirwayConnection R) :
    (surveyor.connect wiring conn).Sound surveyor.tables := by
  rcases connect_cases surveyor sound.named conn with ⟨_, same⟩ | ⟨resolved, full | wired⟩
  · rwa [same]
  · rw [full]
    exact ⟨sound.wired, sound.named⟩
  · rcases wired with ⟨after, airwayId, names, same⟩
    rcases sound_names sound names with ⟨soundAfter, isId⟩
    rw [same]
    have source := bounds_of_resolve resolved.1
    have target := bounds_of_resolve resolved.2
    refine (sound_addEdges soundAfter isId conn.segment fun way member => ?_).1
    rcases mem_ways member with rfl | rfl
    · exact ⟨source, target⟩
    · exact ⟨target, source⟩

/-- The run of the loop. -/
theorem sound_wire (surveyor : Surveyor R) (airways : List (AirwayConnection R)) :
    (surveyor.wire airways).Sound surveyor.tables := by
  induction airways using List.reverseRecOn with
  | nil =>
      exact ⟨wellWired_empty _ _ _, List.cons_ne_nil _ _⟩
  | append_singleton front conn inductionHypothesis =>
      rw [wire, List.foldl_append, ← wire]
      exact sound_connect inductionHypothesis conn

end Surveyor

/-! ## Building -/

section Building

variable {R : Type}

/-- The identifier of a waypoint's vertex. -/
def packWaypoint (w : Waypoint R) : Except Error FixedIdent :=
  if !w.kind.isGraphVertexKind then
    .error ⟨.kInvalidArgument, ofString "waypoint '" ++ w.ident.ident ++ ofString "/" ++ w.ident.arinc424IcaoCode ++
      ofString "' has a kind that is never a graph vertex"⟩
  else FixedIdent.fromIdent w.ident

/-- The identifier of an airport's vertex. -/
def packAirport (a : Airport R) : Except Error FixedIdent :=
  FixedIdent.fromParts a.icao a.arinc424IcaoCode

/-- What packing each element of a list gives. -/
theorem forall₂_of_mapM_ok {A B E : Type} {f : A -> Except E B} {list : List A} {results : List B}
    (mapped : list.mapM f = .ok results) : List.Forall₂ (fun a b => f a = .ok b) list results := by
  induction list generalizing results with
  | nil =>
      cases mapped
      exact List.Forall₂.nil
  | cons first rest inductionHypothesis =>
      rw [List.mapM_cons] at mapped
      rcases head : f first with error | packed
      · rw [head] at mapped
        cases mapped
      · rcases tail : rest.mapM f with error | others
        · rw [head, tail] at mapped
          cases mapped
        · rw [head, tail] at mapped
          cases mapped
          exact List.Forall₂.cons head (inductionHypothesis tail)

/-- The identifiers of all vertices. -/
structure PackedIdents (data : NavData R) where
  waypoints : List FixedIdent
  airports : List FixedIdent
  waypoints_packed : List.Forall₂ (fun w fixed => packWaypoint w = .ok fixed) data.waypoints waypoints
  airports_packed : List.Forall₂ (fun a fixed => packAirport a = .ok fixed) data.airports airports

/-- The first part of `Populate`: the identifiers, or the first that is refused. -/
def packIdents (data : NavData R) : Except Error (PackedIdents data) :=
  match waypointsMapped : data.waypoints.mapM packWaypoint with
  | .error e => .error e
  | .ok waypoints =>
      match airportsMapped : data.airports.mapM packAirport with
      | .error e => .error e
      | .ok airports =>
          .ok ⟨waypoints, airports, forall₂_of_mapM_ok waypointsMapped, forall₂_of_mapM_ok airportsMapped⟩

/-- The positions of the vertices. -/
def NavData.coords (data : NavData R) : List (Coordinate R) :=
  data.waypoints.map Waypoint.coord ++ data.airports.map Airport.coord

theorem NavData.length_coords (data : NavData R) :
    data.coords.length = data.waypoints.length + data.airports.length := by
  rw [coords, List.length_append, List.length_map, List.length_map]

theorem NavData.length_coords_lt (data : NavData R) : data.coords.length < 2 ^ 31 :=
  data.length_coords ▸ data.count_lt

theorem NavData.first_le (data : NavData R) : data.waypoints.length ≤ data.coords.length :=
  data.length_coords ▸ Nat.le_add_right _ _

namespace PackedIdents

variable {data : NavData R} (packed : PackedIdents data)

theorem length_idents : (packed.waypoints ++ packed.airports).length = data.coords.length := by
  rw [List.length_append, data.length_coords, packed.waypoints_packed.length_eq, packed.airports_packed.length_eq]

/-- The builder of some rows over the vertices. -/
def builder {names : List Text} {rows : List (List (GraphEdge R))}
    (wired : WellWired data.coords.length data.waypoints.length names rows) : GraphBuilder R :=
  builderOfRows data.coords (packed.waypoints ++ packed.airports) data.length_coords_lt packed.length_idents
    data.first_le wired

theorem edgesFrom_builder {names : List Text} {rows : List (List (GraphEdge R))}
    (wired : WellWired data.coords.length data.waypoints.length names rows) {v : Nat} (inside : v < data.coords.length) :
    (packed.builder wired).graph.edgesFrom v = rows.getD v [] := by
  show (graphOfRows data.coords data.length_coords_lt data.first_le wired).edgesFrom v = rows.getD v []
  exact edgesFrom_graphOfRows wired inside

/-- The tables of the vertices, before any edge. -/
def tables : GraphBuilder R :=
  packed.builder (wellWired_empty data.coords.length data.waypoints.length [kDctToken])

/-- What the edges are made with. -/
def surveyor [LinearOrder R] [Zero R] (earth : Geodesy R) (narrow : R -> R) : Surveyor R :=
  ⟨packed.tables, earth, narrow⟩

end PackedIdents

/-- `Build`, that is `Populate` into an empty builder. -/
def build [LinearOrder R] [Zero R] [One R] (earth : Geodesy R) (narrow : R -> R) (data : NavData R) :
    Except Error (BuiltGraph R) :=
  match packIdents data with
  | .error e => .error e
  | .ok packed =>
      .ok
        { toGraphBuilder := packed.builder ((packed.surveyor earth narrow).sound_wire data.airways).wired
          kinds := data.waypoints.map Waypoint.kind ++ data.airports.map fun _ => .kFix
          airportElevationsFt := data.airports.map Airport.elevationFt
          airwayOverflow := ((packed.surveyor earth narrow).wire data.airways).airwayOverflow }

end Building
end BravoFinder
