import BravoFinder.Build.FaithfulGraph
import BravoFinder.Build.IndexScans
import BravoFinder.Cache.GraphRoundTrip

namespace BravoFinder

/-!
# The cached graph answers like the parsed one

A builder is a handful of arrays and what is rebuilt from them.  `ToSnapshot`
copies the arrays out and `FromSnapshot` moves them in, in the widths of the
source.  What a build produces fits these widths, so a graph that was encoded and
decoded has the arrays of the one that was parsed, and gives its answers.
-/

/-- How numbers are stored: the bits of a `double` and of a `float`, and what the
bits mean. -/
structure NumberFormat (R : Type) where
  bits : R -> F64
  ofBits : F64 -> R
  bits32 : R -> F32
  ofBits32 : F32 -> R

/-- The cast from a byte that `Decode` let through. -/
def AirwayLevel.ofByte (byte : UInt8) : AirwayLevel :=
  if byte = 0 then .kLow else if byte = 1 then .kHigh else .kBoth

theorem AirwayLevel.ofByte_toByte (level : AirwayLevel) : ofByte level.toByte = level := by
  cases level <;> rfl

/-- The cast from a byte that `Decode` let through. -/
def WaypointKind.ofByte (byte : UInt8) : WaypointKind :=
  (NavDetailCodec.kindOfByte byte).getD .kFix

theorem WaypointKind.ofByte_toByte (kind : WaypointKind) : ofByte kind.toByte = kind := by
  rw [ofByte, NavDetailCodec.kindOfByte_toByte, Option.getD_some]

namespace NumberFormat

variable {R : Type} (format : NumberFormat R)

/-- A number that is a `double`. -/
def IsDouble (x : R) : Prop := format.ofBits (format.bits x) = x

/-- A number that is a `float`. -/
def IsSingle (x : R) : Prop := format.ofBits32 (format.bits32 x) = x

def stored (c : Coordinate R) : Coordinate F64 := ⟨format.bits c.latitude, format.bits c.longitude⟩

def loaded (c : Coordinate F64) : Coordinate R := ⟨format.ofBits c.latitude, format.ofBits c.longitude⟩

/-- An edge in its stored widths. -/
def storedEdge (edge : GraphEdge R) : PackedEdge :=
  ⟨Int32.ofInt edge.toVertex, format.bits32 edge.distanceNm, UInt16.ofNat edge.airwayId, Int16.ofInt edge.baseFl,
    Int16.ofInt edge.topFl, edge.level.toByte⟩

def loadedEdge (edge : PackedEdge) : GraphEdge R :=
  ⟨edge.toVertex.toInt, format.ofBits32 edge.distanceNm, edge.airwayId.toNat, edge.baseFl.toInt, edge.topFl.toInt,
    AirwayLevel.ofByte edge.level⟩

end NumberFormat

/-- The arrays of a `GraphBuilder`. -/
structure GraphArrays (R : Type) where
  coords : List (Coordinate R)
  offsets : List Int
  edges : List (GraphEdge R)
  idents : List FixedIdent
  hasOutboundFlags : List UInt8
  hasInboundFlags : List UInt8
  kinds : List WaypointKind
  airportElevationsFt : List Int
  airwayNames : List Text
  firstAirportVertex : Int

namespace GraphArrays

variable {R : Type}

/-- `ToSnapshot`.  The altitudes are not the builder's. -/
def toSnapshot (format : NumberFormat R) (arrays : GraphArrays R) : GraphSnapshot where
  firstAirportVertex := Int32.ofInt arrays.firstAirportVertex
  coords := arrays.coords.map format.stored
  offsets := arrays.offsets.map Int32.ofInt
  edges := arrays.edges.map format.storedEdge
  hasOutbound := arrays.hasOutboundFlags
  hasInbound := arrays.hasInboundFlags
  idents := arrays.idents
  kinds := arrays.kinds.map WaypointKind.toByte
  airwayNames := arrays.airwayNames
  mora := .unknown
  msa := []
  airportElevationsFt := arrays.airportElevationsFt.map Int32.ofInt

/-- `FromSnapshot`, before the indices are rebuilt. -/
def fromSnapshot (format : NumberFormat R) (snapshot : GraphSnapshot) : GraphArrays R where
  coords := snapshot.coords.map format.loaded
  offsets := snapshot.offsets.map Int32.toInt
  edges := snapshot.edges.map format.loadedEdge
  idents := snapshot.idents
  hasOutboundFlags := snapshot.hasOutbound
  hasInboundFlags := snapshot.hasInbound
  kinds := snapshot.kinds.map WaypointKind.ofByte
  airportElevationsFt := snapshot.airportElevationsFt.map Int32.toInt
  airwayNames := snapshot.airwayNames
  firstAirportVertex := snapshot.firstAirportVertex.toInt

/-! ## Queries -/

def vertexCount (arrays : GraphArrays R) : Int := arrays.coords.length

def coordOf [Zero R] (arrays : GraphArrays R) (vertex : Int) : Coordinate R :=
  arrays.coords.getD vertex.toNat ⟨0, 0⟩

/-- The range `[EdgesBegin, EdgesEnd)`. -/
def edgesFrom (arrays : GraphArrays R) (vertex : Int) : List (GraphEdge R) :=
  (arrays.edges.take (arrays.offsets.getD (vertex.toNat + 1) 0).toNat).drop
    (arrays.offsets.getD vertex.toNat 0).toNat

/-- `IdentOf`. -/
def identOf (arrays : GraphArrays R) (vertex : Int) : Ident :=
  match arrays.idents[vertex.toNat]? with
  | none => ⟨[], []⟩
  | some fixed => ⟨fixed.ident, fixed.arinc424IcaoCode⟩

def regionOf (arrays : GraphArrays R) (vertex : Int) : Text :=
  (arrays.identOf vertex).arinc424IcaoCode

def kindOf (arrays : GraphArrays R) (vertex : Int) : WaypointKind :=
  arrays.kinds.getD vertex.toNat .kFix

def airwayName (arrays : GraphArrays R) (airwayId : Nat) : Text :=
  arrays.airwayNames.getD airwayId []

def hasOutbound (arrays : GraphArrays R) (vertex : Int) : Bool :=
  decide (0 ≤ vertex ∧ vertex < arrays.hasOutboundFlags.length) && arrays.hasOutboundFlags.getD vertex.toNat 0 != 0

def hasInbound (arrays : GraphArrays R) (vertex : Int) : Bool :=
  decide (0 ≤ vertex ∧ vertex < arrays.hasInboundFlags.length) && arrays.hasInboundFlags.getD vertex.toNat 0 != 0

def isAirport (arrays : GraphArrays R) (vertex : Int) : Bool :=
  decide (arrays.firstAirportVertex ≤ vertex ∧ vertex < arrays.vertexCount)

/-- `ElevationOf`. -/
def elevationOf (arrays : GraphArrays R) (vertex : Int) : Int :=
  if vertex < arrays.firstAirportVertex ∨ (arrays.idents.length : Int) ≤ vertex then 0
  else arrays.airportElevationsFt.getD (vertex - arrays.firstAirportVertex).toNat 0

/-- `RebuildIndices`, with the sort left open. -/
structure Indexes (arrays : GraphArrays R) (indices : PackedIndices) : Prop where
  identIndex : PackedIndex.Sorts PackedIdent.less
    ((arrays.idents.take arrays.firstAirportVertex.toNat).zipIdx.map fun entry =>
      (PackedIdent.ofFixed entry.1, (entry.2 : Int))) indices.identIndex
  identAll : PackedIndex.Sorts PackedText.less
    ((arrays.idents.take arrays.firstAirportVertex.toNat).zipIdx.map fun entry =>
      (GraphBuilder.packedName entry.1, (entry.2 : Int))) indices.identAll
  airportIndex : PackedIndex.Sorts PackedText.less
    (((arrays.idents.drop arrays.firstAirportVertex.toNat).zipIdx arrays.firstAirportVertex.toNat).map fun entry =>
      (GraphBuilder.packedName entry.1, (entry.2 : Int))) indices.airportIndex

/-- `VertexNear`. -/
def vertexNear [LinearOrder R] [Zero R] (arrays : GraphArrays R) (indices : PackedIndices) (earth : Geodesy R)
    (key : PackedIdent) (near : Coordinate R) (maxNm : R) : Int :=
  ((PackedIndex.range PackedIdent.less PackedIdent.equal indices.identIndex key).foldl (fun best entry =>
    let nm := earth.distanceTo near (arrays.coordOf entry.2)
    if nm ≤ best.2 ∧ (best.1 < 0 ∨ nm < best.2) then (entry.2, nm) else best) (-1, maxNm)).1

end GraphArrays

namespace BuiltGraph

variable {R : Type}

/-- The arrays behind a builder. -/
def arrays (built : BuiltGraph R) : GraphArrays R where
  coords := built.graph.coords
  offsets := built.graph.offsets.map Int.ofNat
  edges := built.graph.edges
  idents := built.idents
  hasOutboundFlags := built.hasOutboundFlags.map fun flag => if flag then 1 else 0
  hasInboundFlags := built.hasInboundFlags.map fun flag => if flag then 1 else 0
  kinds := built.kinds
  airportElevationsFt := built.airportElevationsFt
  airwayNames := built.airwayNames
  firstAirportVertex := built.firstAirportVertex

/-- The snapshot that is cached, with the altitudes of the database. -/
def snapshotWith (built : BuiltGraph R) (format : NumberFormat R) (mora : MoraGrid) (msa : List MsaSector) :
    GraphSnapshot :=
  { built.arrays.toSnapshot format with mora := mora, msa := msa }

section Snapshot

variable (built : BuiltGraph R) (format : NumberFormat R) (mora : MoraGrid) (msa : List MsaSector)

@[simp] theorem snapshotWith_coords :
    (built.snapshotWith format mora msa).coords = built.graph.coords.map format.stored := rfl
@[simp] theorem snapshotWith_offsets :
    (built.snapshotWith format mora msa).offsets = (built.graph.offsets.map Int.ofNat).map Int32.ofInt := rfl
@[simp] theorem snapshotWith_edges :
    (built.snapshotWith format mora msa).edges = built.graph.edges.map format.storedEdge := rfl
@[simp] theorem snapshotWith_idents : (built.snapshotWith format mora msa).idents = built.idents := rfl
@[simp] theorem snapshotWith_kinds :
    (built.snapshotWith format mora msa).kinds = built.kinds.map WaypointKind.toByte := rfl
@[simp] theorem snapshotWith_airwayNames : (built.snapshotWith format mora msa).airwayNames = built.airwayNames := rfl
@[simp] theorem snapshotWith_airportElevationsFt :
    (built.snapshotWith format mora msa).airportElevationsFt = built.airportElevationsFt.map Int32.ofInt := rfl
@[simp] theorem snapshotWith_firstAirportVertex :
    (built.snapshotWith format mora msa).firstAirportVertex = Int32.ofInt built.firstAirportVertex := rfl

@[simp] theorem length_hasOutbound_snapshotWith :
    (built.snapshotWith format mora msa).hasOutbound.length = built.graph.coords.length := by
  have length := congrArg List.length built.hasOutboundFlags_eq
  rw [List.length_map, NavGraph.length_vertices] at length
  exact (List.length_map _).trans length

@[simp] theorem length_hasInbound_snapshotWith :
    (built.snapshotWith format mora msa).hasInbound.length = built.graph.coords.length := by
  have length := congrArg List.length built.hasInboundFlags_eq
  rw [List.length_map, NavGraph.length_vertices] at length
  exact (List.length_map _).trans length

end Snapshot

def kindOf (built : BuiltGraph R) (vertex : Int) : WaypointKind :=
  built.kinds.getD vertex.toNat .kFix

/-- `ElevationOf`. -/
def elevationOf (built : BuiltGraph R) (vertex : Int) : Int :=
  if vertex < built.firstAirportVertex ∨ (built.idents.length : Int) ≤ vertex then 0
  else built.airportElevationsFt.getD (vertex - built.firstAirportVertex).toNat 0

end BuiltGraph

/-- Arrays whose answers are a builder's, the grid of `NearestOnNetwork` aside. -/
structure AnswersAlike {R : Type} [LinearOrder R] [Zero R] (earth : Geodesy R) (arrays : GraphArrays R)
    (built : BuiltGraph R) : Prop where
  vertexCount : arrays.vertexCount = built.graph.vertexCount
  coordOf : forall vertex, arrays.coordOf vertex = built.graph.coordOf vertex
  edgesFrom : forall vertex, arrays.edgesFrom vertex = built.graph.edgesFrom vertex
  identOf : forall vertex, arrays.identOf vertex = built.identOf vertex
  regionOf : forall vertex, arrays.regionOf vertex = built.regionOf vertex
  kindOf : forall vertex, arrays.kindOf vertex = built.kindOf vertex
  airwayName : forall airwayId, arrays.airwayName airwayId = built.airwayName airwayId
  airwayNames : arrays.airwayNames = built.airwayNames
  hasOutbound : forall vertex, arrays.hasOutbound vertex = built.hasOutbound vertex
  hasInbound : forall vertex, arrays.hasInbound vertex = built.hasInbound vertex
  isAirport : forall vertex, arrays.isAirport vertex = built.isAirport vertex
  elevationOf : forall vertex, arrays.elevationOf vertex = built.elevationOf vertex
  /-- Whatever sort the indices are rebuilt with. -/
  vertexByIdent : forall indices, arrays.Indexes indices -> forall ident,
    indices.vertexByIdent ident = built.vertexByFullIdent ident
  vertexNear : forall indices, arrays.Indexes indices -> forall key near maxNm,
    arrays.vertexNear indices earth (PackedIdent.ofFixed key) near maxNm = built.vertexNear earth key near maxNm
  verticesByIdent : forall indices, arrays.Indexes indices -> forall ident,
    indices.verticesByIdent ident = built.verticesByIdent ident
  vertexByAirport : forall indices, arrays.Indexes indices -> forall icao,
    indices.vertexByAirport icao = built.vertexByAirport icao

/-! ## The arrays of a builder -/

section Arrays

variable {R : Type}

theorem getD_map_ofNat (values : List Nat) (i : Nat) : ((values.map Int.ofNat).getD i 0).toNat = values.getD i 0 := by
  rw [List.getD_eq_getElem?_getD, List.getElem?_map, List.getD_eq_getElem?_getD]
  cases values[i]? <;> rfl

/-- A flag read from a table of bytes. -/
theorem getD_map_flag (flags : List Bool) (vertex : Int) :
    (decide (0 ≤ vertex ∧ vertex < (flags.map fun flag => if flag then (1 : UInt8) else 0).length) &&
      (flags.map fun flag => if flag then (1 : UInt8) else 0).getD vertex.toNat 0 != 0) =
      (decide (0 ≤ vertex) && flags.getD vertex.toNat false) := by
  rw [List.length_map, List.getD_eq_getElem?_getD, List.getElem?_map, List.getD_eq_getElem?_getD]
  by_cases nonneg : 0 ≤ vertex
  · by_cases inside : vertex.toNat < flags.length
    · have both : 0 ≤ vertex ∧ vertex < flags.length := by omega
      rw [List.getElem?_eq_getElem inside, decide_eq_true both, decide_eq_true nonneg]
      cases flags[vertex.toNat] <;> rfl
    · have outside : ¬ (0 ≤ vertex ∧ vertex < flags.length) := by omega
      rw [decide_eq_false outside, List.getElem?_eq_none (Nat.le_of_not_lt inside), decide_eq_true nonneg]
      rfl
  · have outside : ¬ (0 ≤ vertex ∧ vertex < flags.length) := fun both => nonneg both.1
    rw [decide_eq_false outside, decide_eq_false nonneg]
    rfl

theorem answersAlike_arrays [LinearOrder R] [Zero R] (earth : Geodesy R) (built : BuiltGraph R) :
    AnswersAlike earth built.arrays built := by
  have indexes {indices : PackedIndices} (rebuilt : built.arrays.Indexes indices) : built.Indexes indices :=
    ⟨rebuilt.identIndex, rebuilt.identAll, rebuilt.airportIndex⟩
  constructor
  case vertexCount => rfl
  case coordOf => exact fun _ => rfl
  case edgesFrom =>
    intro vertex
    rw [GraphArrays.edgesFrom, NavGraph.edgesFrom]
    simp only [BuiltGraph.arrays, getD_map_ofNat]
  case identOf => exact fun _ => rfl
  case regionOf => exact fun _ => rfl
  case kindOf => exact fun _ => rfl
  case airwayName => exact fun _ => rfl
  case airwayNames => rfl
  case hasOutbound => exact fun vertex => getD_map_flag built.hasOutboundFlags vertex
  case hasInbound => exact fun vertex => getD_map_flag built.hasInboundFlags vertex
  case isAirport => exact fun _ => rfl
  case elevationOf => exact fun _ => rfl
  case vertexByIdent =>
    intro indices rebuilt ident
    rw [PackedIndices.vertexByIdent, GraphBuilder.vertexByFullIdent]
    cases FixedIdent.fromIdent ident with
    | error _ => rfl
    | ok key => exact GraphBuilder.vertexByKey_eq (indexes rebuilt) key
  case vertexNear =>
    exact fun indices rebuilt key near maxNm =>
      GraphBuilder.vertexNear_packed_eq (indexes rebuilt) earth key near maxNm
  case verticesByIdent =>
    exact fun indices rebuilt ident => GraphBuilder.verticesByIdent_packed_eq (indexes rebuilt) ident
  case vertexByAirport =>
    exact fun indices rebuilt icao => GraphBuilder.vertexByAirport_packed_eq (indexes rebuilt) icao

/-! ## What fits the widths -/

/-- The values of an `int`. -/
def FitsInt (value : Int) : Prop := -2 ^ 31 ≤ value ∧ value < 2 ^ 31

/-- An edge that its stored widths hold. -/
structure NumberFormat.FitsEdge (format : NumberFormat R) (edge : GraphEdge R) : Prop where
  toVertex : FitsInt edge.toVertex
  distanceNm : format.IsSingle edge.distanceNm
  airwayId : edge.airwayId < 2 ^ 16
  baseFl : FitsInt16 edge.baseFl
  topFl : FitsInt16 edge.topFl

theorem NumberFormat.FitsEdge.loaded_stored {format : NumberFormat R} {edge : GraphEdge R}
    (fits : format.FitsEdge edge) : format.loadedEdge (format.storedEdge edge) = edge := by
  have baseFl := fits.baseFl
  have topFl := fits.topFl
  rw [FitsInt16] at baseFl topFl
  cases edge
  simp only [loadedEdge, storedEdge, Int32.toInt_ofInt_of_le fits.toVertex.1 fits.toVertex.2,
    UInt16.toNat_ofNat_of_lt' fits.airwayId, Int16.toInt_ofInt_of_le baseFl.1 baseFl.2,
    Int16.toInt_ofInt_of_le topFl.1 topFl.2, AirwayLevel.ofByte_toByte, GraphEdge.mk.injEq, true_and, and_true]
  exact fits.distanceNm

/-- Arrays that the stored widths hold. -/
structure GraphArrays.Fits (format : NumberFormat R) (arrays : GraphArrays R) : Prop where
  coords : forall c, c ∈ arrays.coords -> format.IsDouble c.latitude ∧ format.IsDouble c.longitude
  offsets : forall offset, offset ∈ arrays.offsets -> FitsInt offset
  edges : forall edge, edge ∈ arrays.edges -> format.FitsEdge edge
  elevations : forall elevation, elevation ∈ arrays.airportElevationsFt -> FitsInt elevation
  firstAirportVertex : FitsInt arrays.firstAirportVertex

theorem map_map_eq_self {A B : Type} {values : List A} (store : A -> B) (load : B -> A)
    (back : forall a, a ∈ values -> load (store a) = a) : (values.map store).map load = values := by
  have same : values.map (load ∘ store) = values.map id := List.map_congr_left back
  rw [List.map_map, same, List.map_id]

theorem FitsInt.toInt_ofInt {value : Int} (fits : FitsInt value) : (Int32.ofInt value).toInt = value :=
  Int32.toInt_ofInt_of_le fits.1 fits.2

/-- What fits is loaded as it was stored. -/
theorem GraphArrays.Fits.fromSnapshot_toSnapshot {format : NumberFormat R} {arrays : GraphArrays R}
    (fits : arrays.Fits format) : fromSnapshot format (arrays.toSnapshot format) = arrays := by
  have coords := map_map_eq_self format.stored format.loaded fun c member => by
    rcases fits.coords c member with ⟨latitude, longitude⟩
    cases c
    exact congrArg₂ Coordinate.mk latitude longitude
  have offsets := map_map_eq_self Int32.ofInt Int32.toInt fun offset member => (fits.offsets offset member).toInt_ofInt
  have edges := map_map_eq_self format.storedEdge format.loadedEdge fun edge member =>
    (fits.edges edge member).loaded_stored
  have kinds : (arrays.kinds.map WaypointKind.toByte).map WaypointKind.ofByte = arrays.kinds :=
    map_map_eq_self _ _ fun kind _ => kind.ofByte_toByte
  have elevations := map_map_eq_self Int32.ofInt Int32.toInt fun elevation member =>
    (fits.elevations elevation member).toInt_ofInt
  cases arrays
  simp only [fromSnapshot, toSnapshot, coords, offsets, edges, kinds, elevations, fits.firstAirportVertex.toInt_ofInt]

end Arrays

/-! ## What a build leaves -/

section Building

variable {R : Type} [LinearOrder R] [Zero R] [One R] {data : NavData R}

omit [LinearOrder R] [Zero R] [One R] in
theorem mem_flatten_of_row {rows : List (List (GraphEdge R))} {v : Nat} {edge : GraphEdge R}
    (member : edge ∈ rows.getD v []) : edge ∈ rows.flatten := by
  rw [List.getD_eq_getElem?_getD] at member
  rcases found : rows[v]? with _ | row
  · rw [found] at member
    cases member
  · rw [found] at member
    exact List.mem_flatten.mpr ⟨row, List.mem_of_getElem? found, member⟩

/-- A builder and the wiring behind it. -/
structure WiredFrom (data : NavData R) (packed : PackedIdents data) (wiring : Wiring R) (built : BuiltGraph R) :
    Prop where
  coords : built.graph.coords = data.coords
  offsets : built.graph.offsets = RowTable.offsets wiring.rows 0
  edges : built.graph.edges = wiring.rows.flatten
  idents : built.idents = packed.waypoints ++ packed.airports
  kinds : built.kinds = data.waypoints.map Waypoint.kind ++ data.airports.map fun _ => .kFix
  elevations : built.airportElevationsFt = data.airports.map Airport.elevationFt
  airwayNames : built.airwayNames = wiring.airwayNames
  airwayOverflow : built.airwayOverflow = wiring.airwayOverflow
  firstAirportVertex : built.firstAirportVertex = data.waypoints.length
  wired : WellWired data.coords.length data.waypoints.length wiring.airwayNames wiring.rows

theorem wiredFrom_of_build {earth : Geodesy R} {narrow : R -> R} {built : BuiltGraph R}
    (made : build earth narrow data = .ok built) :
    exists packed : PackedIdents data,
      WiredFrom data packed ((packed.surveyor earth narrow).wire data.airways) built := by
  rw [build] at made
  rcases packs : packIdents data with error | packed
  · rw [packs] at made
    cases made
  · rw [packs] at made
    cases made
    have wired := ((packed.surveyor earth narrow).sound_wire data.airways).wired
    exact ⟨packed, rfl, rfl, rfl, rfl, rfl, rfl, rfl, rfl, rfl, wired⟩

namespace Surveyor

variable (surveyor : Surveyor R) (property : GraphEdge R -> Prop)

omit [One R] in
theorem forall_mem_addEdges {wiring : Wiring R} (holds : forall edge, edge ∈ wiring.rows.flatten -> property edge)
    {airwayId : Nat} {s : AirwaySegment}
    (made : forall source target, property (surveyor.edgeTo source target airwayId s)) (ways : List (Int × Int)) :
    forall edge, edge ∈ (surveyor.addEdges wiring airwayId s ways).rows.flatten -> property edge := by
  induction ways generalizing wiring with
  | nil => exact holds
  | cons way rest inductionHypothesis =>
      refine inductionHypothesis fun edge member => ?_
      rcases exists_row member with ⟨v, _, inRow⟩
      rcases mem_modify_row inRow with old | ⟨rfl, _⟩
      · exact holds edge (mem_flatten_of_row old)
      · exact made _ _

/-- What holds of every edge that may be pushed holds of every edge. -/
theorem forall_mem_wire
    (made : forall source target airwayId s, property (surveyor.edgeTo source target airwayId s))
    (airways : List (AirwayConnection R)) :
    forall edge, edge ∈ (surveyor.wire airways).rows.flatten -> property edge := by
  induction airways using List.reverseRecOn with
  | nil =>
      intro edge member
      rcases exists_row member with ⟨v, _, inRow⟩
      rw [wire, List.foldl_nil, row_empty] at inRow
      cases inRow
  | append_singleton front conn inductionHypothesis =>
      rw [wire, List.foldl_append, ← wire, List.foldl_cons, List.foldl_nil]
      rcases connect_cases surveyor (sound_wire surveyor front).named conn with ⟨_, same⟩ | ⟨_, full | wired⟩
      · rwa [same]
      · rwa [full]
      · rcases wired with ⟨after, airwayId, names, same⟩
        rw [same]
        refine forall_mem_addEdges surveyor property ?_ ?_ _
        · rwa [names.rows]
        · exact fun source target => made source target airwayId conn.segment

/-- An edge is dropped where the table of names is full. -/
theorem connect_airwayOverflow {wiring : Wiring R} {conn : AirwayConnection R}
    (overflow : (surveyor.connect wiring conn).airwayOverflow = true) :
    wiring.airwayOverflow = true ∨ 65535 < wiring.airwayNames.length := by
  rw [connect] at overflow
  dsimp only at overflow
  split at overflow
  · exact Or.inl overflow
  · rcases found : wiring.airwayIdFor conn.segment.name with ⟨named, airwayId⟩
    rw [found] at overflow
    rw [Wiring.airwayIdFor] at found
    split_ifs at found with known full
    · cases found
      left
      revert overflow
      dsimp only
      split_ifs <;> exact id
    · exact Or.inr full
    · cases found
      left
      revert overflow
      dsimp only
      split_ifs <;> exact id

omit [One R] in
theorem airwayNames_addEdges (wiring : Wiring R) (airwayId : Nat) (s : AirwaySegment) (ways : List (Int × Int)) :
    (surveyor.addEdges wiring airwayId s ways).airwayNames = wiring.airwayNames := by
  induction ways generalizing wiring with
  | nil => rfl
  | cons way rest inductionHypothesis => exact inductionHypothesis (surveyor.addEdge wiring way.1 way.2 airwayId s)

/-- Names are not taken back. -/
theorem length_airwayNames_connect {wiring : Wiring R} (named : wiring.airwayNames ≠ []) (conn : AirwayConnection R) :
    wiring.airwayNames.length ≤ (surveyor.connect wiring conn).airwayNames.length := by
  rcases connect_cases surveyor named conn with ⟨_, same⟩ | ⟨_, full | ⟨after, airwayId, names, same⟩⟩
  · rw [same]
  · rw [full]
  · rw [same, airwayNames_addEdges]
    exact names.kept.length_le

/-- The table of names is full when an edge was dropped. -/
theorem full_of_airwayOverflow (airways : List (AirwayConnection R))
    (overflow : (surveyor.wire airways).airwayOverflow = true) :
    65535 < (surveyor.wire airways).airwayNames.length := by
  induction airways using List.reverseRecOn with
  | nil => cases overflow
  | append_singleton front conn inductionHypothesis =>
      have grown := length_airwayNames_connect surveyor (sound_wire surveyor front).named conn
      rw [wire, List.foldl_append, ← wire, List.foldl_cons, List.foldl_nil] at overflow ⊢
      rcases connect_airwayOverflow surveyor overflow with before | full
      · exact Nat.lt_of_lt_of_le (inductionHypothesis before) grown
      · exact Nat.lt_of_lt_of_le full grown

end Surveyor

/-- The numbers of a dataset are stored as they are. -/
structure NavData.Stored (data : NavData R) (format : NumberFormat R) (narrow : R -> R) : Prop where
  coords : forall c, c ∈ data.coords -> format.IsDouble c.latitude ∧ format.IsDouble c.longitude
  narrowed : forall x, format.IsSingle (narrow x)
  elevations : forall airport, airport ∈ data.airports -> FitsInt airport.elevationFt

theorem fitsInt16_toInt16 (value : Int) : FitsInt16 (toInt16 value) := by
  rw [FitsInt16, toInt16, Int.bmod_def]
  split_ifs <;> omega

/-- What a build leaves fits, when 31 bits count the edges and 16 the names. -/
theorem fits_arrays {format : NumberFormat R} {earth : Geodesy R} {narrow : R -> R} {built : BuiltGraph R}
    (made : build earth narrow data = .ok built) (stored : data.Stored format narrow)
    (edgeCount : built.graph.edges.length < 2 ^ 31) (nameCount : built.airwayNames.length ≤ 65535) :
    built.arrays.Fits format := by
  rcases wiredFrom_of_build made with ⟨packed, wiredFrom⟩
  have vertexCount := data.length_coords_lt
  constructor
  case coords =>
    intro c member
    exact stored.coords c (wiredFrom.coords ▸ member)
  case offsets =>
    intro offset member
    rcases List.mem_map.mp member with ⟨place, listed, rfl⟩
    have below := built.graph.offsets_le place listed
    refine ⟨?_, ?_⟩ <;> simp only [Int.ofNat_eq_natCast] <;> omega
  case edges =>
    intro edge member
    have listed : edge ∈ built.graph.edges := member
    have target := built.graph.edges_to edge listed
    rw [wiredFrom.coords] at target
    rw [wiredFrom.edges] at listed
    rcases exists_row listed with ⟨v, _, inRow⟩
    have named := wiredFrom.wired.airwayId v edge inRow
    rw [← wiredFrom.airwayNames] at named
    have converted := (packed.surveyor earth narrow).forall_mem_wire
      (fun edge => format.IsSingle edge.distanceNm ∧ FitsInt16 edge.baseFl ∧ FitsInt16 edge.topFl)
      (fun _ _ _ _ => ⟨stored.narrowed _, fitsInt16_toInt16 _, fitsInt16_toInt16 _⟩) data.airways edge listed
    constructor
    case toVertex => exact ⟨by omega, by omega⟩
    case distanceNm => exact converted.1
    case airwayId => omega
    case baseFl => exact converted.2.1
    case topFl => exact converted.2.2
  case elevations =>
    intro elevation member
    have listed : elevation ∈ built.airportElevationsFt := member
    rw [wiredFrom.elevations] at listed
    rcases List.mem_map.mp listed with ⟨airport, inData, rfl⟩
    exact stored.elevations airport inData
  case firstAirportVertex =>
    have first := built.firstAirportVertex_le
    rw [wiredFrom.coords] at first
    have same : built.arrays.firstAirportVertex = built.firstAirportVertex := rfl
    rw [same]
    exact ⟨by omega, by omega⟩

omit [LinearOrder R] [Zero R] [One R] in
theorem isVertexKindByte_toByte {kind : WaypointKind} (isKind : kind.isGraphVertexKind = true) :
    GraphCodec.isVertexKindByte kind.toByte = true := by
  cases kind <;> first | rfl | cases isKind

omit [LinearOrder R] [Zero R] [One R] in
/-- Only kinds of vertices are packed. -/
theorem PackedIdents.isGraphVertexKind (packed : PackedIdents data) {w : Waypoint R} (member : w ∈ data.waypoints) :
    w.kind.isGraphVertexKind = true := by
  rcases List.forall₂_iff_get.mp packed.waypoints_packed with ⟨length, each⟩
  rcases List.getElem_of_mem member with ⟨place, bound, rfl⟩
  have here := each place bound (length ▸ bound)
  rw [packWaypoint] at here
  split at here
  · cases here
  · rename_i isKind
    rwa [Bool.not_eq_true', Bool.not_eq_false] at isKind

theorem toNat_ofInt {n : Nat} (small : n < 2 ^ 31) : (Int32.ofInt (n : Int)).toUInt32.toNat = n := by
  rw [Int32.ofInt_eq_ofNat, Int32.toUInt32_ofNat']
  exact UInt32.toNat_ofNat_of_lt' (Nat.lt_trans small (by decide))

theorem FitsInt.ofInt_le {first second : Int} (fits : FitsInt first) (others : FitsInt second)
    (ascends : first ≤ second) : Int32.ofInt first ≤ Int32.ofInt second := by
  rw [Int32.le_iff_toInt_le, fits.toInt_ofInt, others.toInt_ofInt]
  exact ascends

/-- What the encoder demands of the arrays of a build, but for the number of
names. -/
theorem encodable_of_build {format : NumberFormat R} {earth : Geodesy R} {narrow : R -> R} {built : BuiltGraph R}
    (made : build earth narrow data = .ok built) (edgeCount : built.graph.edges.length < 2 ^ 31)
    (nameCount : built.airwayNames.length ≤ 65535) (mora : MoraGrid) (msa : List MsaSector) :
    GraphCodec.Encodable (built.snapshotWith format mora msa) := by
  rcases wiredFrom_of_build made with ⟨packed, wiredFrom⟩
  have vertexCount := data.length_coords_lt
  have coordsLength : built.graph.coords.length = data.coords.length := by rw [wiredFrom.coords]
  have firstLe := built.firstAirportVertex_le
  have first : (Int32.ofInt built.firstAirportVertex).toUInt32.toNat = built.firstAirportVertex :=
    toNat_ofInt (by omega)
  constructor
  case airwayCount => exact nameCount
  case offsets_length => simp [built.graph.offsets_length]
  case idents_length => simp [built.idents_length]
  case hasOutbound_length => simp
  case hasInbound_length => simp
  case kinds_length => simp [wiredFrom.kinds, wiredFrom.coords, data.length_coords]
  case first_nonneg =>
    have fits : FitsInt built.firstAirportVertex := ⟨by omega, by omega⟩
    have zero : Int32.ofInt 0 ≤ Int32.ofInt built.firstAirportVertex :=
      FitsInt.ofInt_le ⟨by decide, by decide⟩ fits (Int.natCast_nonneg _)
    exact zero
  case first_le =>
    rw [BuiltGraph.snapshotWith_firstAirportVertex, first, BuiltGraph.snapshotWith_coords, List.length_map]
    exact firstLe
  case elevations_length =>
    have total := data.length_coords
    rw [BuiltGraph.snapshotWith_airportElevationsFt, BuiltGraph.snapshotWith_coords,
      BuiltGraph.snapshotWith_firstAirportVertex, first, wiredFrom.elevations, List.length_map, List.length_map,
      List.length_map, wiredFrom.firstAirportVertex, coordsLength, total, Nat.add_sub_cancel_left]
  case kinds =>
    intro byte member
    rcases List.mem_map.mp member with ⟨kind, listed, rfl⟩
    apply isVertexKindByte_toByte
    have inKinds : kind ∈ built.kinds := listed
    rw [wiredFrom.kinds] at inKinds
    rcases List.mem_append.mp inKinds with waypoint | airport
    · rcases List.mem_map.mp waypoint with ⟨w, inData, rfl⟩
      exact packed.isGraphVertexKind inData
    · rcases List.mem_map.mp airport with ⟨_, _, rfl⟩
      rfl
  case offsets_first =>
    rw [BuiltGraph.snapshotWith_offsets, List.head?_map, List.head?_map, wiredFrom.offsets, RowTable.head?_offsets]
    rfl
  case offsets_monotone =>
    have sorted := built.graph.offsets_sorted
    have fits {place : Nat} (member : place ∈ built.graph.offsets) : FitsInt (Int.ofNat place) := by
      have below := built.graph.offsets_le place member
      exact ⟨by simp only [Int.ofNat_eq_natCast]; omega, by simp only [Int.ofNat_eq_natCast]; omega⟩
    have ascending : (built.arrays.offsets.map Int32.ofInt).Pairwise (· ≤ ·) := by
      rw [BuiltGraph.arrays, List.map_map, List.pairwise_map]
      exact sorted.imp_of_mem fun here there ascends =>
        FitsInt.ofInt_le (fits here) (fits there) (Int.ofNat_le.mpr ascends)
    exact ascending.isChain
  case offsets_last =>
    rw [BuiltGraph.snapshotWith_offsets, List.getLast?_map, List.getLast?_map, wiredFrom.offsets,
      RowTable.getLast?_offsets, BuiltGraph.snapshotWith_edges, List.length_map, wiredFrom.edges, Nat.zero_add]
    rfl
  case edges =>
    intro packedEdge member
    rcases List.mem_map.mp member with ⟨edge, listed, rfl⟩
    have inEdges : edge ∈ built.graph.edges := listed
    have target := built.graph.edges_to edge inEdges
    rw [wiredFrom.edges] at inEdges
    rcases exists_row inEdges with ⟨v, _, inRow⟩
    have named := wiredFrom.wired.airwayId v edge inRow
    rw [← wiredFrom.airwayNames] at named
    rcases Int.eq_ofNat_of_zero_le target.1 with ⟨vertex, same⟩
    have fits : FitsInt edge.toVertex := ⟨by omega, by omega⟩
    have level : edge.level.toByte ≤ AirwayLevel.kBoth.toByte := by cases edge.level <;> decide
    refine ⟨?_, ?_, ?_, level⟩
    · have zero : Int32.ofInt 0 ≤ Int32.ofInt edge.toVertex :=
        FitsInt.ofInt_le ⟨by decide, by decide⟩ fits target.1
      exact zero
    · rw [NumberFormat.storedEdge, same, toNat_ofInt (show vertex < 2 ^ 31 by omega), BuiltGraph.snapshotWith_coords,
        List.length_map]
      omega
    · have id : (UInt16.ofNat edge.airwayId).toNat = edge.airwayId :=
        UInt16.toNat_ofNat_of_lt' (show edge.airwayId < 65536 by omega)
      rw [NumberFormat.storedEdge, id]
      exact named

omit [LinearOrder R] [Zero R] [One R] in
/-- The flags of a builder are zero or one. -/
theorem normalized_snapshotWith (built : BuiltGraph R) (format : NumberFormat R) (mora : MoraGrid)
    (msa : List MsaSector) :
    GraphCodec.normalized (built.snapshotWith format mora msa) = built.snapshotWith format mora msa := by
  have flags (values : List Bool) : (values.map fun flag => if flag then (1 : UInt8) else 0).map
      (fun flag => if flag ≠ 0 then (1 : UInt8) else 0) = values.map fun flag => if flag then 1 else 0 := by
    rw [List.map_map]
    refine List.map_congr_left fun flag _ => ?_
    cases flag <;> rfl
  have same {snapshot : GraphSnapshot}
      (outbound : (snapshot.hasOutbound.map fun flag => if flag ≠ 0 then 1 else 0) = snapshot.hasOutbound)
      (inbound : (snapshot.hasInbound.map fun flag => if flag ≠ 0 then 1 else 0) = snapshot.hasInbound) :
      GraphCodec.normalized snapshot = snapshot := by
    rw [GraphCodec.normalized, outbound, inbound]
  exact same (flags built.hasOutboundFlags) (flags built.hasInboundFlags)

/-- A graph that was built is cached when its table of names has room for one
more, and what is loaded again gives its answers. -/
theorem cachedGraph_answersAlike {format : NumberFormat R} {earth : Geodesy R} {narrow : R -> R} {built : BuiltGraph R}
    (made : build earth narrow data = .ok built) (stored : data.Stored format narrow)
    (edgeCount : built.graph.edges.length < 2 ^ 31) (mora : MoraGrid) {msa : List MsaSector}
    (sectorCount : msa.length < 2 ^ 32) (arcCount : forall sector, sector ∈ msa -> sector.arcs.length < 2 ^ 32)
    {pool : StringPool} (sound : pool.Sound) :
    ((exists outcome, GraphCodec.encode (built.snapshotWith format mora msa) pool = .ok outcome) ↔
      built.airwayNames.length ≤ 65535) ∧
    (built.airwayOverflow = true ->
      forall outcome, GraphCodec.encode (built.snapshotWith format mora msa) pool ≠ .ok outcome) ∧
    forall bytes after blob, GraphCodec.encode (built.snapshotWith format mora msa) pool = .ok (bytes, after) ->
      after.blob.length < 2 ^ 32 -> after.blob <+: blob ->
        exists snapshot, (GraphCodec.decode bytes blob).1 = .ok snapshot ∧ snapshot.mora = mora ∧ snapshot.msa = msa ∧
          AnswersAlike earth (GraphArrays.fromSnapshot format snapshot) built := by
  have nameCount {outcome : List UInt8 × StringPool}
      (ran : GraphCodec.encode (built.snapshotWith format mora msa) pool = .ok outcome) :
      built.airwayNames.length ≤ 65535 := (GraphCodec.encodable_of_encode ran).airwayCount
  refine ⟨⟨fun ⟨_, ran⟩ => nameCount ran, fun few => ?_⟩, ?_, ?_⟩
  · rcases GraphCodec.writes_encode (encodable_of_build made edgeCount few mora msa) pool with ⟨bytes, after, ran⟩
    exact ⟨_, ran⟩
  · intro overflow outcome ran
    rcases wiredFrom_of_build made with ⟨packed, wiredFrom⟩
    rw [wiredFrom.airwayOverflow] at overflow
    have full := (packed.surveyor earth narrow).full_of_airwayOverflow data.airways overflow
    rw [← wiredFrom.airwayNames] at full
    exact absurd (nameCount ran) (Nat.not_le.mpr full)
  · intro bytes after blob ran small extended
    have fits := fits_arrays made stored edgeCount (nameCount ran)
    have counted : GraphCodec.Counted (built.snapshotWith format mora msa) := by
      constructor
      case vertices =>
        have total := built.graph.vertexCount_lt
        rw [BuiltGraph.snapshotWith_coords, List.length_map]
        omega
      case edges =>
        rw [BuiltGraph.snapshotWith_edges, List.length_map]
        omega
      case sectors => exact sectorCount
      case arcs => exact arcCount
    have decoded := GraphCodec.decode_of_encode counted ran sound small extended
    rw [normalized_snapshotWith] at decoded
    refine ⟨_, decoded, rfl, rfl, ?_⟩
    have same : GraphArrays.fromSnapshot format (built.snapshotWith format mora msa) = built.arrays :=
      fits.fromSnapshot_toSnapshot
    rw [same]
    exact answersAlike_arrays earth built

/-! ## One segment between two fixes -/

/-- Whole numbers by their bits, as far as there are bits. -/
def wholeFormat : NumberFormat Int where
  bits x := UInt64.ofNat x.toNat
  ofBits word := word.toNat
  bits32 x := UInt32.ofNat x.toNat
  ofBits32 word := word.toNat

/-- The rest modulo 2^32, which the format has. -/
def narrowWhole (x : Int) : Int := x % 2 ^ 32

theorem stored_segmentData : (segmentData 600).Stored wholeFormat narrowWhole := by
  constructor
  case coords =>
    have positions : (segmentData 600).coords = [⟨0, 0⟩, ⟨0, 1⟩] := rfl
    rw [positions, List.forall_mem_cons, List.forall_mem_singleton]
    exact ⟨⟨rfl, rfl⟩, rfl, rfl⟩
  case narrowed =>
    intro x
    have nonneg : 0 ≤ x % 2 ^ 32 := Int.emod_nonneg x (by decide)
    have below : x % 2 ^ 32 < 2 ^ 32 := Int.emod_lt_of_pos x (by decide)
    have same : (UInt32.ofNat (x % 2 ^ 32).toNat).toNat = (x % 2 ^ 32).toNat :=
      UInt32.toNat_ofNat_of_lt' (show (x % 2 ^ 32).toNat < 4294967296 by omega)
    rw [NumberFormat.IsSingle, narrowWhole, wholeFormat]
    simp only [same]
    omega
  case elevations => exact List.forall_mem_nil _

theorem cachedGraph_answersAlike_segment : exists built, build degreeEarth narrowWhole (segmentData 600) = .ok built ∧
    (exists outcome, GraphCodec.encode (built.snapshotWith wholeFormat .unknown []) StringPool.empty = .ok outcome) ∧
    forall bytes after, GraphCodec.encode (built.snapshotWith wholeFormat .unknown []) StringPool.empty =
        .ok (bytes, after) -> after.blob.length < 2 ^ 32 ->
      exists snapshot, (GraphCodec.decode bytes after.blob).1 = .ok snapshot ∧
        AnswersAlike degreeEarth (GraphArrays.fromSnapshot wholeFormat snapshot) built := by
  have sizes : (build degreeEarth narrowWhole (segmentData 600)).toOption.map (fun built =>
      (built.graph.edges.length, built.airwayNames.length)) = some (1, 2) := by decide +kernel
  rcases made : build degreeEarth narrowWhole (segmentData 600) with error | built
  · rw [made] at sizes
    cases sizes
  rw [made] at sizes
  simp only [Except.toOption, Option.map_some, Option.some.injEq, Prod.mk.injEq] at sizes
  have sectorCount : ([] : List MsaSector).length < 2 ^ 32 := Nat.two_pow_pos 32
  rcases cachedGraph_answersAlike made stored_segmentData (by omega) .unknown sectorCount
    (List.forall_mem_nil _) StringPool.sound_empty with ⟨cached, _, loads⟩
  refine ⟨built, rfl, cached.mpr (by omega), fun bytes after ran small => ?_⟩
  rcases loads bytes after after.blob ran small List.prefix_rfl with ⟨snapshot, decoded, _, _, alike⟩
  exact ⟨snapshot, decoded, alike⟩

end Building
end BravoFinder
