import BravoFinder.Cache.GraphSnapshot

namespace BravoFinder

/-!
# The graph section

The section starts with its counts.  Decoding checks them against the bytes
present before it sizes an array by one of them, reads the records, and only
then checks what the records say and resolves their strings.
-/

/-- `WithRebuildHint`. -/
def withRebuildHint (why : Text) : Text :=
  why ++ ofString "; run bf build to regenerate"

namespace GraphCodec

open Decoder Encoder

/-- Whether a byte names a kind that a vertex may have. -/
def isVertexKindByte (byte : UInt8) : Bool :=
  decide (byte ≤ WaypointKind.kIlsDme.toByte) && byte != WaypointKind.kOther.toByte &&
    byte != WaypointKind.kIlsDme.toByte

def kVertexRecordSize : Nat := 34
def kAirportRecordSize : Nat := 4
def kEdgeRecordSize : Nat := 15
def kAirwayRefSize : Nat := 8
def kMsaHeaderSize : Nat := 28
def kMsaArcSize : Nat := 12

/-! ## Encoding -/

/-- The flags byte of a vertex. -/
def flagsByte (hasOutbound hasInbound : UInt8) : UInt8 :=
  (if hasOutbound ≠ 0 then 1 else 0) ||| (if hasInbound ≠ 0 then 2 else 0)

/-- The attributes of one vertex. -/
structure Vertex where
  coord : Coordinate F64
  ident : FixedIdent
  hasOutbound : UInt8
  hasInbound : UInt8
  kind : UInt8

/-- The vertices of a snapshot, whose arrays the caller has checked to be of one
length. -/
def vertices (snapshot : GraphSnapshot) : List Vertex :=
  List.zipWith (fun (coord, ident) (out, into, kind) => ⟨coord, ident, out, into, kind⟩)
    (snapshot.coords.zip snapshot.idents)
    (snapshot.hasOutbound.zip (snapshot.hasInbound.zip snapshot.kinds))

/-- `Err` with the code of a failed encoding. -/
def serializationError (message : String) : Error :=
  ⟨.kSerializationError, ofString message⟩

def encodeVertex (vertex : Vertex) : Encoder Error := steps [
  write (ByteWriter.u64 vertex.coord.latitude),
  write (ByteWriter.u64 vertex.coord.longitude),
  ref vertex.ident.ident,
  ref vertex.ident.arinc424IcaoCode,
  write (ByteWriter.u8 (flagsByte vertex.hasOutbound vertex.hasInbound)),
  check (isVertexKindByte vertex.kind) (serializationError "vertex kind out of range"),
  write (ByteWriter.u8 vertex.kind)]

/-- The loop over the CSR offsets, which remembers the previous one. -/
def encodeOffsets : Int32 -> List Int32 -> Encoder Error
  | _, [] => done
  | previous, offset :: rest => steps [
      check (!decide (offset < previous)) (serializationError "CSR offsets must be non-decreasing"),
      write (ByteWriter.i32 offset),
      encodeOffsets offset rest]

def encodeEdge (vertexCount airwayCount : Nat) (edge : PackedEdge) : Encoder Error := steps [
  check (!decide (edge.toVertex < 0 ∨ vertexCount ≤ edge.toVertex.toUInt32.toNat))
    (serializationError "edge target vertex out of range"),
  check (!decide (airwayCount ≤ edge.airwayId.toNat))
    (serializationError "edge airway-name index out of range"),
  check (!decide (AirwayLevel.kBoth.toByte < edge.level))
    (serializationError "edge airway level out of range"),
  write (ByteWriter.i32 edge.toVertex),
  write (ByteWriter.u32 edge.distanceNm),
  write (ByteWriter.u16 edge.airwayId),
  write (ByteWriter.i16 edge.baseFl),
  write (ByteWriter.i16 edge.topFl),
  write (ByteWriter.u8 edge.level)]

def encodeArc (arc : MsaArc) : Encoder Error := steps [
  write (ByteWriter.i32 arc.bearingFrom),
  write (ByteWriter.i32 arc.alt100ft),
  write (ByteWriter.i32 arc.radiusNm)]

def encodeSector (sector : MsaSector) : Encoder Error := steps [
  ref sector.center.ident,
  ref sector.center.arinc424IcaoCode,
  ref sector.airportIcao,
  write (ByteWriter.u32 (UInt32.ofNat sector.arcs.length)),
  each encodeArc sector.arcs]

/-- `GraphCodec::Encode`. -/
def encode (snapshot : GraphSnapshot) : Encoder Error :=
  let v := snapshot.coords.length
  let e := snapshot.edges.length
  steps [
    check (!decide (65535 < snapshot.airwayNames.length))
      (serializationError "too many airway names to serialize (> 65535)"),
    check (snapshot.offsets.length == v + 1 && snapshot.idents.length == v &&
        snapshot.hasOutbound.length == v && snapshot.hasInbound.length == v && snapshot.kinds.length == v)
      (serializationError "inconsistent snapshot array sizes"),
    check (!decide (snapshot.firstAirportVertex < 0 ∨ v < snapshot.firstAirportVertex.toUInt32.toNat ∨
        snapshot.airportElevationsFt.length ≠ v - snapshot.firstAirportVertex.toUInt32.toNat))
      (serializationError "inconsistent airport array size"),
    write (ByteWriter.u32 (UInt32.ofNat v)),
    write (ByteWriter.u32 (UInt32.ofNat e)),
    write (ByteWriter.u32 (UInt32.ofNat snapshot.airwayNames.length)),
    write (ByteWriter.u32 (UInt32.ofNat snapshot.msa.length)),
    write (ByteWriter.u32 snapshot.firstAirportVertex.toUInt32),
    each encodeVertex (vertices snapshot),
    each (fun elevation => write (ByteWriter.i32 elevation)) snapshot.airportElevationsFt,
    check (snapshot.offsets.head? == some 0) (serializationError "CSR offsets must start at 0"),
    encodeOffsets 0 snapshot.offsets,
    check (snapshot.offsets.getLast? == some (Int32.ofNat e))
      (serializationError "CSR offsets must end at the edge count"),
    each (encodeEdge v snapshot.airwayNames.length) snapshot.edges,
    each ref snapshot.airwayNames,
    each (fun cell => write (ByteWriter.i16 cell)) snapshot.mora.cells,
    each encodeSector snapshot.msa]

/-! ## Decoding -/

/-- `bad`: a corrupt section, with the hint to rebuild. -/
def bad (why : Text) : Error :=
  ⟨.kCacheCorrupt, withRebuildHint why⟩

/-- A vertex as it lies in the section. -/
structure VertexRecord where
  coord : Coordinate F64
  ident : StringRef
  arinc424IcaoCode : StringRef
  flags : UInt8
  kind : UInt8

/-- A sector as it lies in the section. -/
structure SectorRecord where
  centerIdent : StringRef
  centerCode : StringRef
  airportIcao : StringRef
  arcs : List MsaArc

/-- The records of a section. -/
structure Records where
  vertexCount : UInt32
  edgeCount : UInt32
  airwayCount : UInt32
  firstAirportVertex : Int32
  vertices : List VertexRecord
  elevations : List Int32
  offsets : List Int32
  edges : List PackedEdge
  airways : List StringRef
  cells : List Int16
  sectors : List SectorRecord

def decodeVertex : Decoder Error VertexRecord := do
  let latitude ← ByteReader.u64
  let longitude ← ByteReader.u64
  let ident ← stringRef
  let code ← stringRef
  let flags ← ByteReader.u8
  let kind ← ByteReader.u8
  pure ⟨⟨latitude, longitude⟩, ident, code, flags, kind⟩

def decodeEdge : Decoder Error PackedEdge := do
  let toVertex ← ByteReader.i32
  let distanceNm ← ByteReader.u32
  let airwayId ← ByteReader.u16
  let baseFl ← ByteReader.i16
  let topFl ← ByteReader.i16
  let level ← ByteReader.u8
  pure ⟨toVertex, distanceNm, airwayId, baseFl, topFl, level⟩

def decodeArc : Decoder Error MsaArc := do
  let bearingFrom ← ByteReader.i32
  let alt100ft ← ByteReader.i32
  let radiusNm ← ByteReader.i32
  pure ⟨bearingFrom, alt100ft, radiusNm⟩

def decodeSector : Decoder Error SectorRecord := do
  let ident ← stringRef
  let code ← stringRef
  let airport ← stringRef
  let arcCount ← ByteReader.u32
  requireOk (bad (ofString "corrupt .bfdb msa section"))
  fuse (fun available => decide (arcCount.toNat ≤ available / kMsaArcSize))
    (bad (ofString "corrupt .bfdb msa section"))
  allocate (arcCount.toNat * kMsaArcSize)
  let arcs ← times arcCount.toNat decodeArc
  pure ⟨ident, code, airport, arcs⟩

/-- `count_fits` for every count. -/
def countsFit (v e airwayCount msaCount airportCount : UInt32) (available : Nat) : Bool :=
  decide (v.toNat ≤ available / kVertexRecordSize) &&
    decide (airportCount.toNat ≤ available / kAirportRecordSize) &&
    decide (e.toNat ≤ available / kEdgeRecordSize) &&
    decide (airwayCount.toNat ≤ available / kAirwayRefSize) &&
    decide (msaCount.toNat ≤ available / kMsaHeaderSize)

/-- `min_body_bytes`.  The length of the offsets row is a 32-bit sum. -/
def minBodyBytes (v e airwayCount msaCount airportCount : UInt32) : Nat :=
  v.toNat * kVertexRecordSize + airportCount.toNat * kAirportRecordSize + e.toNat * kEdgeRecordSize +
    airwayCount.toNat * kAirwayRefSize + msaCount.toNat * kMsaHeaderSize + (v + 1).toNat * 4 +
    kMoraCells * 2

/-- The records after the counts. -/
def decodeBody (v e airwayCount msaCount : UInt32) (firstAirportVertex : Int32) :
    Decoder Error Records := do
  let airportCount := v - firstAirportVertex.toUInt32
  fuse (countsFit v e airwayCount msaCount airportCount)
    (bad (ofString "corrupt .bfdb: section counts exceed section size"))
  fuse (fun available => decide (minBodyBytes v e airwayCount msaCount airportCount ≤ available))
    (bad (ofString "corrupt .bfdb: combined section counts exceed section size"))
  -- The coordinates, both flags, the kinds and the references.
  allocate (v.toNat * kVertexRecordSize)
  let vertices ← times v.toNat decodeVertex
  allocate (airportCount.toNat * kAirportRecordSize)
  let elevations ← times airportCount.toNat ByteReader.i32
  allocate ((v.toNat + 1) * 4)
  let offsets ← ByteReader.i32Span (v.toNat + 1)
  allocate (e.toNat * kEdgeRecordSize)
  let edges ← times e.toNat decodeEdge
  allocate (airwayCount.toNat * kAirwayRefSize)
  let airways ← times airwayCount.toNat stringRef
  allocate (kMoraCells * 2)
  let cells ← ByteReader.i16Span kMoraCells
  allocate (msaCount.toNat * kMsaHeaderSize)
  let sectors ← times msaCount.toNat decodeSector
  pure ⟨v, e, airwayCount, firstAirportVertex, vertices, elevations, offsets, edges, airways, cells, sectors⟩

def decodeRecords : Decoder Error Records := do
  let v ← ByteReader.u32
  let e ← ByteReader.u32
  let airwayCount ← ByteReader.u32
  let msaCount ← ByteReader.u32
  let first ← ByteReader.u32
  let firstAirportVertex := first.toInt32
  requireOk (bad (ofString "corrupt .bfdb: first_airport_vertex out of range"))
  require (!decide (firstAirportVertex < 0 ∨ v < firstAirportVertex.toUInt32))
    (bad (ofString "corrupt .bfdb: first_airport_vertex out of range"))
  decodeBody v e airwayCount msaCount firstAirportVertex

/-- The checks on the edges, in order, with the message of the one that fails. -/
def edgeFault (vertexCount airwayCount : UInt32) (edge : PackedEdge) : Option String :=
  if edge.toVertex < 0 ∨ vertexCount ≤ edge.toVertex.toUInt32 then
    some "corrupt .bfdb: edge target vertex out of range"
  else if airwayCount ≤ edge.airwayId.toUInt32 then
    some "corrupt .bfdb: edge airway-name index out of range"
  else if AirwayLevel.kBoth.toByte < edge.level then some "corrupt .bfdb: edge airway level out of range"
  else none

/-- The semantic checks, in order, with the message of the first that fails. -/
def fault (records : Records) : Option String :=
  if records.offsets.head? ≠ some 0 ∨ records.offsets.getLast? ≠ some records.edgeCount.toInt32 then
    some "corrupt .bfdb: CSR offsets do not span [0, edge count]"
  else if ¬ records.offsets.IsChain (· ≤ ·) then some "corrupt .bfdb: CSR offsets are not monotonic"
  else match records.edges.findSome? (edgeFault records.vertexCount records.airwayCount) with
    | some why => some why
    | none =>
        if records.vertices.all fun vertex => isVertexKindByte vertex.kind then none
        else some "corrupt .bfdb: vertex kind out of range"

/-- The identifiers of the vertices from index `i` on. -/
def resolveIdents (pool : Text) : Nat -> List VertexRecord -> Decoder Error (List FixedIdent)
  | _, [] => pure []
  | i, vertex :: rest => do
      let id ← resolve pool vertex.ident
      let code ← resolve pool vertex.arinc424IcaoCode
      match FixedIdent.fromParts id code with
      | .error error =>
          refuse (bad (ofString "corrupt .bfdb: vertex ident " ++ decimal i ++ ofString " is invalid: " ++
            error.message))
      | .ok fixed => do
          let others ← resolveIdents pool (i + 1) rest
          pure (fixed :: others)

def resolveEach (pool : Text) : List StringRef -> Decoder Error (List Text)
  | [] => pure []
  | ref :: rest => do
      let s ← resolve pool ref
      let others ← resolveEach pool rest
      pure (s :: others)

def resolveSectors (pool : Text) : List SectorRecord -> Decoder Error (List MsaSector)
  | [] => pure []
  | sector :: rest => do
      let ident ← resolve pool sector.centerIdent
      let code ← resolve pool sector.centerCode
      let airport ← resolve pool sector.airportIcao
      let others ← resolveSectors pool rest
      pure (⟨⟨ident, code⟩, airport, sector.arcs⟩ :: others)

/-- The snapshot that records stand for. -/
def assemble (pool : Text) (records : Records) : Decoder Error GraphSnapshot := do
  allocate (records.vertexCount.toNat * kVertexRecordSize)
  let idents ← resolveIdents pool 0 records.vertices
  allocate (records.airwayCount.toNat * kAirwayRefSize)
  let airwayNames ← resolveEach pool records.airways
  allocate (records.sectors.length * kMsaHeaderSize)
  let msa ← resolveSectors pool records.sectors
  requireRefs (bad (ofString "corrupt .bfdb: field or reference out of range"))
  pure {
    firstAirportVertex := records.firstAirportVertex
    coords := records.vertices.map VertexRecord.coord
    offsets := records.offsets
    edges := records.edges
    hasOutbound := records.vertices.map fun vertex => if vertex.flags &&& 1 ≠ 0 then 1 else 0
    hasInbound := records.vertices.map fun vertex => if vertex.flags &&& 2 ≠ 0 then 1 else 0
    idents := idents
    kinds := records.vertices.map VertexRecord.kind
    airwayNames := airwayNames
    mora := .fromCells records.cells
    msa := msa
    airportElevationsFt := records.elevations }

def decodeSection (pool : Text) : Decoder Error GraphSnapshot := do
  let records ← decodeRecords
  requireOk (bad (ofString "corrupt .bfdb graph section"))
  fuse (fun available => available == 0) (bad (ofString "corrupt .bfdb: graph section has trailing bytes"))
  match fault records with
  | some why => refuse (bad (ofString why))
  | none => assemble pool records

/-- `GraphCodec::Decode`, with the sizes it allocated. -/
def decode (body pool : Text) : Except Error GraphSnapshot × List Nat :=
  let (result, reading) := decodeSection pool ⟨body, true, true, []⟩
  (result, reading.allocated)

end GraphCodec
end BravoFinder
