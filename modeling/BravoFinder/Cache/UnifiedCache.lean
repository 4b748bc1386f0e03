import BravoFinder.Cache.CifpCodec
import BravoFinder.Cache.NavDetailCodec

namespace BravoFinder

/-!
# The container

One file holds a header, a table of three sections, a checksum over both, the
string pool and the sections.  The header is read in two ways: alone, from the
first bytes of the file, and at the start of opening the whole.
-/

/-- What a data source can express. -/
structure LoaderCapabilities where
  airwayDirection : Bool
  altitudeBands : Bool
  moraGrid : Bool
  msaSectors : Bool
deriving DecidableEq

/-- The cycle and provenance of a file. -/
structure UnifiedHeader where
  cycle : UInt32
  programVersion : Text
  sourceLoader : Text
  dataDir : Text
  capabilities : LoaderCapabilities
deriving DecidableEq

/-- The contents of a file. -/
structure UnifiedData where
  header : UnifiedHeader
  graph : GraphSnapshot
  cifp : Option CifpArchive
  detail : Option NavDetailArchive

/-- What to write to a file. -/
structure BuildInput where
  graph : Option GraphSnapshot
  cifp : Option (List (Text × CifpData))
  detail : Option NavDetailArchive
  header : UnifiedHeader

/-- A row of the section table. -/
structure SectionRow where
  type : UInt32
  crc : UInt32
  off : UInt64
  len : UInt64
deriving DecidableEq

/-- A section that was not written. -/
def SectionRow.absent (row : SectionRow) : Bool := row.off == 0 && row.len == 0

namespace UnifiedCache

open Decoder

def kMagic : Text := [66, 70, 68, 66]
def kFormatVersion : UInt32 := 21
def kSectionGraph : UInt32 := 1
def kSectionCifp : UInt32 := 2
def kSectionDetail : UInt32 := 3
def kSectionCount : UInt32 := 3
def kSectionRowSize : Nat := 24
def kHeaderCrcSize : Nat := 4
def kMaxHeaderPrefix : Nat := 8192

/-! ## Building -/

def capabilityByte (capable : Bool) : UInt8 := if capable then 1 else 0

/-- The header, unless a string is too long for its length field. -/
def headerBytes (header : UnifiedHeader) (poolBlob : Text) : Option Text := do
  let programVersion ← ByteWriter.str header.programVersion
  let sourceLoader ← ByteWriter.str header.sourceLoader
  let dataDir ← ByteWriter.str header.dataDir
  some (kMagic ++ ByteWriter.u32 kFormatVersion ++ ByteWriter.u32 kSectionCount ++ ByteWriter.u32 header.cycle ++
    programVersion ++ sourceLoader ++ dataDir ++
    ByteWriter.u8 (capabilityByte header.capabilities.airwayDirection) ++
    ByteWriter.u8 (capabilityByte header.capabilities.altitudeBands) ++
    ByteWriter.u8 (capabilityByte header.capabilities.moraGrid) ++
    ByteWriter.u8 (capabilityByte header.capabilities.msaSectors) ++
    ByteWriter.u32 (UInt32.ofNat poolBlob.length) ++ ByteWriter.u32 (Crc32C.compute poolBlob))

def rowBytes (row : SectionRow) : Text :=
  ByteWriter.u32 row.type ++ ByteWriter.u32 row.crc ++ ByteWriter.u64 row.off ++ ByteWriter.u64 row.len

/-- The encoded sections.  The procedures come with their number of airports. -/
structure Sections where
  graph : Text
  cifp : Option (UInt32 × Text)
  detail : Option Text

namespace Sections

def cifpBody (sections : Sections) : Text := (sections.cifp.map Prod.snd).getD []

def detailBody (sections : Sections) : Text := sections.detail.getD []

def graphRow (sections : Sections) (start : Nat) : SectionRow :=
  ⟨kSectionGraph, Crc32C.compute sections.graph, UInt64.ofNat start, UInt64.ofNat sections.graph.length⟩

def cifpRow (sections : Sections) (start : Nat) : SectionRow :=
  match sections.cifp with
  | none => ⟨kSectionCifp, 0, 0, 0⟩
  | some (airportCount, body) =>
      ⟨kSectionCifp, Crc32C.compute (body.take (CifpCodec.directoryPrefixLen airportCount)),
        UInt64.ofNat (start + sections.graph.length), UInt64.ofNat body.length⟩

def detailRow (sections : Sections) (start : Nat) : SectionRow :=
  match sections.detail with
  | none => ⟨kSectionDetail, 0, 0, 0⟩
  | some body =>
      ⟨kSectionDetail, Crc32C.compute body,
        UInt64.ofNat (start + sections.graph.length + sections.cifpBody.length), UInt64.ofNat body.length⟩

/-- The table, for sections that start at an offset. -/
def table (sections : Sections) (start : Nat) : List SectionRow :=
  [sections.graphRow start, sections.cifpRow start, sections.detailRow start]

end Sections

/-- `sections_start`. -/
def sectionsStart (header poolBlob : Text) : Nat :=
  header.length + kSectionCount.toNat * kSectionRowSize + kHeaderCrcSize + poolBlob.length

/-- The file of a header, a pool and sections. -/
def container (header poolBlob : Text) (sections : Sections) : Text :=
  let table := (sections.table (sectionsStart header poolBlob)).flatMap rowBytes
  header ++ table ++ ByteWriter.u32 (Crc32C.update (Crc32C.compute header) table) ++ poolBlob ++
    sections.graph ++ sections.cifpBody ++ sections.detailBody

def encodeCifp (cifp : Option (List (Text × CifpData))) (pool : StringPool) :
    Except Error (Option (UInt32 × Text) × StringPool) :=
  match cifp with
  | none => .ok (none, pool)
  | some procedures =>
      match CifpCodec.encode procedures pool with
      | .error error => .error error
      | .ok (airportCount, body, after) => .ok (some (airportCount, body), after)

def encodeDetail (detail : Option NavDetailArchive) (pool : StringPool) :
    Except Error (Option Text × StringPool) :=
  match detail with
  | none => .ok (none, pool)
  | some archive =>
      match NavDetailCodec.encode archive pool with
      | .error error => .error error
      | .ok (body, after) => .ok (some body, after)

/-- The three sections, which share a pool. -/
def encodeSections (input : BuildInput) : Except Error (Sections × StringPool) :=
  match input.graph with
  | none => .error ⟨.kInvalidArgument, ofString "unified cache requires a graph"⟩
  | some graph =>
      match GraphCodec.encode graph StringPool.empty with
      | .error error => .error error
      | .ok (graphBody, afterGraph) =>
          match encodeCifp input.cifp afterGraph with
          | .error error => .error error
          | .ok (cifp, afterCifp) =>
              match encodeDetail input.detail afterCifp with
              | .error error => .error error
              | .ok (detail, pool) => .ok (⟨graphBody, cifp, detail⟩, pool)

/-- `Build`: the bytes it writes. -/
def build (input : BuildInput) : Except Error Text :=
  match encodeSections input with
  | .error error => .error error
  | .ok (sections, pool) =>
      if 0xFFFFFFFF < pool.blob.length then
        .error ⟨.kSerializationError, ofString ("unified cache string pool exceeds 4 GiB; the uint32 pool offset " ++
          "space cannot address it. This is unexpected for real AIRAC data.")⟩
      else match headerBytes input.header pool.blob with
      | none => .error ⟨.kSerializationError, ofString ("cache header string exceeds the 4 GiB U32 length prefix; " ++
          "cannot serialize. This is unexpected for real AIRAC data.")⟩
      | some header => .ok (container header pool.blob sections)

/-! ## Reading the header alone -/

def bad (why : String) : Error := ⟨.kCacheCorrupt, withRebuildHint (ofString why)⟩

def formatMismatch : Error :=
  ⟨.kFormatMismatch, withRebuildHint (ofString "incompatible .bfdb format version")⟩

def cannotOpen (path : Text) : Error := ⟨.kDataMissing, ofString "cannot open .bfdb: " ++ path⟩

/-- The capabilities that four bytes stand for. -/
def capabilitiesOf (airwayDirection altitudeBands moraGrid msaSectors : UInt8) : LoaderCapabilities :=
  ⟨airwayDirection != 0, altitudeBands != 0, moraGrid != 0, msaSectors != 0⟩

/-- The fields after the magic, and the table, which is otherwise unused. -/
def readHeaderFields : Decoder Error UnifiedHeader := do
  let format ← ByteReader.u32
  require (format == kFormatVersion) formatMismatch
  let _sectionCount ← ByteReader.u32
  let cycle ← ByteReader.u32
  let programVersion ← ByteReader.str
  let sourceLoader ← ByteReader.str
  let dataDir ← ByteReader.str
  let airwayDirection ← ByteReader.u8
  let altitudeBands ← ByteReader.u8
  let moraGrid ← ByteReader.u8
  let msaSectors ← ByteReader.u8
  let _poolLen ← ByteReader.u32
  let _poolCrc ← ByteReader.u32
  let _table ← take (kSectionCount.toNat * kSectionRowSize)
  pure ⟨cycle, programVersion, sourceLoader, dataDir,
    capabilitiesOf airwayDirection altitudeBands moraGrid msaSectors⟩

/-- The checksum of everything the reader has consumed. -/
def checkHeaderCrc (buf : Text) : Decoder Error Unit := do
  let left ← remaining
  let storedCrc ← ByteReader.u32
  requireOk (bad "corrupt .bfdb header")
  require (Crc32C.compute (buf.take (buf.length - left)) == storedCrc)
    (bad "corrupt .bfdb: header CRC mismatch")

def parseHeader (buf : Text) : Decoder Error UnifiedHeader := do
  let header ← readHeaderFields
  checkHeaderCrc buf
  pure header

/-- `ReadHeader`, of a file that may not open. -/
def readHeader (path : Text) (opened : Option PreadFile) : Except Error UnifiedHeader :=
  match opened with
  | none => .error (cannotOpen path)
  | some file =>
      match file.readAt 0 (min file.size kMaxHeaderPrefix) with
      | none => .error ⟨.kDataMissing, ofString "cannot read .bfdb: " ++ path⟩
      | some buf =>
          if buf.length < 4 then .error ⟨.kCacheCorrupt, ofString "truncated .bfdb: " ++ path⟩
          else if buf.take 4 ≠ kMagic then .error (bad "not a .bfdb file (bad magic)")
          else (parseHeader buf ⟨buf.drop 4, true, true, []⟩).1

/-! ## Opening -/

namespace FileCursor

/-- `Read`, with the error of the caller when it fails. -/
def read (count : Nat) (error : Error) : Decoder Error Text := do
  let bytes ← take count
  match bytes with
  | none => refuse error
  | some bytes => pure bytes

def readU8 (error : Error) : Decoder Error UInt8 := do
  let bytes ← read 1 error
  pure (UInt8.ofNat (leNat bytes))

def readU32 (error : Error) : Decoder Error UInt32 := do
  let bytes ← read 4 error
  pure (UInt32.ofNat (leNat bytes))

def readU64 (error : Error) : Decoder Error UInt64 := do
  let bytes ← read 8 error
  pure (UInt64.ofNat (leNat bytes))

/-- `readStr`. -/
def readStr (error : Error) : Decoder Error Text := do
  let len ← readU32 error
  fuse (fun available => decide (len.toNat ≤ available)) error
  read len.toNat error

/-- `pos`, in a file of a size. -/
def pos (size : Nat) : Decoder Error Nat := fun reading => (.ok (size - reading.rest.length), reading)

end FileCursor

open FileCursor

/-- A row of the table, which must lie within the file when it is present. -/
def readRow (fileSize : Nat) : Decoder Error SectionRow := do
  let type ← readU32 (bad "corrupt .bfdb section table")
  let crc ← readU32 (bad "corrupt .bfdb section table")
  let off ← readU64 (bad "corrupt .bfdb section table")
  let len ← readU64 (bad "corrupt .bfdb section table")
  require (off == 0 && len == 0 || decide (off.toNat ≤ fileSize ∧ len.toNat ≤ fileSize - off.toNat))
    (bad "corrupt .bfdb: section reference out of range")
  pure ⟨type, crc, off, len⟩

/-- The header of a file, with the length and the checksum of its pool. -/
structure FixedHeader where
  header : UnifiedHeader
  poolLen : UInt32
  poolCrc : UInt32

def readFixedHeader : Decoder Error FixedHeader := do
  let magic ← read 4 (bad "not a .bfdb file (bad magic)")
  require (magic == kMagic) (bad "not a .bfdb file (bad magic)")
  let format ← readU32 (bad "truncated .bfdb header")
  require (format == kFormatVersion) formatMismatch
  let sectionCount ← readU32 (bad "corrupt .bfdb: unexpected section count")
  require (sectionCount == kSectionCount) (bad "corrupt .bfdb: unexpected section count")
  let cycle ← readU32 (bad "corrupt .bfdb header")
  let programVersion ← readStr (bad "corrupt .bfdb header")
  let sourceLoader ← readStr (bad "corrupt .bfdb header")
  let dataDir ← readStr (bad "corrupt .bfdb header")
  let airwayDirection ← readU8 (bad "corrupt .bfdb header")
  let altitudeBands ← readU8 (bad "corrupt .bfdb header")
  let moraGrid ← readU8 (bad "corrupt .bfdb header")
  let msaSectors ← readU8 (bad "corrupt .bfdb header")
  let poolLen ← readU32 (bad "corrupt .bfdb header")
  let poolCrc ← readU32 (bad "corrupt .bfdb header")
  pure ⟨⟨cycle, programVersion, sourceLoader, dataDir,
    capabilitiesOf airwayDirection altitudeBands moraGrid msaSectors⟩, poolLen, poolCrc⟩

/-- The header and the table of a file. -/
structure Head extends FixedHeader where
  rows : List SectionRow

def readHead (fileSize : Nat) : Decoder Error Head := do
  let fixed ← readFixedHeader
  fuse (fun available => decide (fixed.poolLen.toNat ≤ available)) (bad "corrupt .bfdb: pool length exceeds file")
  let rows ← times kSectionCount.toNat (readRow fileSize)
  pure ⟨fixed, rows⟩

/-- The head, checked against its checksum, and the pool. -/
def readContainer (file : PreadFile) : Decoder Error (Head × Text) := do
  let head ← readHead file.size
  let headerEnd ← pos file.size
  let headerCrc ← readU32 (bad "truncated .bfdb header")
  let covered ← ofExcept (match file.readAt 0 headerEnd with
    | none => .error (bad "truncated .bfdb header")
    | some covered => .ok covered)
  require (Crc32C.compute covered == headerCrc) (bad "corrupt .bfdb: header CRC mismatch")
  let pool ← read head.poolLen.toNat (bad "truncated .bfdb string pool")
  require (Crc32C.compute pool == head.poolCrc) (bad "corrupt .bfdb: string pool CRC mismatch")
  pure (head, pool)

/-- The rows by section type. -/
structure Slots where
  graph : Option SectionRow
  cifp : Option SectionRow
  detail : Option SectionRow

/-- The loop that finds the row of each type. -/
def placeRows : List SectionRow -> Slots -> Except Error Slots
  | [], slots => .ok slots
  | row :: rest, slots =>
      if row.type = kSectionGraph then
        if slots.graph.isSome then .error (bad "corrupt .bfdb: duplicate section type")
        else placeRows rest { slots with graph := some row }
      else if row.type = kSectionCifp then
        if slots.cifp.isSome then .error (bad "corrupt .bfdb: duplicate section type")
        else placeRows rest { slots with cifp := some row }
      else if row.type = kSectionDetail then
        if slots.detail.isSome then .error (bad "corrupt .bfdb: duplicate section type")
        else placeRows rest { slots with detail := some row }
      else .error (bad "corrupt .bfdb: unknown section type")

/-- The body of a section, checked against its checksum. -/
def readSection (file : PreadFile) (row : SectionRow) (truncated mismatch : String) : Except Error Text :=
  match file.readAt row.off.toNat row.len.toNat with
  | none => .error (bad truncated)
  | some body => if Crc32C.compute body = row.crc then .ok body else .error (bad mismatch)

def openGraph (file : PreadFile) (row : SectionRow) (pool : Text) : Except Error GraphSnapshot :=
  match readSection file row "truncated .bfdb graph section" "corrupt .bfdb: graph section CRC mismatch" with
  | .error error => .error error
  | .ok body => (GraphCodec.decode body pool).1

/-- The row of a section that is there. -/
def present (row : Option SectionRow) : Option SectionRow := row.filter fun row => !row.absent

def openDetail (file : PreadFile) (row : Option SectionRow) (pool : Text) :
    Except Error (Option NavDetailArchive) :=
  match present row with
  | none => .ok none
  | some row =>
      match readSection file row "truncated .bfdb detail section" "corrupt .bfdb: detail section CRC mismatch" with
      | .error error => .error error
      | .ok body => (NavDetailCodec.decode body pool).map some

def openCifp (indexSort : CifpCodec.IndexSort) (file : PreadFile) (row : Option SectionRow)
    (pool : Text) : Except Error (Option CifpArchive) :=
  match present row with
  | none => .ok none
  | some row => (CifpCodec.openSection indexSort file row.off row.len row.crc pool).map some

/-- The sections of a file whose head and pool are read. -/
def openSections (indexSort : CifpCodec.IndexSort) (file : PreadFile) (head : Head) (pool : Text) :
    Except Error UnifiedData :=
  match placeRows head.rows ⟨none, none, none⟩ with
  | .error error => .error error
  | .ok slots =>
      match present slots.graph with
      | none => .error (bad "corrupt .bfdb: missing graph section")
      | some row =>
          match openGraph file row pool with
          | .error error => .error error
          | .ok graph =>
              match openDetail file slots.detail pool with
              | .error error => .error error
              | .ok detail =>
                  match openCifp indexSort file slots.cifp pool with
                  | .error error => .error error
                  | .ok cifp => .ok ⟨head.header, graph, cifp, detail⟩

/-- `Open`, of a file that may not open. -/
def openFile (indexSort : CifpCodec.IndexSort) (path : Text) (opened : Option PreadFile) :
    Except Error UnifiedData :=
  match opened with
  | none => .error (cannotOpen path)
  | some file =>
      if file.size < 4 then .error (bad "truncated .bfdb")
      else match (readContainer file ⟨file.bytes, true, true, []⟩).1 with
      | .error error => .error error
      | .ok (head, pool) => openSections indexSort file head pool

end UnifiedCache
end BravoFinder
