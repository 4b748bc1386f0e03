import BravoFinder.Cache.CifpSegment
import BravoFinder.Cache.Crc32C
import BravoFinder.Cache.GraphCodec
import BravoFinder.Library.SortedIndex
import Mathlib.Data.List.Sort

namespace BravoFinder

/-!
# The procedure section

The section starts with its directory, one row for each airport, and the
segments follow.  Opening reads the directory alone.  A segment is read when its
airport is asked for, and checked against the checksum in its row.
-/

/-- An open file, read at explicit offsets.  Its size has 64 bits. -/
structure PreadFile where
  bytes : Text
  size_lt : bytes.length < 2 ^ 64

namespace PreadFile

def size (file : PreadFile) : Nat := file.bytes.length

/-- `ReadAt`: all of the bytes, or failure. -/
def readAt (file : PreadFile) (offset count : Nat) : Option Text :=
  if count = 0 ∨ offset + count ≤ file.size then some ((file.bytes.drop offset).take count) else none

theorem readAt_of_le {file : PreadFile} {offset count : Nat} (fits : offset + count ≤ file.size) :
    file.readAt offset count = some ((file.bytes.drop offset).take count) := if_pos (.inr fits)

theorem length_of_readAt {file : PreadFile} {offset count : Nat} {bytes : Text}
    (read : file.readAt offset count = some bytes) : bytes.length = count := by
  unfold readAt at read
  split at read
  next fits =>
    cases read
    rcases fits with rfl | fits
    · rw [List.take_zero]
      rfl
    · rw [List.length_take, List.length_drop]
      rw [size] at fits
      omega
  · cases read

/-- What lies between two parts of the file. -/
theorem readAt_append {file : PreadFile} {front middle back : Text}
    (whole : file.bytes = front ++ (middle ++ back)) :
    file.readAt front.length middle.length = some middle := by
  have fits : front.length + middle.length ≤ file.size := by
    rw [size, whole, List.length_append, List.length_append]
    omega
  rw [readAt_of_le fits, whole, List.drop_left, List.take_left]

end PreadFile

/-- Where one airport's segment lies, and its checksum. -/
structure SegmentLoc where
  absOff : UInt64
  len : UInt32
  crc : UInt32
deriving DecidableEq

/-- `CifpArchive`: the index is sorted by airport. -/
structure CifpArchive where
  file : PreadFile
  index : List (FixedName8 × SegmentLoc)
  pool : Text

namespace CifpCodec

open Decoder Encoder

def kDirEntrySize : Nat := 24

/-- `DirectoryPrefixLen`. -/
def directoryPrefixLen (airportCount : UInt32) : Nat := 4 + airportCount.toNat * kDirEntrySize

/-! ## Encoding -/

/-- The first airport that cannot be a key. -/
def keyFault : List (Text × CifpData) -> Option Error
  | [] => none
  | (icao, _) :: rest =>
      match FixedName8.ofText icao with
      | .error error => some ⟨.kInvalidArgument,
          ofString "cannot encode CIFP for airport '" ++ icao ++ ofString "': " ++ error.message⟩
      | .ok _ => keyFault rest

/-- `adjacent_find`. -/
def adjacentFind : List Text -> Option Text
  | first :: second :: rest => if first = second then some first else adjacentFind (second :: rest)
  | _ => none

/-- The segments of the airports, in order. -/
def serializeSegments : List (Text × CifpData) -> StringPool -> Except Error (List (List UInt8) × StringPool)
  | [], pool => .ok ([], pool)
  | (_, data) :: rest, pool =>
      match serializeSegment data pool with
      | .error error => .error error
      | .ok (body, between) =>
          match serializeSegments rest between with
          | .error error => .error error
          | .ok (bodies, after) => .ok (body :: bodies, after)

/-- The airports added to the pool, in order. -/
def internIcaos : List (Text × CifpData) -> StringPool -> List StringRef × StringPool
  | [], pool => ([], pool)
  | (icao, _) :: rest, pool =>
      ((pool.add icao).1 :: (internIcaos rest (pool.add icao).2).1, (internIcaos rest (pool.add icao).2).2)

/-- One row of the directory. -/
def directoryRow (icao : StringRef) (running : Nat) (body : List UInt8) : List UInt8 :=
  ByteWriter.u32 icao.offset ++ ByteWriter.u32 icao.length ++ ByteWriter.u64 (UInt64.ofNat running) ++
    ByteWriter.u32 (UInt32.ofNat body.length) ++ ByteWriter.u32 (Crc32C.compute body)

/-- The rows of the segments from `running` on. -/
def directory : Nat -> List (StringRef × List UInt8) -> List UInt8
  | _, [] => []
  | running, (icao, body) :: rest => directoryRow icao running body ++ directory (running + body.length) rest

/-- The section of the airports: the count, the directory and the segments. -/
def assembleSection (entries : List (StringRef × List UInt8)) : List UInt8 :=
  ByteWriter.u32 (UInt32.ofNat entries.length) ++
    directory (4 + entries.length * kDirEntrySize) entries ++ entries.flatMap Prod.snd

/-- `CifpCodec::Encode`: the number of airports comes with the section. -/
def encode (procedures : List (Text × CifpData)) (pool : StringPool) :
    Except Error (UInt32 × List UInt8 × StringPool) :=
  match keyFault procedures with
  | some error => .error error
  | none =>
      match adjacentFind ((procedures.map Prod.fst).insertionSort fun a b => ¬ b < a) with
      | some duplicate => .error ⟨.kInvalidArgument,
          ofString "duplicate CIFP airport '" ++ duplicate ++ ofString "'"⟩
      | none =>
          match serializeSegments procedures pool with
          | .error error => .error error
          | .ok (bodies, between) =>
              .ok (UInt32.ofNat procedures.length, assembleSection ((internIcaos procedures between).1.zip bodies),
                (internIcaos procedures between).2)

/-! ## Opening -/

/-- `bad`. -/
def badSection (why : Text) : Error := ⟨.kCacheCorrupt, withRebuildHint why⟩

/-- One row of the directory, checked. -/
def openEntry (sectionOffset sectionLength : UInt64) (airportCount : UInt32) (pool : Text) :
    Decoder Error (FixedName8 × SegmentLoc) := do
  let icaoRef ← stringRef
  let segRel ← ByteReader.u64
  let segLen ← ByteReader.u32
  let segCrc ← ByteReader.u32
  requireOk (badSection (ofString "corrupt CIFP section directory"))
  let icao ← ofExcept (match resolveRef pool icaoRef with
    | none => .error (badSection (ofString "corrupt CIFP section: ICAO reference out of range"))
    | some icao => .ok icao)
  require (!decide (sectionLength < segRel ∨ sectionLength.toNat - segRel.toNat < segLen.toNat))
    (badSection (ofString "corrupt CIFP section: segment reference out of range"))
  require (!decide (0 < segLen ∧ segRel.toNat < directoryPrefixLen airportCount))
    (badSection (ofString "corrupt CIFP section: segment overlaps directory"))
  let key ← ofExcept (match FixedName8.ofText icao with
    | .error error => .error (badSection (ofString "corrupt CIFP section: invalid ICAO key: " ++ error.message))
    | .ok key => .ok key)
  pure (key, ⟨sectionOffset + segRel, segLen, segCrc⟩)

/-- `std::sort` of the index by airport.  A forged directory may list an airport
twice, and its entries then end in any order. -/
abbrev IndexSort := SortedIndex.AnySort (fun entry : FixedName8 × SegmentLoc => entry.1.text) (· < ·)

/-- `CifpCodec::OpenSection`. -/
def openSection (indexSort : IndexSort) (file : PreadFile) (sectionOffset sectionLength : UInt64)
    (sectionCrc : UInt32) (pool : Text) :
    Except Error CifpArchive :=
  if sectionLength < 4 then .error (badSection (ofString "corrupt CIFP section: too short"))
  else match file.readAt sectionOffset.toNat 4 with
  | none => .error (badSection (ofString "truncated CIFP section directory"))
  | some countBuf =>
      let airportCount := UInt32.ofNat (leNat countBuf)
      if (sectionLength.toNat - 4) / kDirEntrySize < airportCount.toNat then
        .error (badSection (ofString "corrupt CIFP section: directory count exceeds section size"))
      else match file.readAt (sectionOffset.toNat + 4) (airportCount.toNat * kDirEntrySize) with
      | none => .error (badSection (ofString "truncated CIFP section directory"))
      | some dir =>
          if Crc32C.update (Crc32C.update 0 countBuf) dir ≠ sectionCrc then
            .error (badSection (ofString "corrupt CIFP section: directory CRC mismatch"))
          else match (times airportCount.toNat (openEntry sectionOffset sectionLength airportCount pool)
              ⟨dir, true, true, []⟩).1 with
          | .error error => .error error
          | .ok entries => .ok ⟨file, indexSort.sort entries, pool⟩

end CifpCodec

namespace CifpArchive

/-- What the bytes of a segment hold, or why they do not. -/
def segmentData (pool : Text) (loc : SegmentLoc) (airport : Text) (bytes : Option Text) : Except Error CifpData :=
  match bytes with
  | none => .error (CifpCodec.badSection (ofString "CIFP segment read failed for " ++ airport))
  | some bytes =>
      if Crc32C.compute bytes ≠ loc.crc then
        .error (CifpCodec.badSection (ofString "CIFP segment CRC mismatch for " ++ airport))
      else match CifpCodec.deserializeSegment bytes pool with
      | .error error => .error (CifpCodec.badSection
          (ofString "CIFP segment decode failed for " ++ airport ++ ofString ": " ++ error.message))
      | .ok data => .ok data

/-- Read and check one segment. -/
def fetchSegment (archive : CifpArchive) (loc : SegmentLoc) (airport : Text) : Except Error CifpData :=
  segmentData archive.pool loc airport (archive.file.readAt loc.absOff.toNat loc.len.toNat)

/-- `lower_bound` on the sorted index. -/
def lowerBound (index : List (FixedName8 × SegmentLoc)) (key : FixedName8) : Option (FixedName8 × SegmentLoc) :=
  (index.dropWhile fun entry => decide (entry.1.text < key.text)).head?

/-- `Find`. -/
def find (archive : CifpArchive) (icao : Text) : Option SegmentLoc :=
  match FixedName8.ofText icao with
  | .error _ => none
  | .ok key =>
      match lowerBound archive.index key with
      | none => none
      | some entry => if entry.1 = key then some entry.2 else none

/-- `Fetch`: nothing for an airport that is not there. -/
def fetch (archive : CifpArchive) (icao : Text) : Except Error (Option CifpData) :=
  match archive.find icao with
  | none => .ok none
  | some loc =>
      match archive.fetchSegment loc icao with
      | .error error => .error error
      | .ok data => .ok (some data)

/-- `emplace`, which keeps what is there. -/
def emplace (out : List (Text × CifpData)) (icao : Text) (data : CifpData) : List (Text × CifpData) :=
  if (out.lookup icao).isSome then out else out ++ [(icao, data)]

/-- The loop over the index. -/
def fetchEach (archive : CifpArchive) : List (FixedName8 × SegmentLoc) -> List (Text × CifpData) ->
    Except Error (List (Text × CifpData))
  | [], out => .ok out
  | (key, loc) :: rest, out =>
      match archive.fetchSegment loc key.text with
      | .error error => .error error
      | .ok data => archive.fetchEach rest (emplace out key.text data)

/-- `FetchAll`. -/
def fetchAll (archive : CifpArchive) : Except Error (List (Text × CifpData)) :=
  archive.fetchEach archive.index []

end CifpArchive
end BravoFinder
