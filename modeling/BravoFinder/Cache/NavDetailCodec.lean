import BravoFinder.Cache.CifpSegment
import BravoFinder.Cache.GraphCodec
import Mathlib.Data.List.Sort

namespace BravoFinder

/-!
# The detail section

The attributes of navaids and the holding patterns, each in an array sorted
over every field.
-/

/-- The magnitude of a `double`. -/
def F64.magnitude (value : F64) : F64 := value &&& 0x7FFFFFFFFFFFFFFF

def F64.isNaN (value : F64) : Bool := decide (0x7FF0000000000000 < F64.magnitude value)

/-- A number ordered like a `double` that is not NaN: the pattern is a sign and
a magnitude. -/
def F64.key (value : F64) : Int :=
  if value < 0x8000000000000000 then (F64.magnitude value).toNat else -(F64.magnitude value).toNat

/-- `operator<`. -/
def F64.less (first second : F64) : Bool :=
  !F64.isNaN first && !F64.isNaN second && decide (F64.key first < F64.key second)

structure NavaidDetailInfo where
  ident : Text
  arinc424IcaoCode : Text
  kind : WaypointKind
  elevFt : Int32
  freqRaw : Int32
  rangeNm : F64
  heading : F64
deriving DecidableEq

structure HoldInfo where
  fixIdent : Text
  fixArinc424IcaoCode : Text
  airportIcao : Text
  inboundCourse : F64
  legTimeMin : F64
  legDistNm : F64
  turnDir : UInt8
  minAltFt : Int32
  maxAltFt : Int32
  speedLimitKt : Int32
deriving DecidableEq

structure NavDetailArchive where
  navaids : List (Ident × NavaidDetailInfo)
  holds : List HoldInfo
  loaded : Bool
deriving DecidableEq

namespace NavDetailArchive

/-- `<` of two tuples: whether each part is less, and whether it is greater. -/
def tieLess : List (Bool × Bool) -> Bool
  | [] => false
  | (less, greater) :: rest => less || (!greater && tieLess rest)

/-- The comparison of one part by `<`. -/
def compared {A : Type} [LT A] [DecidableLT A] (first second : A) : Bool × Bool :=
  (decide (first < second), decide (second < first))

def comparedDoubles (first second : F64) : Bool × Bool := (F64.less first second, F64.less second first)

/-- `NavaidBefore`. -/
def navaidBefore (a b : Ident × NavaidDetailInfo) : Bool := tieLess [
  compared a.1.ident b.1.ident,
  compared a.1.arinc424IcaoCode b.1.arinc424IcaoCode,
  compared a.2.kind.toByte b.2.kind.toByte,
  compared a.2.freqRaw b.2.freqRaw,
  compared a.2.elevFt b.2.elevFt,
  comparedDoubles a.2.rangeNm b.2.rangeNm,
  comparedDoubles a.2.heading b.2.heading]

/-- `HoldBefore`. -/
def holdBefore (a b : HoldInfo) : Bool := tieLess [
  compared a.fixIdent b.fixIdent,
  compared a.fixArinc424IcaoCode b.fixArinc424IcaoCode,
  compared a.airportIcao b.airportIcao,
  comparedDoubles a.inboundCourse b.inboundCourse,
  comparedDoubles a.legTimeMin b.legTimeMin,
  comparedDoubles a.legDistNm b.legDistNm,
  compared a.turnDir.toInt8 b.turnDir.toInt8,
  compared a.minAltFt b.minAltFt,
  compared a.maxAltFt b.maxAltFt,
  compared a.speedLimitKt b.speedLimitKt]

/-- `Finalize`. -/
def finalize (archive : NavDetailArchive) : NavDetailArchive where
  navaids := archive.navaids.insertionSort fun a b => navaidBefore b a = false
  holds := archive.holds.insertionSort fun a b => holdBefore b a = false
  loaded := true

end NavDetailArchive

namespace NavDetailCodec

open Decoder Encoder

def kNavaidRecordSize : Nat := 41
def kHoldRecordSize : Nat := 61

/-- The cast from a byte that names a kind. -/
def kindOfByte (byte : UInt8) : Option WaypointKind :=
  [WaypointKind.kFix, .kVor, .kNdb, .kDme, .kOther, .kIlsDme][byte.toNat]?

@[simp] theorem kindOfByte_toByte (kind : WaypointKind) : kindOfByte kind.toByte = some kind := by
  cases kind <;> rfl

/-! ## Encoding -/

def encodeNavaid (entry : Ident × NavaidDetailInfo) : Encoder Error := steps [
  ref entry.2.ident,
  ref entry.2.arinc424IcaoCode,
  write (ByteWriter.u8 entry.2.kind.toByte),
  write (ByteWriter.i32 entry.2.elevFt),
  write (ByteWriter.i32 entry.2.freqRaw),
  write (ByteWriter.u64 entry.2.rangeNm),
  write (ByteWriter.u64 entry.2.heading)]

def encodeHold (hold : HoldInfo) : Encoder Error := steps [
  ref hold.fixIdent,
  ref hold.fixArinc424IcaoCode,
  ref hold.airportIcao,
  write (ByteWriter.u64 hold.inboundCourse),
  write (ByteWriter.u64 hold.legTimeMin),
  write (ByteWriter.u64 hold.legDistNm),
  write (ByteWriter.u8 hold.turnDir),
  write (ByteWriter.i32 hold.minAltFt),
  write (ByteWriter.i32 hold.maxAltFt),
  write (ByteWriter.i32 hold.speedLimitKt)]

/-- `NavDetailCodec::Encode`. -/
def encode (archive : NavDetailArchive) : Encoder Error := steps [
  write (ByteWriter.u32 (UInt32.ofNat archive.navaids.length)),
  write (ByteWriter.u32 (UInt32.ofNat archive.holds.length)),
  each encodeNavaid archive.navaids,
  each encodeHold archive.holds]

/-! ## Decoding -/

/-- `bad`. -/
def bad (why : String) : Error := ⟨.kCacheCorrupt, withRebuildHint (ofString why)⟩

def decodeNavaid (pool : Text) : Decoder Error (Ident × NavaidDetailInfo) := do
  let identRef ← stringRef
  let codeRef ← stringRef
  let kindByte ← ByteReader.u8
  let kind ← ofExcept (match kindOfByte kindByte with
    | none => .error (bad "corrupt nav detail section: navaid kind out of range")
    | some kind => .ok kind)
  let elevFt ← ByteReader.i32
  let freqRaw ← ByteReader.i32
  let rangeNm ← ByteReader.u64
  let heading ← ByteReader.u64
  requireOk (bad "truncated nav detail section navaid records")
  let ident ← resolve pool identRef
  let code ← resolve pool codeRef
  pure (⟨ident, code⟩, ⟨ident, code, kind, elevFt, freqRaw, rangeNm, heading⟩)

def decodeHold (pool : Text) : Decoder Error HoldInfo := do
  let identRef ← stringRef
  let codeRef ← stringRef
  let airportRef ← stringRef
  let inboundCourse ← ByteReader.u64
  let legTimeMin ← ByteReader.u64
  let legDistNm ← ByteReader.u64
  let turnRaw ← ByteReader.u8
  let minAltFt ← ByteReader.i32
  let maxAltFt ← ByteReader.i32
  let speedLimitKt ← ByteReader.i32
  requireOk (bad "truncated nav detail section hold records")
  require (turnRaw == kTurnLeft || turnRaw == kTurnRight) (bad "invalid hold turn direction")
  let ident ← resolve pool identRef
  let code ← resolve pool codeRef
  let airport ← resolve pool airportRef
  pure ⟨ident, code, airport, inboundCourse, legTimeMin, legDistNm, turnRaw, minAltFt, maxAltFt, speedLimitKt⟩

def decodeSection (pool : Text) : Decoder Error NavDetailArchive := do
  let navaidCount ← ByteReader.u32
  let holdCount ← ByteReader.u32
  requireOk (bad "truncated nav detail section header")
  fuse (fun available => decide (navaidCount.toNat ≤ available / kNavaidRecordSize))
    (bad "corrupt nav detail section: navaid count exceeds section")
  let navaids ← times navaidCount.toNat (decodeNavaid pool)
  fuse (fun available => decide (holdCount.toNat ≤ available / kHoldRecordSize))
    (bad "corrupt nav detail section: hold count exceeds section")
  let holds ← times holdCount.toNat (decodeHold pool)
  requireRefs (bad "corrupt nav detail section: string reference out of range")
  fuse (fun available => available == 0) (bad "corrupt nav detail section: trailing bytes")
  pure (NavDetailArchive.finalize ⟨navaids, holds, false⟩)

/-- `NavDetailCodec::Decode`. -/
def decode (body pool : Text) : Except Error NavDetailArchive :=
  (decodeSection pool ⟨body, true, true, []⟩).1

end NavDetailCodec
end BravoFinder
