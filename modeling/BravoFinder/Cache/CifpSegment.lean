import BravoFinder.Cache.StringPool
import BravoFinder.Core.FixedString

namespace BravoFinder

/-!
# Terminal procedures and their segments

One airport's procedures and runways, and the segment that holds them.  A
segment has no strings of its own: it refers to the pool of the whole file.
-/

/-- How a leg is flown and what ends it. -/
inductive PathTerminator where
  | kTF | kIF | kDF | kCF | kAF | kRF | kCA | kFA | kVA | kHA | kCD | kFD | kVD | kCI | kVI | kCR | kVR | kFC
  | kFM | kVM | kPI | kHM | kHF | kUnknown
deriving DecidableEq, Repr

namespace PathTerminator

/-- The enumerators, in order. -/
def enumerators : List PathTerminator :=
  [kTF, kIF, kDF, kCF, kAF, kRF, kCA, kFA, kVA, kHA, kCD, kFD, kVD, kCI, kVI, kCR, kVR, kFC, kFM, kVM, kPI, kHM,
    kHF, kUnknown]

def toByte (terminator : PathTerminator) : UInt8 := UInt8.ofNat (enumerators.idxOf terminator)

/-- The cast from a byte that names an enumerator. -/
def ofByte (byte : UInt8) : Option PathTerminator := enumerators[byte.toNat]?

@[simp] theorem ofByte_toByte (terminator : PathTerminator) : ofByte terminator.toByte = some terminator := by
  cases terminator <;> rfl

end PathTerminator

/-- The kind of an altitude restriction. -/
inductive AltConstraintKind where
  | kNone | kAt | kAtOrAbove | kAtOrBelow | kBetween
deriving DecidableEq, Repr

namespace AltConstraintKind

def enumerators : List AltConstraintKind := [kNone, kAt, kAtOrAbove, kAtOrBelow, kBetween]

def toByte (kind : AltConstraintKind) : UInt8 := UInt8.ofNat (enumerators.idxOf kind)

def ofByte (byte : UInt8) : Option AltConstraintKind := enumerators[byte.toNat]?

@[simp] theorem ofByte_toByte (kind : AltConstraintKind) : ofByte kind.toByte = some kind := by
  cases kind <;> rfl

end AltConstraintKind

/-- Which kind of procedure it is. -/
inductive ProcedureType where
  | kSid | kStar | kApproach
deriving DecidableEq, Repr

namespace ProcedureType

def enumerators : List ProcedureType := [kSid, kStar, kApproach]

def toByte (type : ProcedureType) : UInt8 := UInt8.ofNat (enumerators.idxOf type)

def ofByte (byte : UInt8) : Option ProcedureType := enumerators[byte.toNat]?

@[simp] theorem ofByte_toByte (type : ProcedureType) : ofByte type.toByte = some type := by
  cases type <;> rfl

end ProcedureType

/-- One leg of a procedure.  A position of two NaNs is absent. -/
structure ProcedureLeg where
  fix : FixedIdent
  fixLat : F32
  fixLon : F32
  courseDeg : F32
  distanceNm : F32
  alt1Ft : Int32
  alt2Ft : Int32
  rnpCentinm : UInt16
  speedLimitKt : UInt16
  pathTerm : PathTerminator
  altKind : AltConstraintKind
  turnDir : UInt8
  isMapt : Bool
  courseTrue : Bool
deriving DecidableEq

/-- One transition of a procedure. -/
structure Procedure where
  type : ProcedureType
  name : Text
  transitionIdent : Text
  runway : Text
  routeType : Int32
  legs : List ProcedureLeg
deriving DecidableEq

/-- A runway threshold. -/
structure Runway where
  ident : Text
  threshold : Coordinate F64
  elevationFt : Int32
deriving DecidableEq

structure CifpData where
  procedures : List Procedure
  runways : List Runway
deriving DecidableEq

/-! ## Floats as bit patterns -/

/-- `std::fabs`. -/
def F32.fabs (value : F32) : F32 := value &&& 0x7FFFFFFF

/-- `std::isnan`. -/
def F32.isNaN (value : F32) : Bool := decide (0x7F800000 < F32.fabs value)

/-- `90.0f` and `180.0f`. -/
def F32.ninety : F32 := 0x42B40000
def F32.oneEighty : F32 := 0x43340000

/-- The position of a fix is two NaNs, or lies on the globe.  The patterns of
floats that are neither negative nor NaN are ordered like the floats. -/
def validFixPosition (lat lon : F32) : Bool :=
  F32.isNaN lat == F32.isNaN lon &&
    (F32.isNaN lat || !decide (F32.ninety < F32.fabs lat ∨ F32.oneEighty < F32.fabs lon))

def kTurnLeft : UInt8 := 76
def kTurnRight : UInt8 := 82

namespace CifpCodec

open Decoder Encoder

def kLegFlagMapt : UInt8 := 1
def kLegFlagCourseTrue : UInt8 := 2

def kProcedureHeaderSize : Nat := 33
def kProcedureLegSize : Nat := 48
def kRunwaySize : Nat := 28

/-! ## Serializing -/

/-- The flag byte of a leg. -/
def legFlags (leg : ProcedureLeg) : UInt8 :=
  (if leg.isMapt then kLegFlagMapt else 0) ||| (if leg.courseTrue then kLegFlagCourseTrue else 0)

def serializeLeg (leg : ProcedureLeg) : Encoder Error := steps [
  ref leg.fix.ident,
  ref leg.fix.arinc424IcaoCode,
  write (ByteWriter.u32 leg.fixLat),
  write (ByteWriter.u32 leg.fixLon),
  write (ByteWriter.u8 leg.pathTerm.toByte),
  write (ByteWriter.u32 leg.courseDeg),
  write (ByteWriter.u32 leg.distanceNm),
  write (ByteWriter.u8 leg.altKind.toByte),
  write (ByteWriter.i32 leg.alt1Ft),
  write (ByteWriter.i32 leg.alt2Ft),
  write (ByteWriter.u16 leg.rnpCentinm),
  write (ByteWriter.u8 leg.turnDir),
  write (ByteWriter.u16 leg.speedLimitKt),
  write (ByteWriter.u8 (legFlags leg))]

def serializeProcedure (procedure : Procedure) : Encoder Error := steps [
  write (ByteWriter.u8 procedure.type.toByte),
  write (ByteWriter.i32 procedure.routeType),
  ref procedure.name,
  ref procedure.transitionIdent,
  ref procedure.runway,
  write (ByteWriter.u32 (UInt32.ofNat procedure.legs.length)),
  each serializeLeg procedure.legs]

def serializeRunway (runway : Runway) : Encoder Error := steps [
  ref runway.ident,
  write (ByteWriter.u64 runway.threshold.latitude),
  write (ByteWriter.u64 runway.threshold.longitude),
  write (ByteWriter.i32 runway.elevationFt)]

/-- `SerializeSegment`. -/
def serializeSegment (data : CifpData) : Encoder Error := steps [
  write (ByteWriter.u32 (UInt32.ofNat data.procedures.length)),
  each serializeProcedure data.procedures,
  write (ByteWriter.u32 (UInt32.ofNat data.runways.length)),
  each serializeRunway data.runways]

/-! ## Deserializing -/

/-- `bad`. -/
def badSegment (message : Text) : Error := ⟨.kCacheCorrupt, message⟩

/-- The value an enumeration byte names. -/
def enumerator {A : Type} (value : Option A) (why : String) : Decoder Error A :=
  ofExcept (match value with
    | none => .error (badSegment (ofString why))
    | some value => .ok value)

def fixOfParts (ident code : Text) : Decoder Error FixedIdent :=
  ofExcept (match FixedIdent.fromParts ident code with
    | .error error => .error (badSegment (ofString "invalid procedure fix ident: " ++ error.message))
    | .ok fix => .ok fix)

def deserializeLeg (pool : Text) : Decoder Error ProcedureLeg := do
  let ident ← text pool
  let code ← text pool
  let fix ← fixOfParts ident code
  let fixLat ← ByteReader.u32
  let fixLon ← ByteReader.u32
  require (validFixPosition fixLat fixLon) (badSegment (ofString "invalid procedure fix position"))
  let pathByte ← ByteReader.u8
  let pathTerm ← enumerator (PathTerminator.ofByte pathByte) "invalid procedure path terminator"
  let courseDeg ← ByteReader.u32
  let distanceNm ← ByteReader.u32
  let altByte ← ByteReader.u8
  let altKind ← enumerator (AltConstraintKind.ofByte altByte) "invalid procedure altitude constraint"
  let alt1Ft ← ByteReader.i32
  let alt2Ft ← ByteReader.i32
  let rnpCentinm ← ByteReader.u16
  let turnDir ← ByteReader.u8
  require (turnDir == 0 || turnDir == kTurnLeft || turnDir == kTurnRight)
    (badSegment (ofString "invalid procedure turn direction"))
  let speedLimitKt ← ByteReader.u16
  let flags ← ByteReader.u8
  require (flags &&& ~~~(kLegFlagMapt ||| kLegFlagCourseTrue) == 0)
    (badSegment (ofString "invalid procedure leg flags"))
  pure {
    fix := fix
    fixLat := fixLat
    fixLon := fixLon
    courseDeg := courseDeg
    distanceNm := distanceNm
    alt1Ft := alt1Ft
    alt2Ft := alt2Ft
    rnpCentinm := rnpCentinm
    speedLimitKt := speedLimitKt
    pathTerm := pathTerm
    altKind := altKind
    turnDir := turnDir
    isMapt := flags &&& kLegFlagMapt != 0
    courseTrue := flags &&& kLegFlagCourseTrue != 0 }

/-- `count_fits`. -/
def countFits (count : UInt32) (perRecord : Nat) (available : Nat) : Bool :=
  decide (count.toNat ≤ available / perRecord)

/-- A count, which the bytes ahead must be able to hold; a vector is sized by it. -/
def countOf (perRecord : Nat) (why : String) : Decoder Error UInt32 := do
  let count ← ByteReader.u32
  requireOk (badSegment (ofString why))
  fuse (countFits count perRecord) (badSegment (ofString why))
  allocate (count.toNat * perRecord)
  pure count

def deserializeProcedure (pool : Text) : Decoder Error Procedure := do
  let typeByte ← ByteReader.u8
  let type ← enumerator (ProcedureType.ofByte typeByte) "invalid procedure type"
  let routeType ← ByteReader.i32
  let name ← text pool
  let transitionIdent ← text pool
  let runway ← text pool
  let legCount ← countOf kProcedureLegSize "invalid procedure leg count"
  let legs ← times legCount.toNat (deserializeLeg pool)
  pure ⟨type, name, transitionIdent, runway, routeType, legs⟩

def deserializeRunway (pool : Text) : Decoder Error Runway := do
  let ident ← text pool
  let latitude ← ByteReader.u64
  let longitude ← ByteReader.u64
  let elevationFt ← ByteReader.i32
  pure ⟨ident, ⟨latitude, longitude⟩, elevationFt⟩

def decodeSegment (pool : Text) : Decoder Error CifpData := do
  let procCount ← countOf kProcedureHeaderSize "invalid procedure count"
  let procedures ← times procCount.toNat (deserializeProcedure pool)
  let rwyCount ← countOf kRunwaySize "invalid runway count"
  let runways ← times rwyCount.toNat (deserializeRunway pool)
  requireOk (badSegment (ofString "invalid field or string reference"))
  requireRefs (badSegment (ofString "invalid field or string reference"))
  fuse (fun available => available == 0) (badSegment (ofString "trailing bytes"))
  pure ⟨procedures, runways⟩

/-- `DeserializeSegment`. -/
def deserializeSegment (data pool : Text) : Except Error CifpData :=
  (decodeSegment pool ⟨data, true, true, []⟩).1

end CifpCodec
end BravoFinder
