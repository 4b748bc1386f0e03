import BravoFinder.Core.ProcedureText
import BravoFinder.Library.KeyRuns

namespace BravoFinder
namespace Cifp

/-!
# CIFP files

A line is a record: a tag, a colon and fields between commas, up to a semicolon.
The legs of a procedure follow each other, and a change of type, name, transition
or route type starts another procedure.
-/

/-! ## Fields -/

def kSidToken : Text := [83, 73, 68]
def kStarToken : Text := [83, 84, 65, 82]
def kAppchToken : Text := [65, 80, 80, 67, 72]

/-- `RWY`. -/
def kRunwayTag : Text := [82, 87, 89]

/-- `Trim`. -/
def trim (s : Text) : Text :=
  ((s.dropWhile (· == 32)).reverse.dropWhile (· == 32)).reverse

def kRouteType : Nat := 1
def kProcName : Nat := 2
def kTransition : Nat := 3
def kFixIdent : Nat := 4
def kFixRegion : Nat := 5
def kFixSection : Nat := 6
def kFixSubsection : Nat := 7
def kWptDesc : Nat := 8
def kTurnDir : Nat := 9
def kRnp : Nat := 10
def kPathTerm : Nat := 11
def kCourse : Nat := 20
def kDistance : Nat := 21
def kAltDesc : Nat := 22
def kAlt1 : Nat := 23
def kAlt2 : Nat := 24
def kSpeedLimit : Nat := 27
def kMinLegFields : Nat := 25

def kFeetPerFlightLevel : Int32 := 100

/-- `LeadingInt`. -/
def leadingInt (s : Text) : Int32 :=
  match fromChars (if s.head? = some 43 then s.tail else s) with
  | some (value, _) => value
  | none => 0

/-- `FieldStr`. -/
def fieldStr (f : List Text) (index : Nat) : Text :=
  trim (f.getD index [])

/-- `FieldInt`. -/
def fieldInt (f : List Text) (index : Nat) : Int32 :=
  leadingInt (fieldStr f index)

/-- `FieldAltitudeFt`.  The product of a flight level may overflow. -/
def fieldAltitudeFt (f : List Text) (index : Nat) : Int32 :=
  let t := fieldStr f index
  if 2 < t.length ∧ t.take 2 = [70, 76] then leadingInt (t.drop 2) * kFeetPerFlightLevel else leadingInt t

/-- The arithmetic on `double`s: of a course and a distance, of a position, and of
the packed coordinates of a runway. -/
structure Conversions where
  toFloat : Int32 -> F32
  /-- `static_cast<float>(value / 10.0)`. -/
  tenths : Int32 -> F32
  narrow : F64 -> F32
  packedToDegrees : Text -> F64

/-- What blank fields are converted to. -/
def blankConversions : Conversions := ⟨fun _ => 0, fun _ => 0, fun _ => 0, fun _ => 0⟩

/-- `FieldCourse`: whole degrees when they are true, else tenths. -/
def fieldCourse (conversions : Conversions) (f : List Text) (index : Nat) : F32 × Bool :=
  let t := fieldStr f index
  if t.getLast? = some 84 then (conversions.toFloat (leadingInt t), true)
  else (conversions.tenths (leadingInt t), false)

/-- `RnpCentinm`: two digits and a negative power of ten, in hundredths. -/
def rnpCentinm (field : Text) : UInt16 :=
  match field with
  | [first, second, third] =>
      if field.all fun c => 48 ≤ c && c ≤ 57 then
        let mantissa := (first.toNat - 48) * 10 + (second.toNat - 48)
        let exp := third.toNat - 48
        let centinm :=
          if exp ≤ 2 then mantissa * 10 ^ (2 - exp)
          else (mantissa + 10 ^ (exp - 2) / 2) / 10 ^ (exp - 2)
        if 65535 < centinm then 0 else UInt16.ofNat centinm
      else 0
  | _ => 0

/-- `TurnDir`. -/
def turnDir (field : Text) : UInt8 :=
  if equalsCode field kTurnLeft then kTurnLeft else if equalsCode field kTurnRight then kTurnRight else 0

/-- `std::clamp` to an unsigned `short`. -/
def clampToUInt16 (value : Int32) : UInt16 :=
  UInt16.ofNat (min value.toInt.toNat 65535)

/-- `FixLocator`. -/
abbrev FixLocator := Text -> Text -> UInt8 -> UInt8 -> Option (Coordinate F64)

/-! ## Records -/

/-- A row of a leg, of sufficient length. -/
structure LegRow where
  type : ProcedureType
  fields : List Text
deriving DecidableEq

/-- `TypeFromTag`, of a tag that names a leg. -/
def typeFromTag (tag : Text) : Option ProcedureType :=
  if tag = kSidToken then some .kSid
  else if tag = kStarToken then some .kStar
  else if tag = kAppchToken then some .kApproach
  else none

/-- The tag of a line. -/
def tagOf (raw : Text) : Option Text :=
  if raw.contains 58 then some (raw.takeWhile (· != 58)) else none

/-- The row of a line, if that is one of a leg. -/
def legRow (raw : Text) : Option LegRow :=
  match (tagOf raw).bind typeFromTag with
  | none => none
  | some type =>
      let f := (raw.takeWhile (· != 59)).splitOn 44
      if f.length < kMinLegFields then none else some ⟨type, f⟩

/-- `ParseRunway`. -/
def parseRunway (conversions : Conversions) (line : Text) : Option Runway :=
  match line.splitOn 59 with
  | first :: second :: _ =>
      let head := first.splitOn 44
      match (head.headD []).splitOn 58, second.splitOn 44 with
      | _ :: ident :: _, latitude :: longitude :: _ =>
          some ⟨trim ident, ⟨conversions.packedToDegrees (trim latitude), conversions.packedToDegrees (trim longitude)⟩,
            fieldInt head 3⟩
      | _, _ => none
  | _ => none

/-- What the rows of one procedure share. -/
structure ProcKey where
  type : ProcedureType
  name : Text
  transition : Text
  routeType : Int32
deriving DecidableEq

def LegRow.key (row : LegRow) : ProcKey where
  type := row.type
  name := fieldStr row.fields kProcName
  transition := fieldStr row.fields kTransition
  routeType := parseRouteTypeToken (fieldStr row.fields kRouteType)

def ProcKey.ofProcedure (procedure : Procedure) : ProcKey :=
  ⟨procedure.type, procedure.name, procedure.transitionIdent, procedure.routeType⟩

/-- The procedure that a row starts. -/
def startProcedure (key : ProcKey) : Procedure where
  type := key.type
  name := key.name
  transitionIdent := key.transition
  runway := if kRunwayPrefix.isPrefixOf key.transition then key.transition else
    if key.type = .kApproach then approachRunwayFromName key.name else []
  routeType := key.routeType
  legs := []

section Parse

variable (conversions : Conversions) (locate : Option FixLocator)

/-- The position of a fix. -/
def positionOf (f : List Text) (fix : FixedIdent) : F32 × F32 :=
  match locate with
  | none => (noPosition, noPosition)
  | some locate =>
      if (fieldStr f kFixIdent).isEmpty then (noPosition, noPosition)
      else
        match locate fix.ident fix.arinc424IcaoCode ((fieldStr f kFixSection).headD 32)
          ((fieldStr f kFixSubsection).headD 32) with
        | none => (noPosition, noPosition)
        | some coord => (conversions.narrow coord.latitude, conversions.narrow coord.longitude)

/-- The leg of a row, unless its fix does not fit an identifier. -/
def decodeLeg (row : LegRow) : Option ProcedureLeg :=
  let f := row.fields
  match FixedIdent.fromParts (fieldStr f kFixIdent) (fieldStr f kFixRegion) with
  | .error _ => none
  | .ok fix =>
      let position := positionOf conversions locate f fix
      let course := fieldCourse conversions f kCourse
      let altitude := parseAltConstraint (fieldStr f kAltDesc) (fieldAltitudeFt f kAlt1) (fieldAltitudeFt f kAlt2)
      some
        { fix := fix
          fixLat := position.1
          fixLon := position.2
          courseDeg := course.1
          distanceNm := conversions.tenths (fieldInt f kDistance)
          alt1Ft := altitude.alt1Ft
          alt2Ft := altitude.alt2Ft
          rnpCentinm := rnpCentinm (fieldStr f kRnp)
          speedLimitKt := clampToUInt16 (fieldInt f kSpeedLimit)
          pathTerm := parsePathTerminator (fieldStr f kPathTerm)
          altKind := altitude.kind
          turnDir := turnDir (fieldStr f kTurnDir)
          isMapt := isMaptDesc (fieldStr f kWptDesc)
          courseTrue := course.2 }

/-- The loop of `ParseLines`; `current` is absent until a row has come. -/
structure LineScan where
  current : Option (ProcKey × Procedure)
  data : CifpData

/-- `flush`. -/
def LineScan.flush (scan : LineScan) : List Procedure :=
  scan.data.procedures ++ (scan.current.toList.map Prod.snd).filter fun procedure => !procedure.legs.isEmpty

/-- A row of a leg. -/
def LineScan.takeRow (scan : LineScan) (row : LegRow) : LineScan :=
  let started :=
    match scan.current with
    | some (key, _) =>
        if key = row.key then scan
        else ⟨some (row.key, startProcedure row.key), { scan.data with procedures := scan.flush }⟩
    | none => ⟨some (row.key, startProcedure row.key), { scan.data with procedures := scan.flush }⟩
  { started with
    current := started.current.map fun current =>
      (current.1, { current.2 with legs := current.2.legs ++ (decodeLeg conversions locate row).toList }) }

/-- One line. -/
def LineScan.takeLine (scan : LineScan) (raw : Text) : LineScan :=
  if tagOf raw = some kRunwayTag then
    { scan with data := { scan.data with runways := scan.data.runways ++ (parseRunway conversions raw).toList } }
  else
    match legRow raw with
    | none => scan
    | some row => scan.takeRow conversions locate row

/-- `ParseLines`. -/
def parseLines (lines : List Text) : CifpData :=
  let scan := lines.foldl (LineScan.takeLine conversions locate) ⟨none, ⟨[], []⟩⟩
  { scan.data with procedures := scan.flush }

end Parse

end Cifp
end BravoFinder
