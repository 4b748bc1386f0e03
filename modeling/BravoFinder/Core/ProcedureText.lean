import BravoFinder.Cache.CifpSegment

namespace BravoFinder

/-!
# Tokens of procedure records

The texts that loaders read procedure legs from, whatever their source.
-/

def kRunwayPrefix : Text := ofString "RW"

/-- `std::from_chars` of an `int`: the leading number, and what follows it. -/
def fromChars (text : Text) : Option (Int32 × Text) :=
  let negative := text.head? = some 45
  let body := if negative then text.tail else text
  let digits := body.takeWhile fun byte => 48 ≤ byte && byte ≤ 57
  let magnitude : Nat := digits.foldl (fun value byte => value * 10 + (byte.toNat - 48)) 0
  if digits.isEmpty then none
  else if negative then
    if 2 ^ 31 < magnitude then none else some (Int32.ofInt (-(magnitude : Int)), body.drop digits.length)
  else if 2 ^ 31 ≤ magnitude then none
  else some (Int32.ofInt magnitude, body.drop digits.length)

/-- `ParseRouteTypeToken`. -/
def parseRouteTypeToken (token : Text) : Int32 :=
  match token with
  | [] => 0
  | first :: rest =>
      match fromChars token with
      | some (value, []) => value
      | _ => if rest.isEmpty then Int32.ofInt first.toNat else 0

/-- The tokens of path terminators. -/
def pathTerminatorTokens : List (Text × PathTerminator) :=
  [(ofString "TF", .kTF), (ofString "IF", .kIF), (ofString "DF", .kDF), (ofString "CF", .kCF), (ofString "AF", .kAF),
    (ofString "RF", .kRF), (ofString "CA", .kCA), (ofString "FA", .kFA), (ofString "VA", .kVA), (ofString "HA", .kHA),
    (ofString "CD", .kCD), (ofString "FD", .kFD), (ofString "VD", .kVD), (ofString "CI", .kCI), (ofString "VI", .kVI),
    (ofString "CR", .kCR), (ofString "VR", .kVR), (ofString "FC", .kFC), (ofString "FM", .kFM), (ofString "VM", .kVM),
    (ofString "PI", .kPI), (ofString "HM", .kHM), (ofString "HF", .kHF)]

/-- `ParsePathTerminator`. -/
def parsePathTerminator (token : Text) : PathTerminator :=
  (pathTerminatorTokens.lookup token).getD .kUnknown

/-- `IsMaptDesc`: the fourth character is `M`. -/
def isMaptDesc (desc : Text) : Bool :=
  desc[3]? == some 77

/-- `NormalizeRunwayIdent`. -/
def normalizeRunwayIdent (rwy : Text) : Text :=
  if rwy.isEmpty then []
  else if kRunwayPrefix.isPrefixOf rwy then rwy
  else kRunwayPrefix ++ rwy

/-- `EqualsCode`. -/
def equalsCode (s : Text) (code : UInt8) : Bool :=
  s == [code]

def kCourseFlagTrue : UInt8 := 84
def kDistTimeFlagDistance : UInt8 := 68

/-- The latitude and the longitude of a fix without position. -/
def noPosition : F32 := 0x7FC00000

/-- `AltitudeConstraint`. -/
structure AltitudeConstraint where
  kind : AltConstraintKind
  alt1Ft : Int32
  alt2Ft : Int32
deriving DecidableEq

/-- No restriction. -/
def AltitudeConstraint.none : AltitudeConstraint := ⟨.kNone, 0, 0⟩

/-- `ParseAltConstraint`: the codes are `B`, `C`, `+`, `H`, `J`, `V`, `-` and `Y`. -/
def parseAltConstraint (desc : Text) (alt1 alt2 : Int32) : AltitudeConstraint :=
  let cross (kind : AltConstraintKind) : AltitudeConstraint := if alt1 = 0 then .none else ⟨kind, alt1, 0⟩
  match desc.head?.getD 32 with
  | 66 => ⟨.kBetween, alt1, alt2⟩
  | 67 => if alt2 ≠ 0 then ⟨.kAtOrAbove, alt2, 0⟩ else .none
  | 43 | 72 | 74 | 86 => cross .kAtOrAbove
  | 45 | 89 => cross .kAtOrBelow
  | _ => cross .kAt

/-- `ApproachRunwayFromName`: a letter, one or two digits, and `L`, `R` or `C`. -/
def approachRunwayFromName (name : Text) : Text :=
  let isDigit := fun byte : UInt8 => 48 ≤ byte && byte ≤ 57
  match name with
  | first :: second :: rest =>
      if !(65 ≤ first && first ≤ 90) || !isDigit second then []
      else
        let digits := second :: (rest.take 1).takeWhile isDigit
        let suffix := ((second :: rest).drop digits.length).head?.filter fun byte =>
          byte = 76 || byte = 82 || byte = 67
        kRunwayPrefix ++ digits ++ suffix.toList
  | _ => []

end BravoFinder
