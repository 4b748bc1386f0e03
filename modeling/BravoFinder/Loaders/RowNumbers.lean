import BravoFinder.Build.FaithfulGraph
import BravoFinder.Constraints.MoraConstraint
import BravoFinder.Loaders.CifpParser

namespace BravoFinder

/-!
# Numbers of source rows

Each loader reads numbers in its own way: from a text, from a stream, or digit by
digit.  What number a text shows does not depend on the types it is stored in.
-/

/-! ## Reading -/

def isDigit (c : UInt8) : Bool :=
  48 ≤ c && c ≤ 57

/-- The number that digits show. -/
def shownBy (digits : Text) : Nat :=
  digits.foldl (fun value c => value * 10 + (c.toNat - 48)) 0

/-- The number a text starts with, which may be negative, and what follows it. -/
def leadingNumber (text : Text) : Option (Int × Text) :=
  let negative := text.head? = some 45
  let body := if negative then text.tail else text
  let digits := body.takeWhile isDigit
  if digits.isEmpty then none
  else some (if negative then -(shownBy digits : Int) else shownBy digits, body.drop digits.length)

/-- A value of an `int`. -/
def FitsInt32 (value : Int) : Prop :=
  -2 ^ 31 ≤ value ∧ value < 2 ^ 31

instance (value : Int) : Decidable (FitsInt32 value) :=
  inferInstanceAs (Decidable (_ ∧ _))

/-- A number as an `int`, if it is one. -/
def asInt (found : Int × Text) : Option (Int32 × Text) :=
  if FitsInt32 found.1 then some (Int32.ofInt found.1, found.2) else none

/-- What `>>` skips. -/
def isBlank (c : UInt8) : Bool :=
  c == 32 || (9 ≤ c && c ≤ 13)

/-- `>>` of a `std::string`. -/
def extractWord (stream : Text) : Option (Text × Text) :=
  let rest := stream.dropWhile isBlank
  let word := rest.takeWhile fun c => !isBlank c
  if word.isEmpty then none else some (word, rest.drop word.length)

/-- The number that stands next in a stream, with one sign or none. -/
def streamNumber (stream : Text) : Option (Int × Text) :=
  let rest := stream.dropWhile isBlank
  if rest.head? = some 43 then if rest.tail.head? = some 45 then none else leadingNumber rest.tail
  else leadingNumber rest

/-- `>>` of an `int`: the stream fails on a number that is none. -/
def extractInt (stream : Text) : Option (Int32 × Text) :=
  (streamNumber stream).bind asInt

/-- A row of `earth_awy.dat`. -/
structure AirwayLine (N : Type) where
  «from» : Text
  freg : Text
  ftype : Text
  «to» : Text
  treg : Text
  ttype : Text
  dir : Text
  hilo : N
  baseFl : N
  topFl : N
  name : Text

/-- The row of a line, with what reads its numbers. -/
def readAirwayLine {N : Type} (readInt : Text -> Option (N × Text)) (line : Text) : Option (AirwayLine N) :=
  (extractWord line).bind fun «from» =>
  (extractWord «from».2).bind fun freg =>
  (extractWord freg.2).bind fun ftype =>
  (extractWord ftype.2).bind fun «to» =>
  (extractWord «to».2).bind fun treg =>
  (extractWord treg.2).bind fun ttype =>
  (extractWord ttype.2).bind fun dir =>
  (readInt dir.2).bind fun hilo =>
  (readInt hilo.2).bind fun baseFl =>
  (readInt baseFl.2).bind fun topFl =>
  (extractWord topFl.2).bind fun name =>
  some ⟨«from».1, freg.1, ftype.1, «to».1, treg.1, ttype.1, dir.1, hilo.1, baseFl.1, topFl.1, name.1⟩

/-! ## Cells of the MORA grid -/

inductive MoraSource where
  | xplane12
  | dfd
  | fenix
deriving DecidableEq

namespace MoraSource

/-- The number that the text of a cell shows. -/
def number (source : MoraSource) (text : Text) : Option Int :=
  match source with
  | xplane12 => (streamNumber text).map Prod.fst
  | dfd => (leadingNumber text).map Prod.fst
  | fenix => (leadingNumber text).map Prod.fst

/-- What the text of a cell is read as. -/
def read (source : MoraSource) (text : Text) : Option Int32 :=
  match source with
  | xplane12 => (extractInt text).map Prod.fst
  | dfd => if text.isEmpty || text = [85, 78, 75] then none else (fromChars text).map Prod.fst
  | fenix => if text.isEmpty then none else (fromChars text).map Prod.fst

/-- Whether a value is stored. -/
def stores (source : MoraSource) (value : Int) : Bool :=
  match source with
  | xplane12 => 0 < value
  | dfd => 0 < value
  | fenix => value ≠ 0

/-- The cell of a text. -/
def cell (source : MoraSource) (text : Text) : Option Int16 :=
  match source.read text with
  | none => none
  | some value => if source.stores value.toInt then some value.toInt16 else none

end MoraSource

/-- The arguments of `SetCell`. -/
structure MoraCall where
  lat : Int32
  lon : Int32
  moraFl : Int16

/-- A row of cells, from a longitude on. -/
structure MoraRow where
  source : MoraSource
  lat : Int32
  lon0 : Int32
  cells : List Text

/-- The longitude of a cell.  The sum may overflow. -/
def MoraRow.lon (row : MoraRow) (i : Nat) : Int32 :=
  row.lon0 + Int32.ofNat i

/-- The call for the text of a cell. -/
def MoraRow.call (row : MoraRow) (i : Nat) (text : Text) : Option MoraCall :=
  (row.source.cell text).map fun moraFl => ⟨row.lat, row.lon i, moraFl⟩

/-- The calls of a row. -/
def MoraRow.calls (row : MoraRow) : List MoraCall :=
  row.cells.zipIdx.filterMap fun entry => row.call entry.2 entry.1

/-- The texts of a stream that values are read at. -/
def cellTexts : Nat -> Text -> List Text
  | 0, _ => []
  | count + 1, stream =>
      match extractInt stream with
      | none => []
      | some (_, rest) => stream :: cellTexts count rest

/-- A row of `earth_mora.dat`. -/
def readMoraLine (line : Text) : Option MoraRow :=
  (extractInt line).bind fun lat => (extractInt lat.2).bind fun lon0 =>
    some ⟨.xplane12, lat.1, lon0.1, cellTexts 30 lon0.2⟩

/-! ## The cycle -/

def kCycle : Text := [99, 121, 99, 108, 101]

/-- What follows the first place of a token. -/
def afterToken (token : Text) : Text -> Option Text
  | [] => if token = [] then some [] else none
  | c :: rest => if token.isPrefixOf (c :: rest) then some ((c :: rest).drop token.length) else afterToken token rest

/-- The digits after a token. -/
def digitsAfter (token line : Text) : Text :=
  (((afterToken token line).getD []).dropWhile fun c => !isDigit c).takeWhile isDigit

/-- `number_after`. -/
def numberAfter (line token : Text) : UInt32 :=
  (digitsAfter token line).foldl (fun value c => value * 10 + UInt32.ofNat (c.toNat - 48)) 0

/-- The line of the header that has the cycle. -/
def cycleLine (lines : List Text) : Option Text :=
  (lines.take 5).find? fun line => (afterToken kCycle line).isSome

/-- `ParseCycle`. -/
def parseCycle (lines : List Text) : UInt32 :=
  match cycleLine lines with
  | none => 0
  | some line => numberAfter line kCycle

end BravoFinder
