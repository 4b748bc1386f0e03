import BravoFinder.Loaders.RowNumbers
import Mathlib.Tactic.IntervalCases

namespace BravoFinder

/-!
# Numbers that are kept

What is stored for a field is the number it shows, the value of a field that
shows none, or the bound that the number is beyond.  Not every loader keeps to
this: some narrow or multiply a number that is too large.
-/

/-- The number, the absent value, or the bound the number is beyond. -/
def Keeps (low high absent : Int) (number : Option Int) (value : Int) : Prop :=
  value = absent ∨ exists n, number = some n ∧ (value = n ∨ (high < n ∧ value = high) ∨ (n < low ∧ value = low))

/-- A number that its lower 16 bits keep: one of 16 bits, or one of which they are zero
or the bound. -/
def NarrowsWell (n : Int) : Prop :=
  FitsInt16 n ∨ n % 2 ^ 16 = 0 ∨ (2 ^ 15 ≤ n ∧ n % 2 ^ 16 = 2 ^ 15 - 1) ∨ (n < -2 ^ 15 ∧ n % 2 ^ 16 = 2 ^ 15)

/-- A number that its lower 32 bits keep. -/
def WrapsWell (n : Nat) : Prop :=
  n < 2 ^ 32 ∨ n % 2 ^ 32 = 0 ∨ n % 2 ^ 32 = 2 ^ 32 - 1

namespace Cifp

/-- The number of a CIFP field, which a plus sign may stand before. -/
def plainNumber (t : Text) : Option Int :=
  (leadingNumber (if t.head? = some 43 then t.tail else t)).map Prod.fst

/-- The field is a flight level. -/
def IsFlightLevel (t : Text) : Prop :=
  2 < t.length ∧ t.take 2 = [70, 76]

instance (t : Text) : Decidable (IsFlightLevel t) :=
  inferInstanceAs (Decidable (_ ∧ _))

/-- The flight level, if it is an `int`, is one in feet too. -/
def FlightLevelFits (t : Text) : Prop :=
  IsFlightLevel t -> forall n, plainNumber (t.drop 2) = some n -> FitsInt32 n -> FitsInt32 (n * 100)

/-- The flight levels of a row that makes a leg fit. -/
def LegFits (row : LegRow) : Prop :=
  (fieldStr row.fields kFixIdent).length ≤ 7 -> (fieldStr row.fields kFixRegion).length ≤ 3 ->
    FlightLevelFits (fieldStr row.fields kAlt1) ∧ FlightLevelFits (fieldStr row.fields kAlt2)

end Cifp

/-! ## Cells -/

namespace MoraSource

/-- The numbers that make a cell. -/
def Shows (source : MoraSource) (text : Text) (n : Int) : Prop :=
  source.number text = some n ∧ FitsInt32 n ∧ source.stores n = true

end MoraSource

namespace MoraRow

/-- The cell is one of the grid. -/
def OnGrid (row : MoraRow) (i : Nat) : Prop :=
  0 ≤ MoraGrid.index row.lat.toInt (row.lon i).toInt

instance (row : MoraRow) (i : Nat) : Decidable (row.OnGrid i) :=
  inferInstanceAs (Decidable (_ ≤ _))

def Fits (row : MoraRow) : Prop :=
  forall (i : Nat) text n, row.cells[i]? = some text -> row.source.Shows text n ->
    row.lon0.toInt + i < 2 ^ 31 ∧ (row.OnGrid i -> NarrowsWell n)

end MoraRow

/-! ## Airways -/

namespace AirwayLine

/-- The numbers of a row, as numbers. -/
def numbers (row : AirwayLine Int32) : AirwayLine Int :=
  { row with hilo := row.hilo.toInt, baseFl := row.baseFl.toInt, topFl := row.topFl.toInt }

end AirwayLine

def AirwayLineFits (line : Text) : Prop :=
  forall number, readAirwayLine streamNumber line = some number ->
    FitsInt32 number.hilo ∧ FitsInt32 number.baseFl ∧ FitsInt32 number.topFl ->
      NarrowsWell number.baseFl ∧ NarrowsWell number.topFl

/-- The flight level of an altitude in feet. -/
def levelOf (altitudeFt : Int32) : Int :=
  altitudeFt.toInt.tdiv 100

/-! ## The cycle -/

/-- The cycle that a header shows. -/
def cycleNumber (lines : List Text) : Option Int :=
  match cycleLine lines with
  | none => none
  | some line => if (digitsAfter kCycle line).isEmpty then none else some (shownBy (digitsAfter kCycle line) : Int)

def CycleFits (lines : List Text) : Prop :=
  forall n : Nat, cycleNumber lines = some (n : Int) -> WrapsWell n

/-- A record of a source that has numbers. -/
inductive SourceRecord where
  | leg (row : Cifp.LegRow)
  | moraLine (line : Text)
  | moraRow (row : MoraRow)
  | airwayLine (line : Text)
  /-- The altitudes of an airway, in feet. -/
  | airwayRow (minimumAltitude maximumAltitude : Int32)
  | header (lines : List Text)

namespace SourceRecord

/-- The numbers of a record fit where they are narrowed. -/
def Fits : SourceRecord -> Prop
  | leg row => Cifp.LegFits row
  | moraLine line => forall row, readMoraLine line = some row -> row.Fits
  | moraRow row => row.Fits
  | airwayLine line => AirwayLineFits line
  | airwayRow minimumAltitude maximumAltitude =>
      NarrowsWell (levelOf minimumAltitude) ∧ NarrowsWell (levelOf maximumAltitude)
  | header lines => CycleFits lines

end SourceRecord

end BravoFinder
