import BravoFinder.Cache.StringPool
import BravoFinder.Core.FixedString

namespace BravoFinder

/-!
# The graph snapshot

What the cache keeps of a route graph.  The widths are those of the source:
`int` is 32 bits, and an enumeration is its underlying byte, which a cast fills
without a check.
-/

/-- The kind of a navigation point. -/
inductive WaypointKind where
  | kFix
  | kVor
  | kNdb
  | kDme
  | kOther
  | kIlsDme
deriving DecidableEq, Repr

/-- The underlying value of a kind. -/
def WaypointKind.toByte : WaypointKind -> UInt8
  | kFix => 0
  | kVor => 1
  | kNdb => 2
  | kDme => 3
  | kOther => 4
  | kIlsDme => 5

/-- `IsGraphVertexKind`. -/
def WaypointKind.isGraphVertexKind (kind : WaypointKind) : Bool :=
  kind ≠ .kOther ∧ kind ≠ .kIlsDme

/-- The underlying value of a level. -/
def AirwayLevel.toByte : AirwayLevel -> UInt8
  | .kLow => 0
  | .kHigh => 1
  | .kBoth => 2

/-- A `GraphEdge` in its stored widths. -/
structure PackedEdge where
  toVertex : Int32
  distanceNm : F32
  airwayId : UInt16
  baseFl : Int16
  topFl : Int16
  level : UInt8
deriving DecidableEq

/-- One sector of a minimum sector altitude. -/
structure MsaArc where
  bearingFrom : Int32
  alt100ft : Int32
  radiusNm : Int32
deriving DecidableEq

/-- The minimum sector altitudes around a fix. -/
structure MsaSector where
  center : Ident
  airportIcao : Text
  arcs : List MsaArc
deriving DecidableEq

/-- The number of cells of the altitude grid, `kLatCount * kLonCount`. -/
def kMoraCells : Nat := 180 * 360

/-- `MoraGrid`: one flight level for each degree cell. -/
structure MoraGrid where
  cells : List Int16
  cells_length : cells.length = kMoraCells

/-- The grid with nothing known. -/
def MoraGrid.unknown : MoraGrid := ⟨List.replicate kMoraCells 0, List.length_replicate⟩

/-- `FromCells`. -/
def MoraGrid.fromCells (cells : List Int16) : MoraGrid :=
  if length : cells.length = kMoraCells then ⟨cells, length⟩ else .unknown

theorem MoraGrid.fromCells_cells (grid : MoraGrid) : fromCells grid.cells = grid := by
  rw [fromCells, dif_pos grid.cells_length]

/-- `GraphSnapshot`. -/
structure GraphSnapshot where
  firstAirportVertex : Int32
  coords : List (Coordinate F64)
  offsets : List Int32
  edges : List PackedEdge
  hasOutbound : List UInt8
  hasInbound : List UInt8
  idents : List FixedIdent
  kinds : List UInt8
  airwayNames : List Text
  mora : MoraGrid
  msa : List MsaSector
  airportElevationsFt : List Int32

end BravoFinder
