import Mathlib.Algebra.Ring.Nat
import Mathlib.Algebra.Ring.Int.Defs
import Mathlib.Order.WithBot
import Mathlib.Data.Nat.Cast.Defs
import Mathlib.Data.Rat.Defs
import Mathlib.Data.List.Nodup

namespace BravoFinder

/-!
# Positions, headings and airway edges

The numbers of the engine are `double` values.  Everything that depends on
them is stated over a type `R` of numbers, and each result says which laws of
arithmetic it needs: some need none, so they hold of rounded arithmetic too.

The spherical trigonometry of `Coordinate` is a parameter.  The engine relies
on only two facts about it, both documented beside the declarations: distances
and headings are never negative.
-/

/-- A `std::string`: its bytes, with no encoding assumed. -/
abbrev Text := List UInt8

/-- The bytes of a literal of the source. -/
def ofString (literal : String) : Text :=
  literal.toUTF8.toList

/-- "No vertex", shared by the search and the route metadata. -/
def kNoVertex : Int := -1

/-- "No heading".  Zero is north and a real heading. -/
def kNoBearing {R : Type} [Neg R] [One R] : R := -1

/-- A geographic position in decimal degrees. -/
structure Coordinate (R : Type) where
  latitude : R
  longitude : R
deriving DecidableEq

/-- The trigonometry of `Coordinate`: great-circle distance in NM, initial
bearing normalized to `[0, 360)`, and the length in NM of the straight chord
between two positions, by which the search estimates a remaining distance. -/
structure Geodesy (R : Type) [LinearOrder R] [Zero R] where
  distanceTo : Coordinate R -> Coordinate R -> R
  bearingTo : Coordinate R -> Coordinate R -> R
  chordNm : Coordinate R -> Coordinate R -> R
  distanceTo_nonneg : forall origin target, 0 ≤ distanceTo origin target
  bearingTo_nonneg : forall origin target, 0 ≤ bearingTo origin target

/-- The airway structure a segment belongs to. -/
inductive AirwayLevel where
  | kLow
  | kHigh
  | kBoth
deriving DecidableEq, Repr

/-- A directed edge.  The source vertex is not stored: it is the CSR row the
edge lies in.  `F` is the type of the stored length. -/
structure GraphEdge (F : Type) where
  toVertex : Int
  distanceNm : F
  airwayId : Nat
  baseFl : Int
  topFl : Int
  level : AirwayLevel
deriving DecidableEq

/-- An immutable directed graph in compressed-sparse-row form.  The fields
after the three arrays are what the unchecked accessors rely on. -/
structure NavGraph (D F : Type) where
  coords : List (Coordinate D)
  offsets : List Nat
  edges : List (GraphEdge F)
  offsets_length : offsets.length = coords.length + 1
  offsets_sorted : offsets.Pairwise (· ≤ ·)
  offsets_le : forall offset, offset ∈ offsets -> offset ≤ edges.length
  edges_to : forall edge, edge ∈ edges -> 0 ≤ edge.toVertex ∧ edge.toVertex < coords.length
  vertexCount_lt : coords.length < 2 ^ 31

namespace NavGraph

variable {D F : Type}

def vertexCount (graph : NavGraph D F) : Int :=
  graph.coords.length

/-- The position of a vertex.  The default stands for the read past the array
that no caller makes. -/
def coordOf [Zero D] (graph : NavGraph D F) (vertex : Int) : Coordinate D :=
  graph.coords.getD vertex.toNat ⟨0, 0⟩

/-- The edges leaving `vertex`, as the range `[EdgesBegin, EdgesEnd)`. -/
def edgesFrom (graph : NavGraph D F) (vertex : Int) : List (GraphEdge F) :=
  (graph.edges.take (graph.offsets.getD (vertex.toNat + 1) 0)).drop
    (graph.offsets.getD vertex.toNat 0)

/-- The vertices of the graph, in index order. -/
def vertices (graph : NavGraph D F) : List Int :=
  (List.range graph.coords.length).map Int.ofNat

/-- `0 ≤ vertex < VertexCount()`. -/
def InRange (graph : NavGraph D F) (vertex : Int) : Prop :=
  0 ≤ vertex ∧ vertex < graph.vertexCount

instance (graph : NavGraph D F) (vertex : Int) : Decidable (graph.InRange vertex) :=
  inferInstanceAs (Decidable (0 ≤ vertex ∧ vertex < graph.vertexCount))

theorem mem_vertices (graph : NavGraph D F) (vertex : Int) :
    vertex ∈ graph.vertices ↔ graph.InRange vertex := by
  simp only [vertices, List.mem_map, List.mem_range, InRange, vertexCount]
  constructor
  · rintro ⟨index, bound, rfl⟩
    exact ⟨Int.natCast_nonneg index, Int.ofNat_lt.mpr bound⟩
  · rintro ⟨nonneg, bound⟩
    exact ⟨vertex.toNat, by omega, Int.toNat_of_nonneg nonneg⟩

theorem nodup_vertices (graph : NavGraph D F) : graph.vertices.Nodup :=
  List.Nodup.map (fun _ _ same => Int.ofNat.inj same) List.nodup_range

theorem length_vertices (graph : NavGraph D F) :
    graph.vertices.length = graph.coords.length := by
  simp only [vertices, List.length_map, List.length_range]

/-- Every edge read from a row leads to a vertex of the graph. -/
theorem inRange_toVertex (graph : NavGraph D F) {vertex : Int} {edge : GraphEdge F}
    (listed : edge ∈ graph.edgesFrom vertex) : graph.InRange edge.toVertex :=
  graph.edges_to edge (List.mem_of_mem_take (List.mem_of_mem_drop listed))

end NavGraph
end BravoFinder
