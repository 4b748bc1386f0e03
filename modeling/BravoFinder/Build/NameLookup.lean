import BravoFinder.Build.FixLookup
import Mathlib.Data.List.TakeWhile

namespace BravoFinder

/-!
# Vertices by name

An identifier alone names the waypoints of every region that have it, and an
ICAO code names an airport.
-/

/-- `ToUpper`. -/
def toUpper (s : Text) : Text :=
  s.map fun c => if 97 ≤ c ∧ c ≤ 122 then c - 32 else c

/-- The identifier of a vertex as a lookup key. -/
def FixedIdent.name (fixed : FixedIdent) : FixedName8 :=
  ⟨fixed.ident, fixed.ident_length⟩

namespace GraphBuilder

variable {R : Type}

/-- `by_key` of `RebuildIndices`. -/
def byName (first second : FixedName8 × Int) : Bool :=
  if first.1.text < second.1.text then true
  else if second.1.text < first.1.text then false
  else decide (first.2 < second.2)

/-- The names of the vertices from `from` on, sorted. -/
def nameIndex (idents : List FixedIdent) (start : Nat) : List (FixedName8 × Int) :=
  ((idents.zipIdx start).map fun entry => (entry.1.name, (entry.2 : Int))).insertionSort fun first second =>
    byName first second

/-- `ident_all_`. -/
def identAll (builder : GraphBuilder R) : List (FixedName8 × Int) :=
  nameIndex (builder.idents.take builder.firstAirportVertex) 0

/-- `airport_index_`. -/
def airportIndex (builder : GraphBuilder R) : List (FixedName8 × Int) :=
  nameIndex (builder.idents.drop builder.firstAirportVertex) builder.firstAirportVertex

/-- The entries of a name: `std::lower_bound`, and on while the name is the same. -/
def nameRange (index : List (FixedName8 × Int)) (key : FixedName8) : List (FixedName8 × Int) :=
  (index.dropWhile fun entry => decide (entry.1.text < key.text)).takeWhile fun entry => entry.1 == key

/-- `VerticesByIdent`. -/
def verticesByIdent (builder : GraphBuilder R) (ident : Text) : List Int :=
  match FixedName8.ofText ident with
  | .error _ => []
  | .ok key => (nameRange builder.identAll key).map Prod.snd

/-- `VertexByAirport`. -/
def vertexByAirport (builder : GraphBuilder R) (icao : Text) : Int :=
  match FixedName8.ofText icao with
  | .error _ => -1
  | .ok key =>
      match nameRange builder.airportIndex key with
      | [] => -1
      | entry :: _ => entry.2

/-- `VertexByIdent` of an identifier that may be too long. -/
def vertexByFullIdent (builder : GraphBuilder R) (ident : Ident) : Int :=
  match FixedIdent.fromIdent ident with
  | .error _ => -1
  | .ok key => builder.vertexByIdent key

/-- `OnNetwork`. -/
def onNetwork (builder : GraphBuilder R) (vertex : Int) : Bool :=
  builder.hasOutbound vertex || builder.hasInbound vertex

end GraphBuilder

/-! ## Where the vertices lie -/

namespace GraphBuilder

variable {R : Type} {builder : GraphBuilder R}

theorem mem_nameIndex {idents : List FixedIdent} {start : Nat} {entry : FixedName8 × Int}
    (listed : entry ∈ nameIndex idents start) :
    exists index fixed, idents[index]? = some fixed ∧ entry.1 = fixed.name ∧
      entry.2 = ((start + index : Nat) : Int) := by
  rw [nameIndex, List.mem_insertionSort, List.mem_map] at listed
  rcases listed with ⟨⟨fixed, position⟩, member, rfl⟩
  rcases List.mem_zipIdx_iff_le_and_getElem?_sub.mp member with ⟨bound, found⟩
  exact ⟨position - start, fixed, found, rfl, by rw [Nat.add_sub_cancel' bound]⟩

theorem mem_nameRange {index : List (FixedName8 × Int)} {key : FixedName8} {entry : FixedName8 × Int}
    (listed : entry ∈ nameRange index key) : entry ∈ index ∧ entry.1 = key := by
  refine ⟨List.dropWhile_sublist _ |>.subset (List.takeWhile_sublist _ |>.subset listed), ?_⟩
  exact beq_iff_eq.mp (List.mem_takeWhile_imp (p := fun other : FixedName8 × Int => other.1 == key) listed)

/-- A name leads to waypoints only ... -/
theorem isWaypoint_of_verticesByIdent {ident : Text} {v : Int} (found : v ∈ builder.verticesByIdent ident) :
    0 ≤ v ∧ v < builder.firstAirportVertex ∧ (builder.identOf v).ident = ident := by
  rw [verticesByIdent] at found
  rcases packed : FixedName8.ofText ident with error | key
  · rw [packed] at found
    cases found
  rw [packed] at found
  rcases List.mem_map.mp found with ⟨entry, listed, rfl⟩
  rcases mem_nameRange listed with ⟨inIndex, same⟩
  rcases mem_nameIndex inIndex with ⟨index, fixed, here, name, vertex⟩
  rw [List.getElem?_take] at here
  split_ifs at here with bound
  rw [Nat.zero_add] at vertex
  refine ⟨vertex ▸ Int.natCast_nonneg _, by omega, ?_⟩
  rw [identOf, vertex, Int.toNat_natCast, here, ← FixedName8.text_of_ofText packed, ← same, name]
  rfl

end GraphBuilder
end BravoFinder
