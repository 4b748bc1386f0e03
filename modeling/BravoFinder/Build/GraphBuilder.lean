import BravoFinder.Core.FixedString
import BravoFinder.Core.Domain

namespace BravoFinder

/-!
# The graph and what is known of its vertices

`Populate` fills these tables together; the fields after them are what it
establishes and the readers rely on.
-/

structure GraphBuilder (R : Type) where
  graph : NavGraph R R
  idents : List FixedIdent
  hasOutboundFlags : List Bool
  hasInboundFlags : List Bool
  /-- Waypoints come first, airports after them. -/
  firstAirportVertex : Nat
  /-- Entry 0 is `DCT`, for edges that are no airway. -/
  airwayNames : List Text
  idents_length : idents.length = graph.coords.length
  firstAirportVertex_le : firstAirportVertex ≤ graph.coords.length
  hasOutboundFlags_eq :
    hasOutboundFlags = graph.vertices.map fun vertex => !(graph.edgesFrom vertex).isEmpty
  hasInboundFlags_eq :
    hasInboundFlags = graph.vertices.map fun vertex =>
      graph.vertices.any fun source => (graph.edgesFrom source).any fun edge => edge.toVertex == vertex
  /-- Airports have no airway edges. -/
  waypoint_of_edge : forall vertex, vertex ∈ graph.vertices -> forall edge, edge ∈ graph.edgesFrom vertex ->
    vertex < firstAirportVertex ∧ edge.toVertex < firstAirportVertex
  airwayId_lt : forall vertex, vertex ∈ graph.vertices -> forall edge, edge ∈ graph.edgesFrom vertex ->
    edge.airwayId < airwayNames.length

namespace GraphBuilder

variable {R : Type}

/-- `IdentOf`.  The default stands for the read past the table that no caller
makes, here and below. -/
def identOf (builder : GraphBuilder R) (vertex : Int) : Ident :=
  match builder.idents[vertex.toNat]? with
  | none => ⟨[], []⟩
  | some fixed => ⟨fixed.ident, fixed.arinc424IcaoCode⟩

def regionOf (builder : GraphBuilder R) (vertex : Int) : Text :=
  (builder.identOf vertex).arinc424IcaoCode

def airwayName (builder : GraphBuilder R) (airwayId : Nat) : Text :=
  builder.airwayNames.getD airwayId []

/-- `HasOutbound`. -/
def hasOutbound (builder : GraphBuilder R) (vertex : Int) : Bool :=
  decide (0 ≤ vertex) && builder.hasOutboundFlags.getD vertex.toNat false

/-- `HasInbound`. -/
def hasInbound (builder : GraphBuilder R) (vertex : Int) : Bool :=
  decide (0 ≤ vertex) && builder.hasInboundFlags.getD vertex.toNat false

def isAirport (builder : GraphBuilder R) (vertex : Int) : Bool :=
  decide (builder.firstAirportVertex ≤ vertex ∧ vertex < builder.graph.vertexCount)

/-- A table over the vertices, read at one of them. -/
theorem getD_map_vertices (graph : NavGraph R R) (flag : Int -> Bool) {vertex : Int} (inRange : graph.InRange vertex) :
    (decide (0 ≤ vertex) && (graph.vertices.map flag).getD vertex.toNat false) = flag vertex := by
  have inside : vertex.toNat < graph.coords.length := by
    have nonneg := inRange.1
    have below : vertex < graph.coords.length := inRange.2
    omega
  rw [decide_eq_true inRange.1, Bool.true_and, NavGraph.vertices, List.map_map, List.getD_eq_getElem?_getD,
    List.getElem?_map, List.getElem?_range inside]
  exact congrArg flag (Int.toNat_of_nonneg inRange.1)

/-- A vertex with a way out has an edge. -/
theorem hasOutbound_iff (builder : GraphBuilder R) {vertex : Int} (inRange : builder.graph.InRange vertex) :
    builder.hasOutbound vertex = true ↔ builder.graph.edgesFrom vertex ≠ [] := by
  rw [hasOutbound, hasOutboundFlags_eq, getD_map_vertices _ _ inRange, Bool.not_eq_true', List.isEmpty_eq_false_iff]

/-- A vertex with a way in ends an edge. -/
theorem hasInbound_iff (builder : GraphBuilder R) {vertex : Int} (inRange : builder.graph.InRange vertex) :
    builder.hasInbound vertex = true ↔ exists source, builder.graph.InRange source ∧
      exists edge, edge ∈ builder.graph.edgesFrom source ∧ edge.toVertex = vertex := by
  rw [hasInbound, hasInboundFlags_eq, getD_map_vertices _ _ inRange, List.any_eq_true]
  refine exists_congr fun source => ?_
  rw [NavGraph.mem_vertices, List.any_eq_true]
  simp only [beq_iff_eq]

end GraphBuilder

/-! ## Waypoints of region `ZB` -/

def waypointA : FixedIdent := ⟨[65], [90, 66], by decide, by decide⟩
def waypointB : FixedIdent := ⟨[66], [90, 66], by decide, by decide⟩
def waypointC : FixedIdent := ⟨[67], [90, 66], by decide, by decide⟩

end BravoFinder
