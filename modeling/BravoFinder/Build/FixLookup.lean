import BravoFinder.Build.GraphBuilder
import BravoFinder.Cache.CifpSegment
import Mathlib.Data.List.Sort

namespace BravoFinder

/-!
# The vertex of a procedure leg

A key of identifier and region may name several points, so a leg that carries
the published position of its fix takes the nearest vertex of that key, and
none when no vertex is near.
-/

/-- How far a published position may sit from the vertex it names. -/
def kFixHintToleranceNm {R : Type} [One R] : R := 1

namespace GraphBuilder

variable {R : Type}

/-- `by_key` of `RebuildIndices`. -/
def byKey (first second : FixedIdent × Int) : Bool :=
  if first.1.before second.1 then true
  else if second.1.before first.1 then false
  else decide (first.2 < second.2)

/-- `ident_index_`. -/
def identIndex (builder : GraphBuilder R) : List (FixedIdent × Int) :=
  ((builder.idents.take builder.firstAirportVertex).zipIdx.map fun entry =>
    (entry.1, (entry.2 : Int))).insertionSort fun first second => byKey first second

/-- The entries of a key: `std::lower_bound`, and on while the key is the same. -/
def identRange (builder : GraphBuilder R) (key : FixedIdent) : List (FixedIdent × Int) :=
  (builder.identIndex.dropWhile fun entry => entry.1.before key).takeWhile fun entry => entry.1 == key

/-- `VertexByIdent`. -/
def vertexByIdent (builder : GraphBuilder R) (key : FixedIdent) : Int :=
  match builder.identRange key with
  | [] => -1
  | entry :: _ => entry.2

/-- `VertexNear`. -/
def vertexNear [LinearOrder R] [Zero R] (builder : GraphBuilder R) (earth : Geodesy R) (key : FixedIdent)
    (near : Coordinate R) (maxNm : R) : Int :=
  ((builder.identRange key).foldl (fun best entry =>
    let nm := earth.distanceTo near (builder.graph.coordOf entry.2)
    if nm ≤ best.2 ∧ (best.1 < 0 ∨ nm < best.2) then (entry.2, nm) else best) (-1, maxNm)).1

end GraphBuilder

/-- `TerminatesAtFix`. -/
def terminatesAtFix (t : PathTerminator) : Bool :=
  match t with
  | .kTF | .kIF | .kDF | .kCF | .kAF | .kRF | .kHF => true
  | _ => false

namespace ProcedureLeg

/-- `fix_is_definite`. -/
def fixIsDefinite (leg : ProcedureLeg) : Bool :=
  terminatesAtFix leg.pathTerm && !leg.fix.ident.isEmpty

/-- `has_fix_coord`. -/
def hasFixCoord (leg : ProcedureLeg) : Bool :=
  !F32.isNaN leg.fixLat && !F32.isNaN leg.fixLon

end ProcedureLeg

/-- What the connector reads of the database.  `widen` is the conversion of a
`float` to a `double`. -/
structure Surroundings (R : Type) [LinearOrder R] [Zero R] where
  builder : GraphBuilder R
  earth : Geodesy R
  widen : F32 -> R

namespace Surroundings

variable {R : Type} [LinearOrder R] [Zero R] [One R]

/-- `ResolveFix`. -/
def resolveFix (around : Surroundings R) (leg : ProcedureLeg) : Int :=
  if leg.fix.ident.isEmpty then kNoVertex
  else if leg.hasFixCoord then
    around.builder.vertexNear around.earth leg.fix ⟨around.widen leg.fixLat, around.widen leg.fixLon⟩
      kFixHintToleranceNm
  else around.builder.vertexByIdent leg.fix

/-- The vertex a walk stops at: that of a leg with a definite fix. -/
def vertexOf (around : Surroundings R) (leg : ProcedureLeg) : Int :=
  if leg.fixIsDefinite then around.resolveFix leg else kNoVertex

end Surroundings

/-- What a walk along a record reads of its legs: the vertex of each, negative
where there is none, the position of a vertex and the published distance. -/
structure LegChart (R : Type) where
  vertexOf : ProcedureLeg -> Int
  coordOf : Int -> Coordinate R
  distanceNm : ProcedureLeg -> R

/-- The chart of the code. -/
def Surroundings.chart {R : Type} [LinearOrder R] [Zero R] [One R] (around : Surroundings R) : LegChart R where
  vertexOf := around.vertexOf
  coordOf := around.builder.graph.coordOf
  distanceNm leg := around.widen leg.distanceNm

end BravoFinder
