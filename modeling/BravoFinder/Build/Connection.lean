import BravoFinder.Library.KeyedMerge
import BravoFinder.Cache.CifpSegment
import BravoFinder.Core.Domain
import Mathlib.Data.List.Perm.Basic
import Mathlib.Data.List.Sort
import Mathlib.Data.Prod.Lex

namespace BravoFinder
namespace ProcedureConnector

/-!
# Where procedures meet the network

A connection is a fix at which procedures hand off to the airways.  Several
procedures may share a fix: the connection carries the price and the headings of
the cheapest, whose reference stands first, and the references of all.
-/

/-- One way a procedure references the network. -/
structure ProcedureRef where
  type : ProcedureType
  name : Text
  transition : Text
  runway : Text
  /-- The identifier of the approach fix; empty for a SID or STAR. -/
  iaf : Text
deriving DecidableEq

structure Connection (R : Type) where
  fixVertex : Int
  seedDistanceNm : R
  bearing : R
  approachBearing : R
  /-- The gate off the network for which `fixVertex` stands, or `kNoVertex`. -/
  spliceVertex : Int
  /-- The distance from the fix to that gate, part of the seed. -/
  spliceLegNm : R
  procedures : List ProcedureRef
deriving DecidableEq

/-- The arguments of one call of `Accumulate`. -/
structure Finding (R : Type) where
  fixVertex : Int
  seed : R
  bearing : R
  approachBearing : R
  spliceVertex : Int
  spliceLegNm : R
  ref : ProcedureRef
deriving DecidableEq

/-- `std::swap(refs.front(), refs[index])`. -/
def swapFront (refs : List ProcedureRef) (index : Nat) : List ProcedureRef :=
  match refs, index with
  | front :: rest, index + 1 =>
      match rest[index]? with
      | none => refs
      | some other => other :: rest.set index front
  | _, _ => refs

variable {R : Type}

/-- The connection a finding makes where there is none. -/
def Finding.connection (finding : Finding R) : Connection R :=
  ⟨finding.fixVertex, finding.seed, finding.bearing, finding.approachBearing, finding.spliceVertex,
    finding.spliceLegNm, [finding.ref]⟩

section Accumulate

variable [LinearOrder R]

/-- A finding at the fix of a connection. -/
def Connection.join (c : Connection R) (finding : Finding R) : Connection R :=
  let procedures := c.procedures ++ [finding.ref]
  if finding.seed < c.seedDistanceNm then
    { c with
      seedDistanceNm := finding.seed
      bearing := finding.bearing
      approachBearing := finding.approachBearing
      spliceVertex := finding.spliceVertex
      spliceLegNm := finding.spliceLegNm
      procedures := swapFront procedures (procedures.length - 1) }
  else { c with procedures := procedures }

/-- `Accumulate`. -/
def accumulate : List (Connection R) -> Finding R -> List (Connection R)
  | [], finding => [finding.connection]
  | c :: rest, finding =>
      if c.fixVertex ≠ finding.fixVertex then c :: accumulate rest finding
      else c.join finding :: rest

/-- The findings of one side of an airport, in the order they are made. -/
def accumulateAll (findings : List (Finding R)) : List (Connection R) :=
  findings.foldl accumulate []

/-- The order of `Finalize`. -/
def sortKey (c : Connection R) : R ×ₗ Int :=
  toLex (c.seedDistanceNm, c.fixVertex)

/-- `Finalize`. -/
def finalize (byFix : List (Connection R)) : List (Connection R) :=
  byFix.insertionSort fun first second => sortKey first ≤ sortKey second

end Accumulate

/-! ## The front reference -/

theorem swapFront_perm (refs : List ProcedureRef) (index : Nat) : (swapFront refs index).Perm refs := by
  rcases refs with _ | ⟨front, rest⟩
  · exact List.Perm.refl _
  rcases index with _ | index
  · exact List.Perm.refl _
  rw [swapFront]
  split
  · exact List.Perm.refl _
  · rename_i other found
    rcases List.getElem?_eq_some_iff.mp found with ⟨inside, rfl⟩
    calc (rest[index] :: rest.set index front).Perm (rest[index] :: front :: rest.eraseIdx index) :=
          (List.set_perm_cons_eraseIdx inside front).cons _
      List.Perm _ (front :: rest[index] :: rest.eraseIdx index) := List.Perm.swap _ _ _
      List.Perm _ (front :: rest) := (List.getElem_cons_eraseIdx_perm inside).cons _

theorem head?_swapFront {refs : List ProcedureRef} {index : Nat} (inside : index < refs.length) :
    (swapFront refs index).head? = refs[index]? := by
  rcases refs with _ | ⟨front, rest⟩
  · exact absurd inside (Nat.not_lt_zero _)
  rcases index with _ | index
  · rfl
  rw [swapFront, List.getElem?_cons_succ]
  split
  · rename_i missing
    rw [List.getElem?_eq_none_iff] at missing
    exact absurd (Nat.lt_of_succ_lt_succ inside) (Nat.not_lt.mpr missing)
  · rename_i other found
    rw [found, List.head?_cons]

end ProcedureConnector
end BravoFinder
