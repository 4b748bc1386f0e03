import Mathlib.Algebra.Order.Monoid.Defs
import Mathlib.Data.List.Basic

namespace BravoFinder

/-!
# Polylines with measured gaps

A polyline visits places one after another.  The gap before a stop may have
been measured on the way: then that measure counts, and the distance between
the two places does not.
-/

/-- A place, and what was measured since the place before it. -/
structure Stop (P R : Type) where
  place : P
  accrued : R

namespace Stop

variable {P R : Type} [Zero R] [Add R] [LT R] [DecidableLT R]

/-- The gap before a stop. -/
def span (distance : P -> P -> R) (previous : P) (stop : Stop P R) : R :=
  if 0 < stop.accrued then stop.accrued else distance previous stop.place

/-- The gaps from a place along some stops. -/
def flown (distance : P -> P -> R) : P -> List (Stop P R) -> R
  | _, [] => 0
  | place, stop :: rest => span distance place stop + flown distance stop.place rest

/-- The gaps between some stops.  What was measured before the first counts
nowhere. -/
def polyline (distance : P -> P -> R) : List (Stop P R) -> R
  | [] => 0
  | first :: rest => flown distance first.place rest

/-- The last place of some stops, or where they started. -/
def lastPlace (place : P) (stops : List (Stop P R)) : P :=
  (stops.getLast?.map Stop.place).getD place

omit [Zero R] [Add R] [LT R] [DecidableLT R] in
theorem lastPlace_cons (place : P) (stop : Stop P R) (rest : List (Stop P R)) :
    lastPlace place (stop :: rest) = lastPlace stop.place rest := by
  rw [lastPlace, lastPlace, List.getLast?_cons]
  rcases rest.getLast? with _ | last <;> rfl

end Stop

namespace Stop

variable {P R : Type} [AddCommMonoid R] [LinearOrder R]

theorem flown_append (distance : P -> P -> R) (place : P) (front back : List (Stop P R)) :
    flown distance place (front ++ back) = flown distance place front + flown distance (lastPlace place front) back := by
  induction front generalizing place with
  | nil => exact (zero_add _).symm
  | cons stop rest inductionHypothesis =>
      rw [List.cons_append, flown, flown, inductionHypothesis, lastPlace_cons, add_assoc]

/-- A polyline cut at one of its stops. -/
theorem polyline_append (distance : P -> P -> R) (front back : List (Stop P R)) (middle : Stop P R) :
    polyline distance (front ++ middle :: back) =
      polyline distance (front ++ [middle]) + polyline distance (middle :: back) := by
  cases front with
  | nil => exact (zero_add _).symm
  | cons first rest =>
      rw [List.cons_append, polyline, List.cons_append, polyline, polyline, flown_append, flown_append, flown, flown,
        flown, add_zero, add_assoc]

theorem flown_nonneg [IsOrderedAddMonoid R] {distance : P -> P -> R}
    (nonneg : forall origin target, 0 ≤ distance origin target) (place : P) (stops : List (Stop P R)) :
    0 ≤ flown distance place stops := by
  induction stops generalizing place with
  | nil => exact le_refl _
  | cons stop rest inductionHypothesis =>
      refine add_nonneg ?_ (inductionHypothesis stop.place)
      rw [span]
      split_ifs with measured
      · exact measured.le
      · exact nonneg _ _

/-- Where distances are positive, a stop adds to the polyline. -/
theorem flown_pos [IsOrderedAddMonoid R] {distance : P -> P -> R}
    (positive : forall origin target, 0 < distance origin target) (place : P) {stops : List (Stop P R)}
    (some : stops ≠ []) : 0 < flown distance place stops := by
  cases stops with
  | nil => exact absurd rfl some
  | cons stop rest =>
      refine add_pos_of_pos_of_nonneg ?_ (flown_nonneg (fun origin target => (positive origin target).le) _ _)
      rw [span]
      split_ifs with measured
      · exact measured
      · exact positive _ _

end Stop

/-- A list up to its first element of a kind, that one included. -/
def takeThrough {A : Type} (kind : A -> Bool) : List A -> List A
  | [] => []
  | a :: rest => if kind a then [a] else a :: takeThrough kind rest

section TakeThrough

variable {A : Type} {kind : A -> Bool}

theorem takeThrough_append_of_any {front : List A} (hit : front.any kind = true) (back : List A) :
    takeThrough kind (front ++ back) = takeThrough kind front := by
  induction front with
  | nil => cases hit
  | cons a rest inductionHypothesis =>
      rw [List.cons_append, takeThrough, takeThrough]
      split_ifs with here
      · rfl
      · rw [List.any_cons, Bool.or_eq_true, or_iff_right here] at hit
        rw [inductionHypothesis hit]

theorem takeThrough_append_of_none {front : List A} (missed : front.any kind = false) (back : List A) :
    takeThrough kind (front ++ back) = front ++ takeThrough kind back := by
  induction front with
  | nil => rfl
  | cons a rest inductionHypothesis =>
      rw [List.any_cons, Bool.or_eq_false_iff] at missed
      rw [List.cons_append, takeThrough, if_neg (Bool.eq_false_iff.mp missed.1), inductionHypothesis missed.2,
        List.cons_append]

theorem takeThrough_of_none {list : List A} (missed : list.any kind = false) : takeThrough kind list = list := by
  have split := takeThrough_append_of_none missed []
  rwa [List.append_nil, takeThrough, List.append_nil] at split

theorem map_takeThrough {B : Type} (made : B -> A) (list : List B) :
    (takeThrough (fun b => kind (made b)) list).map made = takeThrough kind (list.map made) := by
  induction list with
  | nil => rfl
  | cons b rest inductionHypothesis =>
      rw [takeThrough, List.map_cons, takeThrough]
      split_ifs
      · rfl
      · rw [List.map_cons, inductionHypothesis]

theorem takeThrough_eq_nil_iff {list : List A} : takeThrough kind list = [] ↔ list = [] := by
  cases list with
  | nil => exact Iff.rfl
  | cons a rest =>
      rw [takeThrough]
      split_ifs <;> exact ⟨nofun, nofun⟩

end TakeThrough
end BravoFinder
