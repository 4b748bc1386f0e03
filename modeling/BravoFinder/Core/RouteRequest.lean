import BravoFinder.Core.Domain

namespace BravoFinder

/-!
# Route requests
-/

/-- Which airway level a request prefers. -/
inductive LevelPreference where
  | kNone
  | kLow
  | kHigh
deriving DecidableEq, Repr

/-- A cruise flight-level range, both bounds inclusive. -/
structure FlRange where
  minFl : Int
  maxFl : Int
deriving DecidableEq, Repr

/-- `AirwayRule::Action`. -/
inductive AirwayRuleAction where
  | kPenalize
  | kBlock
deriving DecidableEq, Repr

/-- `AirwayRule::Match`, which applies to the designators only. -/
inductive AirwayRuleMatch where
  | kExact
  | kPrefix
deriving DecidableEq, Repr

/-- A region-scoped airway rule.  An empty list, or an empty entry, matches
everything on its side. -/
structure AirwayRule (R : Type) where
  regionPrefixes : List Text
  designators : List Text
  matchMode : AirwayRuleMatch
  action : AirwayRuleAction
  penaltyFraction : R

/-- A route query. -/
structure RouteRequest (R : Type) where
  departure : Text
  arrival : Text
  altitude : Option FlRange
  level : LevelPreference
  k : Int
  departureRunway : Text
  arrivalRunway : Text
  departureSid : Text
  arrivalStar : Text
  avoidWaypoints : List Text
  airwayRules : List (AirwayRule R)
  randomSeed : Option (BitVec 32)
  forcedPoints : List Text

/-- How many forced points one request may carry. -/
def kMaxForcedPoints : Nat := 16

end BravoFinder
