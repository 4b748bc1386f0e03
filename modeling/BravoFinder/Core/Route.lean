import BravoFinder.Core.Domain

namespace BravoFinder

/-!
# Routes
-/

/-- The connector of a direct leg. -/
def kDctToken : Text := ofString "DCT"

def kSidToken : Text := ofString "SID"

def kStarToken : Text := ofString "STAR"

theorem kDctToken_eq : kDctToken = [68, 67, 84] := by
  decide +kernel

/-- How an endpoint of a route attaches to the airways. -/
inductive ConnectionKind where
  | kProcedure
  /-- No procedure data for this side. -/
  | kDirect
  /-- Procedures exist, but none reaches an airway. -/
  | kRadarVectors
  /-- No STAR; joined at the start of an approach. -/
  | kTerminalTransition
deriving DecidableEq, Repr

/-- A leg of a computed route.  `concurrentAirways` lists the designators of a
leg that several airways share. -/
structure RouteLeg (R : Type) where
  fromIdent : Text
  toIdent : Text
  via : Text
  distanceNm : R
  concurrentAirways : List Text
deriving DecidableEq

/-- A point of a computed route. -/
structure RoutePoint (R : Type) where
  ident : Text
  coord : Coordinate R
deriving DecidableEq

/-- A computed route.  The distances of the phases are those of the departure
procedure, of what lies between, and of the arrival procedure. -/
structure Route (R : Type) where
  points : List (RoutePoint R)
  legs : List (RouteLeg R)
  totalDistanceNm : R
  routeString : Text
  depDistanceNm : R
  enrouteDistanceNm : R
  arrDistanceNm : R
  sid : Text
  star : Text
  depRunway : Text
  arrRunway : Text
  depConnection : ConnectionKind
  arrConnection : ConnectionKind
  sidOptions : List Text
  starOptions : List Text
  terminalTransition : Bool
  approach : Text
  approachIaf : Text
  approachBearing : R
  approachOptions : List Text
  forcedPoints : List Text

/-- A route with nothing but its distance. -/
def Route.bare {R : Type} [Zero R] [Neg R] [One R] (totalDistanceNm : R) : Route R :=
  ⟨[], [], totalDistanceNm, [], 0, 0, 0, [], [], [], [], .kDirect, .kDirect, [], [], false, [], [], kNoBearing, [], []⟩

end BravoFinder
