import BravoFinder.Build.Connection
import BravoFinder.Build.NearestOnNetwork
import BravoFinder.Build.ProcedureWalk
import BravoFinder.Core.Search

namespace BravoFinder
namespace ProcedureConnector

/-!
# The connections of an airport

A SID hands off at its last fix, a STAR is picked up at an initial fix, and an
approach at an initial fix when the airport has no STAR.  A gate that is off the
network is stood in for by the nearest fixes on it.  Each gate is a finding; the
findings of one side are merged under their fixes.
-/

variable {R : Type} [Field R] [LinearOrder R] [FloorRing R]

/-! ## Which records count -/

/-- `RunwayMatches`. -/
def runwayMatches (p : Procedure) (runwayFilter : Text) : Bool :=
  runwayFilter.isEmpty || p.runway.isEmpty || p.runway == runwayFilter

/-- A selector `NAME` or `NAME.TRANSITION`, split at its first dot. -/
def selects (selector name transition : Text) : Bool :=
  if selector.contains 46 then
    name == selector.takeWhile (· ≠ 46) && transition == (selector.dropWhile (· ≠ 46)).tail
  else name == selector

/-- `NameMatches`. -/
def nameMatches (p : Procedure) (selector : Text) : Bool :=
  selector.isEmpty || selects selector p.name p.transitionIdent

/-- `MakeRef`. -/
def makeRef (p : Procedure) : ProcedureRef :=
  ⟨p.type, p.name, p.transitionIdent, p.runway, []⟩

/-- `MakeApproachRef`. -/
def makeApproachRef (p : Procedure) (iaf : Text) : ProcedureRef :=
  { makeRef p with iaf := iaf }

/-! ## Gates on the network -/

/-- The portion between the runway and the record, bridged with a straight
line. -/
def runwayBridge (earth : Geodesy R) (departure : Bool) (airportCoord : Coordinate R) (walk : WalkResult R) : R :=
  if departure then
    match walk.resolved.head? with
    | none => 0
    | some firstCoord => earth.distanceTo airportCoord firstCoord
  else
    match walk.resolved.getLast? with
    | none => 0
    | some lastCoord => earth.distanceTo lastCoord airportCoord

/-- The seed of a gate. -/
def gateSeed (earth : Geodesy R) (departure : Bool) (airportCoord : Coordinate R) (walk : WalkResult R)
    (hit : FixHit R) : R :=
  if departure then runwayBridge earth departure airportCoord walk + hit.cumulativeNm
  else (walk.totalNm - hit.cumulativeNm) + runwayBridge earth departure airportCoord walk

/-- The heading at a gate: from the fix before it on a SID, to the fix after it
on a STAR, with the airport for the fix that is missing.  The default stands for
a read past the resolved fixes that no hit makes. -/
def gateBearing (earth : Geodesy R) (departure : Bool) (airportCoord : Coordinate R) (walk : WalkResult R)
    (hit : FixHit R) : R :=
  let here := walk.resolved.getD hit.resolvedIndex ⟨0, 0⟩
  if departure then
    let prev := if hit.resolvedIndex = 0 then airportCoord else walk.resolved.getD (hit.resolvedIndex - 1) ⟨0, 0⟩
    earth.bearingTo prev here
  else
    let next := (walk.resolved[hit.resolvedIndex + 1]?).getD airportCoord
    earth.bearingTo here next

/-- The gates of one record. -/
def recordFindings (around : Surroundings R) (departure : Bool) (airportCoord : Coordinate R) (p : Procedure) :
    List (Finding R) :=
  let walk := walkOnNetworkFixes around.chart around.earth
    (if departure then around.builder.hasOutbound else around.builder.hasInbound) departure p
  (walk.hits.filter FixHit.isGate).map fun hit =>
    ⟨hit.vertex, gateSeed around.earth departure airportCoord walk hit,
      gateBearing around.earth departure airportCoord walk hit, kNoBearing, kNoVertex, 0, makeRef p⟩

/-- The type of the procedures of one side. -/
def sideType (departure : Bool) : ProcedureType :=
  if departure then .kSid else .kStar

/-- The gates of one side. -/
def sideFindings (around : Surroundings R) (departure : Bool) (airportCoord : Coordinate R) (runwayFilter : Text)
    (cifp : CifpData) : List (Finding R) :=
  (cifp.procedures.filter fun p => p.type == sideType departure && runwayMatches p runwayFilter).flatMap
    (recordFindings around departure airportCoord)

/-- `BuildSide`, that is `BuildDeparture` or `BuildArrival`. -/
def buildSide (around : Surroundings R) (departure : Bool) (airportCoord : Coordinate R) (runwayFilter : Text)
    (cifp : CifpData) : List (Connection R) :=
  finalize (accumulateAll (sideFindings around departure airportCoord runwayFilter cifp))

/-! ## The bodies of procedures -/

/-- `StarBodyAndStubNm`. -/
def starBodyAndStubNm (chart : LegChart R) (earth : Geodesy R) (p : Procedure) (gateV : Int)
    (airportCoord : Coordinate R) : R :=
  let (found, fromGate) := walkApproachSegment chart earth p gateV false
  if found then
    fromGate.nm + earth.distanceTo (fromGate.endCoord.getD (chart.coordOf gateV)) airportCoord
  else earth.distanceTo airportCoord (chart.coordOf gateV)

/-- `SidBodyToExitNm`. -/
def sidBodyToExitNm (chart : LegChart R) (earth : Geodesy R) (p : Procedure) (exitV : Int)
    (airportCoord : Coordinate R) : R :=
  let (found, body) := walkApproachSegment chart earth p kNoVertex false
  if found && body.endCoord.isSome then
    let first := match p.legs.find? fun leg => decide (0 ≤ chart.vertexOf leg) with
      | none => chart.coordOf exitV
      | some leg => chart.coordOf (chart.vertexOf leg)
    earth.distanceTo airportCoord first + body.nm
  else earth.distanceTo airportCoord (chart.coordOf exitV)

/-- `FindApproachFinal`: the record of an approach without a transition. -/
def isApproachFinal (name : Text) (p : Procedure) : Bool :=
  p.type == .kApproach && p.name == name && p.transitionIdent.isEmpty

def findApproachFinal (cifp : CifpData) (name : Text) : Option Procedure :=
  cifp.procedures.find? (isApproachFinal name)

/-- `ApproachBodyAndStubNm`: the seed of a gate and its heading. -/
def approachBodyAndStubNm (chart : LegChart R) (earth : Geodesy R) (gateProc : Procedure) (gateV : Int)
    (cifp : CifpData) (airportCoord : Coordinate R) : R × R :=
  let gateIsFinal := gateProc.transitionIdent.isEmpty
  let (found, fromGate) := walkApproachSegment chart earth gateProc gateV gateIsFinal
  if found then
    let gateEnd := fromGate.endCoord.getD (chart.coordOf gateV)
    let bearingFromIaf := earth.bearingTo (chart.coordOf gateV) (fromGate.nextCoord.getD airportCoord)
    let (body, last) :=
      if gateIsFinal then (fromGate.nm, gateEnd)
      else match findApproachFinal cifp gateProc.name with
        | none => (fromGate.nm, gateEnd)
        | some finalProc =>
            let (started, finalWalk) := walkApproachSegment chart earth finalProc kNoVertex true
            match started, finalWalk.endCoord with
            | true, some finalEnd => (fromGate.nm + finalWalk.nm, finalEnd)
            | _, _ => (fromGate.nm, gateEnd)
    (body + earth.distanceTo last airportCoord, bearingFromIaf)
  else (earth.distanceTo airportCoord (chart.coordOf gateV), kNoBearing)

/-! ## Gates off the network -/

/-- `kSpliceProxyK` and `kApproachProxyK`. -/
def kSpliceProxyK : Int := 5
def kApproachProxyK : Int := 5

/-- The fixes that stand in for a gate. -/
def proxies (around : Surroundings R) (bound : OutsideBound R) (gate : Int) (count : Int) (inbound : Bool) :
    List Int :=
  (around.builder.nearestOnNetwork around.earth bound (around.builder.graph.coordOf gate) count inbound).filter
    fun f => f ≠ gate

/-- The legs at which a STAR or an approach is entered, with their vertices. -/
def initialFixes (around : Surroundings R) (p : Procedure) : List (ProcedureLeg × Int) :=
  (p.legs.filter fun leg => leg.pathTerm == .kIF && leg.fixIsDefinite && decide (0 ≤ around.resolveFix leg)).map
    fun leg => (leg, around.resolveFix leg)

/-- `CollectStarSpliceArrivals`, as the findings it accumulates. -/
def starSpliceFindings (around : Surroundings R) (bound : OutsideBound R) (airportCoord : Coordinate R)
    (runwayFilter nameFilter : Text) (avoid : SortedVector Int) (cifp : CifpData) : List (Finding R) :=
  (cifp.procedures.filter fun p =>
    p.type == .kStar && runwayMatches p runwayFilter && nameMatches p nameFilter).flatMap fun p =>
  ((initialFixes around p).filter fun entry =>
    !around.builder.hasInbound entry.2 && !avoid.binarySearch entry.2).flatMap fun entry =>
  (proxies around bound entry.2 kSpliceProxyK true).map fun f =>
    let spliceLeg := around.earth.distanceTo (around.builder.graph.coordOf f) (around.builder.graph.coordOf entry.2)
    ⟨f, spliceLeg + starBodyAndStubNm around.chart around.earth p entry.2 airportCoord,
      around.earth.bearingTo (around.builder.graph.coordOf f) (around.builder.graph.coordOf entry.2), kNoBearing,
      entry.2, spliceLeg, makeRef p⟩

/-- `CollectSidSpliceDepartures`, as the findings it accumulates. -/
def sidSpliceFindings (around : Surroundings R) (bound : OutsideBound R) (airportCoord : Coordinate R)
    (runwayFilter nameFilter : Text) (avoid : SortedVector Int) (cifp : CifpData) : List (Finding R) :=
  (cifp.procedures.filter fun p =>
    p.type == .kSid && runwayMatches p runwayFilter && nameMatches p nameFilter).flatMap fun p =>
  match p.legs[lastFixBearingLeg p]? with
  | none => []
  | some exitLeg =>
      let exitV := around.resolveFix exitLeg
      if exitV < 0 ∨ around.builder.hasOutbound exitV = true ∨ avoid.binarySearch exitV = true then []
      else
        (proxies around bound exitV kSpliceProxyK false).map fun f =>
          let spliceLeg := around.earth.distanceTo (around.builder.graph.coordOf exitV) (around.builder.graph.coordOf f)
          ⟨f, sidBodyToExitNm around.chart around.earth p exitV airportCoord + spliceLeg,
            around.earth.bearingTo (around.builder.graph.coordOf exitV) (around.builder.graph.coordOf f), kNoBearing,
            exitV, spliceLeg, makeRef p⟩

/-- The findings of one gate of an approach. -/
def approachGateFindings (around : Surroundings R) (bound : OutsideBound R) (airportCoord : Coordinate R)
    (cifp : CifpData) (p : Procedure) (entry : ProcedureLeg × Int) : List (Finding R) :=
  let (bodyStub, bearingFromIaf) :=
    approachBodyAndStubNm around.chart around.earth p entry.2 cifp airportCoord
  let pref := makeApproachRef p entry.1.fix.ident
  if around.builder.hasInbound entry.2 then
    [⟨entry.2, bodyStub, bearingFromIaf, bearingFromIaf, kNoVertex, 0, pref⟩]
  else
    (proxies around bound entry.2 kApproachProxyK true).map fun f =>
      ⟨f, around.earth.distanceTo (around.builder.graph.coordOf f) (around.builder.graph.coordOf entry.2) + bodyStub,
        around.earth.bearingTo (around.builder.graph.coordOf f) (around.builder.graph.coordOf entry.2), bearingFromIaf,
        kNoVertex, 0, pref⟩

/-- `CollectApproachArrivals`, as the findings it accumulates. -/
def approachFindings (around : Surroundings R) (bound : OutsideBound R) (airportCoord : Coordinate R)
    (runwayFilter : Text) (cifp : CifpData) : List (Finding R) :=
  (cifp.procedures.filter fun p => p.type == .kApproach && runwayMatches p runwayFilter).flatMap fun p =>
    (initialFixes around p).flatMap (approachGateFindings around bound airportCoord cifp p)

/-- `BuildStarSpliceArrival`. -/
def buildStarSpliceArrival (around : Surroundings R) (bound : OutsideBound R) (airportCoord : Coordinate R)
    (runwayFilter nameFilter : Text) (avoid : SortedVector Int) (cifp : CifpData) : List (Connection R) :=
  finalize (accumulateAll (starSpliceFindings around bound airportCoord runwayFilter nameFilter avoid cifp))

/-- `BuildSidSpliceDeparture`. -/
def buildSidSpliceDeparture (around : Surroundings R) (bound : OutsideBound R) (airportCoord : Coordinate R)
    (runwayFilter nameFilter : Text) (avoid : SortedVector Int) (cifp : CifpData) : List (Connection R) :=
  finalize (accumulateAll (sidSpliceFindings around bound airportCoord runwayFilter nameFilter avoid cifp))

/-- `BuildApproachArrival`. -/
def buildApproachArrival (around : Surroundings R) (bound : OutsideBound R) (airportCoord : Coordinate R)
    (runwayFilter : Text) (cifp : CifpData) : List (Connection R) :=
  finalize (accumulateAll (approachFindings around bound airportCoord runwayFilter cifp))

/-! ## Legs on the meridian -/

/-- A leg with nothing but its fix. -/
def plainLeg (pathTerm : PathTerminator) (fix : FixedIdent) : ProcedureLeg :=
  ⟨fix, 0x7FC00000, 0x7FC00000, 0, 0, 0, 0, 0, 0, pathTerm, .kNone, 0, false, false⟩

/-- The two fixes of `meridianBuilder`.  Only legs without a distance are read
through these surroundings. -/
def meridianAround : Surroundings Rat where
  builder := meridianBuilder
  earth := meridianGeodesy
  widen value := value.toNat

end ProcedureConnector
end BravoFinder
