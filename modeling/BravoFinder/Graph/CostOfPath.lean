import BravoFinder.Graph.AStar

namespace BravoFinder

/-!
# The cost of a finished path

`CostOfPathMulti` walks a path with `SelectEdge` and charges its turns from the
headings of its edges.  The K-shortest search ranks its candidates by it, and
the forced-point routing prices a stitched route with it.
-/

variable {R : Type} [LinearOrder R] [NatCast R] [Zero R] [One R] [Neg R] [Add R] [Sub R] [Mul R]
  [Div R]

/-- The edge loop of `CostOfPath`, accumulating cost and distance. -/
def edgeCosts (graph : NavGraph R R) (options : SearchOptions R) :
    List Int -> R × R -> Option (R × R)
  | u :: v :: rest, (cost, distance) =>
      if options.edgeFilter.blocks u v then none
      else match selectEdge options graph u v with
        | none => none
        | some (edge, edgeCost) =>
            edgeCosts graph options (v :: rest) (cost + edgeCost, distance + edge.distanceNm)
  | _, total => some total

/-- The headings of the edges of a path. -/
def edgeBearings (earth : Geodesy R) (graph : NavGraph R R) : List Int -> List R
  | u :: v :: rest =>
      earth.bearingTo (graph.coordOf u) (graph.coordOf v) :: edgeBearings earth graph (v :: rest)
  | _ => []

/-- The turns at the interior vertices, added one by one. -/
def interiorTurns (turn : TurnPenalty) : List R -> R -> R
  | first :: second :: rest, cost =>
      interiorTurns turn (second :: rest) (cost + turn.cost (turnAngleDeg first second))
  | _, cost => cost

/-- The turns of a path of two or more vertices, whose edges have these
headings: at the source fix, inside, and at the goal fix. -/
def addTurns (turn : TurnPenalty) (bearings : List R) (srcBearing goalBearing cost : R) : R :=
  let atSource :=
    if 0 ≤ srcBearing then cost + turn.cost (turnAngleDeg srcBearing (bearings.headD 0)) else cost
  let inside := interiorTurns turn bearings atSource
  if 0 ≤ goalBearing then inside + turn.cost (turnAngleDeg (bearings.getLastD 0) goalBearing)
  else inside

/-- `CostOfPath`: cost and distance without the endpoint seeds, or `none` when a
step is unusable. -/
def costOfPath (earth : Geodesy R) (graph : NavGraph R R) (path : List Int)
    (options : SearchOptions R) (srcBearing goalBearing : R) : Option (R × R) :=
  if path.length < 2 then
    -- A source that is also the goal still turns onto the outbound heading.
    if options.turnPenalty.enabled ∧ 0 ≤ srcBearing ∧ 0 ≤ goalBearing then
      some (0 + options.turnPenalty.cost (turnAngleDeg srcBearing goalBearing), 0)
    else some (0, 0)
  else if path.any options.nodeFilter.blocks then none
  else match edgeCosts graph options path (0, 0) with
    | none => none
    | some (cost, distance) =>
        if options.turnPenalty.enabled then
          some (addTurns options.turnPenalty (edgeBearings earth graph path) srcBearing goalBearing
            cost, distance)
        else some (cost, distance)

/-- `CostOfPathMulti`: cost and distance of a path with both endpoint seeds. -/
def costOfPathMulti (earth : Geodesy R) (graph : NavGraph R R) (path : List Int)
    (sourceSeed goalSeed sourceBearing goalBearing : Int -> R) (options : SearchOptions R) :
    Option (R × R) :=
  match path with
  | [] => none
  | front :: rest =>
      let back := (front :: rest).getLastD front
      if sourceSeed front < 0 ∨ goalSeed back < 0 then none
      else match costOfPath earth graph path options (sourceBearing front) (goalBearing back) with
        | none => none
        | some (enrouteCost, enrouteDist) =>
            some (sourceSeed front + enrouteCost + goalSeed back,
              sourceSeed front + enrouteDist + goalSeed back)

/-! ## Paths that continue a path -/

omit [NatCast R] [One R] [Neg R] [Sub R] [Mul R] [Div R] in
theorem edgeCosts_append (graph : NavGraph R R) (options : SearchOptions R) (front : List Int)
    (node : Int) (tail : List Int) (total : R × R) :
    edgeCosts graph options (front ++ node :: tail) total =
      (edgeCosts graph options (front ++ [node]) total).bind fun reached =>
        edgeCosts graph options (node :: tail) reached := by
  induction front generalizing total with
  | nil => rfl
  | cons first rest inductionHypothesis =>
      cases rest with
      | nil =>
          simp only [List.cons_append, List.nil_append, edgeCosts]
          split
          · rfl
          split <;> rfl
      | cons second rest =>
          simp only [List.cons_append, edgeCosts]
          split
          · rfl
          split
          · rfl
          · exact inductionHypothesis _

omit [NatCast R] [One R] [Neg R] [Add R] [Sub R] [Mul R] [Div R] in
theorem edgeBearings_append (earth : Geodesy R) (graph : NavGraph R R) (front : List Int) (node : Int)
    (tail : List Int) :
    edgeBearings earth graph (front ++ node :: tail) =
      edgeBearings earth graph (front ++ [node]) ++ edgeBearings earth graph (node :: tail) := by
  induction front with
  | nil => rfl
  | cons first rest inductionHypothesis =>
      cases rest with
      | nil => rfl
      | cons second rest =>
          simp only [List.cons_append, edgeBearings]
          exact congrArg (List.cons _) inductionHypothesis

omit [One R] [Neg R] in
theorem interiorTurns_concat (turn : TurnPenalty) (bearings : List R) (inbound outbound cost : R) :
    interiorTurns turn (bearings ++ [inbound, outbound]) cost =
      interiorTurns turn (bearings ++ [inbound]) cost +
        turn.cost (turnAngleDeg inbound outbound) := by
  induction bearings generalizing cost with
  | nil => rfl
  | cons first rest inductionHypothesis =>
      cases rest with
      | nil => rfl
      | cons second rest =>
          simp only [List.cons_append, interiorTurns]
          exact inductionHypothesis _

omit [NatCast R] [One R] [Neg R] [Add R] [Sub R] [Mul R] [Div R] in
/-- Every heading of an edge is known. -/
theorem edgeBearings_nonneg (earth : Geodesy R) (graph : NavGraph R R) (path : List Int) :
    forall bearing, bearing ∈ edgeBearings earth graph path -> 0 ≤ bearing := by
  induction path with
  | nil =>
      intro bearing member
      cases member
  | cons first rest inductionHypothesis =>
      cases rest with
      | nil =>
          intro bearing member
          cases member
      | cons second rest =>
          intro bearing member
          rcases List.mem_cons.mp member with same | later
          · rw [same]
            exact earth.bearingTo_nonneg _ _
          · exact inductionHypothesis bearing later

/-- The heading on which a path arrives at its last vertex. -/
def arrivalBearing (earth : Geodesy R) (graph : NavGraph R R) (srcBearing : R) (path : List Int) : R :=
  (edgeBearings earth graph path).getLastD srcBearing

omit [NatCast R] [One R] [Neg R] [Add R] [Sub R] [Mul R] [Div R] in
theorem arrivalBearing_concat (earth : Geodesy R) (graph : NavGraph R R) (srcBearing : R)
    (path : List Int) (u v : Int) :
    arrivalBearing earth graph srcBearing (path ++ [u, v]) =
      earth.bearingTo (graph.coordOf u) (graph.coordOf v) := by
  rw [arrivalBearing, edgeBearings_append]
  exact List.getLastD_concat

/-- The turn between two headings, free while one of them is unknown. -/
def TurnPenalty.between (turn : TurnPenalty) (inbound outbound : R) : R :=
  if 0 ≤ inbound ∧ 0 ≤ outbound then turn.cost (turnAngleDeg inbound outbound) else 0

omit [One R] [Neg R] in
theorem TurnPenalty.between_known (turn : TurnPenalty) {inbound outbound : R} (inboundKnown : 0 ≤ inbound)
    (outboundKnown : 0 ≤ outbound) :
    turn.between inbound outbound = turn.cost (turnAngleDeg inbound outbound) :=
  if_pos ⟨inboundKnown, outboundKnown⟩

omit [One R] [Neg R] in
theorem TurnPenalty.between_unknown (turn : TurnPenalty) {inbound outbound : R}
    (unknown : ¬ (0 ≤ inbound ∧ 0 ≤ outbound)) : turn.between inbound outbound = 0 :=
  if_neg unknown

/-- The turns up to the last vertex of a path whose edges cost `cost`. -/
def turnsTo (turn : TurnPenalty) (bearings : List R) (srcBearing cost : R) : R :=
  if bearings.isEmpty then cost
  else
    interiorTurns turn bearings
      (if 0 ≤ srcBearing then cost + turn.cost (turnAngleDeg srcBearing (bearings.headD 0)) else cost)

end BravoFinder
