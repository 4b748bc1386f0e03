import BravoFinder.Graph.Journey
import BravoFinder.Library.SimplePath
import BravoFinder.Navdb.FindRoutes
import BravoFinder.Navdb.ForcedRoutes
import Mathlib.Data.List.Forall2

namespace BravoFinder

/-!
# Via points that no route can use

`FindRoutes` refuses a forced point that cannot be both reached and left along
airways, so that a request no route can serve is answered with the reason.  A
route may begin or end at a via point, though: a fix at which a SID hands off
needs no way in, and a fix at which a STAR is picked up no way out.
-/

/-- Where a fold that may fail stops. -/
theorem foldlM_eq_error_iff {A B E : Type} (step : B -> A -> Except E B) {items : List A} {start : B} {failure : E} :
    items.foldlM step start = .error failure ↔ exists before item after reached,
      items = before ++ item :: after ∧ before.foldlM step start = .ok reached ∧ step reached item = .error failure := by
  induction items generalizing start with
  | nil =>
      constructor
      · exact fun stops => nomatch stops
      · rintro ⟨before, item, after, _, split, -⟩
        exact absurd split.symm (List.append_ne_nil_of_right_ne_nil before (List.cons_ne_nil item after))
  | cons first rest inductionHypothesis =>
      rw [List.foldlM_cons]
      rcases here : step start first with other | next
      · constructor
        · intro stops
          cases stops
          exact ⟨[], first, rest, start, rfl, rfl, here⟩
        · rintro ⟨before, item, after, reached, split, passed, stops⟩
          rcases before with _ | ⟨head, before⟩
          · cases split
            cases passed
            rw [here] at stops
            cases stops
            rfl
          · cases split
            rw [List.foldlM_cons, here] at passed
            cases passed
      · change rest.foldlM step next = _ ↔ _
        rw [inductionHypothesis]
        constructor
        · rintro ⟨before, item, after, reached, rfl, passed, stops⟩
          refine ⟨first :: before, item, after, reached, rfl, ?_, stops⟩
          rw [List.foldlM_cons, here]
          exact passed
        · rintro ⟨before, item, after, reached, split, passed, stops⟩
          rcases before with _ | ⟨head, before⟩
          · cases split
            cases passed
            rw [here] at stops
            cases stops
          · cases split
            rw [List.foldlM_cons, here] at passed
            exact ⟨before, item, after, reached, rfl, passed, stops⟩

namespace RouteQuery

open ForcedRouter

variable {R : Type} [Field R] [LinearOrder R] (query : RouteQuery R)

/-- What a token of the request names. -/
def resolve (token : Text) : Except Bool ForcedPoint :=
  resolvePoint query.builder query.engine.earth token (query.endpointCoord query.request.departure query.sources)
    (query.endpointCoord query.request.arrival query.goals)

/-- A token that names a point with both directions, which is not avoided. -/
structure Passes (token : Text) (point : ForcedPoint) : Prop where
  resolves : query.resolve token = .ok point
  notAvoided : point.vertex ∉ query.avoidVertices.elems
  twoWay : oneWay query.builder point.vertex = false

/-- The first forced point to fail a check lacks a direction. -/
structure LacksDirection (token : Text) (point : ForcedPoint) : Prop where
  within : query.request.forcedPoints.length ≤ kMaxForcedPoints
  reached : exists before after points, query.request.forcedPoints = before ++ token :: after ∧
    List.Forall₂ query.Passes before points ∧ (points.map ForcedPoint.vertex).Nodup
  resolves : query.resolve token = .ok point
  notAvoided : point.vertex ∉ query.avoidVertices.elems
  oneWay : oneWay query.builder point.vertex = true

/-! ## What the loop refuses -/

/-- One round of the loop. -/
def admitNext (forced : List ForcedPoint) (token : Text) : Except ForcedRefusal (List ForcedPoint) :=
  admitToken query.builder query.engine.earth query.avoidVertices
    (query.endpointCoord query.request.departure query.sources)
    (query.endpointCoord query.request.arrival query.goals) forced token

theorem admitNext_eq_ok_iff {forced admitted : List ForcedPoint} {token : Text} :
    query.admitNext forced token = .ok admitted ↔ exists point, query.Passes token point ∧
      point.vertex ∉ forced.map ForcedPoint.vertex ∧ admitted = forced ++ [point] := by
  rw [admitNext, admitToken, ← resolve]
  rcases resolves : query.resolve token with isAirport | point
  · refine ⟨nofun, ?_⟩
    rintro ⟨other, passes, -⟩
    cases resolves.symm.trans passes.resolves
  simp only
  have only : forall {other : ForcedPoint}, query.Passes token other -> other = point := fun passes =>
    (Except.ok.inj (resolves.symm.trans passes.resolves)).symm
  have repeated : (forced.any fun other => other.vertex == point.vertex) = true ↔
      point.vertex ∈ forced.map ForcedPoint.vertex := by
    rw [List.any_eq_true, List.mem_map]
    exact exists_congr fun other => and_congr_right fun _ => beq_iff_eq
  split_ifs with avoided lacks again
  · refine ⟨nofun, ?_⟩
    rintro ⟨other, passes, -⟩
    exact absurd ((SortedVector.binarySearch_eq_true _ _).mp avoided) (only passes ▸ passes.notAvoided)
  · refine ⟨nofun, ?_⟩
    rintro ⟨other, passes, -⟩
    exact Bool.noConfusion (lacks.symm.trans (only passes ▸ passes.twoWay))
  · refine ⟨nofun, ?_⟩
    rintro ⟨other, passes, fresh, -⟩
    exact absurd (repeated.mp again) (only passes ▸ fresh)
  · constructor
    · intro passed
      cases passed
      exact ⟨point, ⟨resolves, mt (SortedVector.binarySearch_eq_true _ _).mpr avoided, Bool.not_eq_true _ ▸ lacks⟩,
        mt repeated.mpr again, rfl⟩
    · rintro ⟨other, passes, -, rfl⟩
      rw [only passes]

theorem admitNext_eq_oneWay_iff {forced : List ForcedPoint} {token other : Text} {point : ForcedPoint} :
    query.admitNext forced token = .error (.oneWay other point) ↔ token = other ∧
      query.resolve token = .ok point ∧ point.vertex ∉ query.avoidVertices.elems ∧
      oneWay query.builder point.vertex = true := by
  rw [admitNext, admitToken, ← resolve]
  rcases resolves : query.resolve token with isAirport | found
  · refine ⟨nofun, ?_⟩
    rintro ⟨-, names, -⟩
    cases names
  simp only
  split_ifs with avoided lacks again
  · refine ⟨nofun, ?_⟩
    rintro ⟨-, names, notAvoided, -⟩
    cases names
    exact absurd ((SortedVector.binarySearch_eq_true _ _).mp avoided) notAvoided
  · constructor
    · intro refused
      cases refused
      exact ⟨rfl, rfl, mt (SortedVector.binarySearch_eq_true _ _).mpr avoided, lacks⟩
    · rintro ⟨rfl, names, -⟩
      cases names
      rfl
  all_goals
    refine ⟨nofun, ?_⟩
    rintro ⟨-, names, -, oneWay⟩
    cases names
    exact absurd oneWay lacks

/-- The points that pass, after some that passed before. -/
theorem foldlM_admitNext_iff {tokens : List Text} {forced admitted : List ForcedPoint}
    (distinct : (forced.map ForcedPoint.vertex).Nodup) :
    tokens.foldlM query.admitNext forced = .ok admitted ↔ exists points, admitted = forced ++ points ∧
      List.Forall₂ query.Passes tokens points ∧ (admitted.map ForcedPoint.vertex).Nodup := by
  induction tokens generalizing forced with
  | nil =>
      rw [List.foldlM_nil]
      constructor
      · intro same
        cases same
        exact ⟨[], (List.append_nil _).symm, .nil, distinct⟩
      · rintro ⟨points, rfl, passes, -⟩
        cases passes
        rw [List.append_nil]
        rfl
  | cons token rest inductionHypothesis =>
      rw [List.foldlM_cons]
      constructor
      · intro passed
        rcases here : query.admitNext forced token with refusal | next
        · rw [here] at passed
          cases passed
        rw [here] at passed
        rcases query.admitNext_eq_ok_iff.mp here with ⟨point, passes, fresh, rfl⟩
        have longer : ((forced ++ [point]).map ForcedPoint.vertex).Nodup := by
          rw [List.map_append, List.map_singleton]
          exact List.nodup_append.mpr ⟨distinct, List.nodup_singleton _, fun v member w single same =>
            fresh (List.mem_singleton.mp single ▸ same ▸ member)⟩
        rcases (inductionHypothesis longer).mp passed with ⟨points, rfl, others, nodup⟩
        exact ⟨point :: points, List.append_assoc _ _ _, .cons passes others, nodup⟩
      · rintro ⟨points, rfl, passes, nodup⟩
        rcases passes with _ | ⟨first, others⟩
        rename_i point points
        have split : forced ++ point :: points = (forced ++ [point]) ++ points := by
          rw [List.append_assoc, List.singleton_append]
        have longer : ((forced ++ [point]).map ForcedPoint.vertex).Nodup := by
          rw [split, List.map_append] at nodup
          exact (List.nodup_append.mp nodup).1
        have fresh : point.vertex ∉ forced.map ForcedPoint.vertex := by
          intro member
          rw [List.map_append, List.map_singleton, List.nodup_append] at longer
          exact longer.2.2 _ member _ List.mem_cons_self rfl
        rw [query.admitNext_eq_ok_iff.mpr ⟨point, first, fresh, rfl⟩]
        exact (inductionHypothesis longer).mpr ⟨points, split, others, nodup⟩

theorem admitted_iff {tokens : List Text} {admitted : List ForcedPoint} :
    tokens.foldlM query.admitNext [] = .ok admitted ↔
      List.Forall₂ query.Passes tokens admitted ∧ (admitted.map ForcedPoint.vertex).Nodup := by
  have none : (([] : List ForcedPoint).map ForcedPoint.vertex).Nodup := List.nodup_nil
  rw [query.foldlM_admitNext_iff none]
  constructor
  · rintro ⟨points, rfl, both⟩
    exact both
  · exact fun both => ⟨admitted, rfl, both⟩

/-- The request is refused at the first point to fail a check. -/
theorem forced_eq_oneWay_iff {token : Text} {point : ForcedPoint} :
    query.forced = .error (.oneWay token point) ↔ query.LacksDirection token point := by
  rw [forced, admitAll]
  constructor
  · intro refused
    split_ifs at refused with empty many
    · cases refused
    · rcases (foldlM_eq_error_iff query.admitNext).mp refused with ⟨before, item, after, points, split, passed, stops⟩
      rcases query.admitNext_eq_oneWay_iff.mp stops with ⟨rfl, resolves, notAvoided, oneWay⟩
      rcases query.admitted_iff.mp passed with ⟨passes, nodup⟩
      exact ⟨Nat.le_of_not_lt many, ⟨before, after, points, split, passes, nodup⟩, resolves, notAvoided, oneWay⟩
  · rintro ⟨within, ⟨before, after, points, split, passes, nodup⟩, resolves, notAvoided, oneWay⟩
    have some : ¬ query.request.forcedPoints.isEmpty = true := by
      rw [split, List.isEmpty_iff]
      exact List.append_ne_nil_of_right_ne_nil _ (List.cons_ne_nil _ _)
    rw [if_neg some, if_neg (Nat.not_lt.mpr within)]
    refine (foldlM_eq_error_iff query.admitNext).mpr ⟨before, token, after, points, split, ?_, ?_⟩
    · exact query.admitted_iff.mpr ⟨passes, nodup⟩
    · exact query.admitNext_eq_oneWay_iff.mpr ⟨rfl, resolves, notAvoided, oneWay⟩

/-! ## What a route can use -/

/-- A vertex the search may enter. -/
def Open (v : Int) : Prop :=
  query.builder.graph.InRange v ∧ query.options.nodeFilter.blocks v = false

/-- A step over an allowed edge between such vertices. -/
def OpenStep (u v : Int) : Prop :=
  query.Open u ∧ AllowedStep query.builder.graph query.options u v ∧ query.Open v

/-- A way from one vertex to another. -/
def Leads (u v : Int) : Prop :=
  query.Open u ∧ Relation.ReflTransGen query.OpenStep u v

/-- A simple path a route may follow. -/
def Usable (path : List Int) : Prop :=
  FeasiblePath query.builder.graph query.sources query.goals query.options path

/-- A departure fix without a way in, from which an arrival fix can be reached,
or an arrival fix without a way out that can be reached from a departure fix. -/
def UsableGate (v : Int) : Prop :=
  exists source goal, source ∈ query.sources ∧ goal ∈ query.goals ∧ query.Leads source.vertex goal.vertex ∧
    (source.vertex = v ∧ query.builder.hasInbound v = false ∨ goal.vertex = v ∧ query.builder.hasOutbound v = false)

variable {query}

theorem Usable.chain {path : List Int} (usable : query.Usable path) : path.IsChain query.OpenStep :=
  usable.steps.imp_of_mem_imp fun u v front back step =>
    ⟨⟨usable.inRange u front, usable.unblocked u front⟩, step, usable.inRange v back, usable.unblocked v back⟩

/-- A vertex that can be stepped to has a way in ... -/
theorem OpenStep.hasInbound {u v : Int} (step : query.OpenStep u v) : query.builder.hasInbound v = true := by
  rcases step with ⟨source, ⟨-, edge, listed, target, -⟩, place⟩
  exact (query.builder.hasInbound_iff place.1).mpr ⟨u, source.1, edge, listed, target⟩

/-- ... and one that can be stepped from has a way out. -/
theorem OpenStep.hasOutbound {u v : Int} (step : query.OpenStep u v) : query.builder.hasOutbound u = true := by
  rcases step with ⟨source, ⟨-, edge, listed, -⟩, -⟩
  exact (query.builder.hasOutbound_iff source.1).mpr (List.ne_nil_of_mem listed)

/-- A way between the endpoints can be flown as a simple path. -/
theorem exists_usable {source goal : SeededEndpoint R} (isSource : source ∈ query.sources)
    (isGoal : goal ∈ query.goals) (leads : query.Leads source.vertex goal.vertex) :
    exists path, query.Usable path ∧ path.head? = some source.vertex ∧ path.getLast? = some goal.vertex := by
  rcases exists_nodup_chain leads.2 with ⟨rest, nodup, chain, ends⟩
  have entered : forall v, v ∈ source.vertex :: rest -> query.Open v := by
    intro v member
    rcases List.append_of_mem member with ⟨before, after, split⟩
    rcases List.eq_nil_or_concat' before with rfl | ⟨front, previous, rfl⟩
    · cases split
      exact leads.1
    · rw [split, List.append_assoc] at chain
      exact (List.isChain_cons_cons.mp (isChain_from chain)).1.2.2
  refine ⟨source.vertex :: rest, ?_, rfl, ends⟩
  exact
    { nonempty := List.cons_ne_nil _ _
      nodup := nodup
      inRange := fun v member => (entered v member).1
      unblocked := fun v member => (entered v member).2
      starts := ⟨source, isSource, rfl⟩
      ends := ⟨goal, isGoal, ends⟩
      steps := chain.imp fun _ _ step => step.2.1 }

/-- A usable path leads from a departure fix to an arrival fix. -/
theorem Usable.leads {path : List Int} (usable : query.Usable path) :
    exists source goal, source ∈ query.sources ∧ goal ∈ query.goals ∧ path.head? = some source.vertex ∧
      path.getLast? = some goal.vertex ∧ query.Leads source.vertex goal.vertex := by
  rcases usable.starts with ⟨source, isSource, first⟩
  rcases usable.ends with ⟨goal, isGoal, last⟩
  rcases path with _ | ⟨v, rest⟩
  · exact absurd rfl usable.nonempty
  · cases first
    exact ⟨source, goal, isSource, isGoal, rfl, last,
      ⟨usable.inRange _ List.mem_cons_self, usable.unblocked _ List.mem_cons_self⟩,
      leads_of_chain usable.chain last⟩

/-- A point that lacks a direction lies on a usable path only at its end: there
it is a gate. -/
theorem exists_usable_iff {v : Int} (oneWay : oneWay query.builder v = true) :
    (exists path, query.Usable path ∧ v ∈ path) ↔ query.UsableGate v := by
  constructor
  · rintro ⟨path, usable, member⟩
    rcases usable.leads with ⟨source, goal, isSource, isGoal, first, last, leads⟩
    refine ⟨source, goal, isSource, isGoal, leads, ?_⟩
    rw [ForcedRouter.oneWay, Bool.or_eq_true, Bool.not_eq_true', Bool.not_eq_true'] at oneWay
    rcases oneWay with noInbound | noOutbound
    · refine Or.inl ⟨Option.some.inj (first.symm.trans ?_), noInbound⟩
      exact head?_of_unentered usable.chain member fun other step => Bool.noConfusion
        (noInbound.symm.trans step.hasInbound)
    · refine Or.inr ⟨Option.some.inj (last.symm.trans ?_), noOutbound⟩
      exact getLast?_of_unleft usable.chain member fun other step => Bool.noConfusion
        (noOutbound.symm.trans step.hasOutbound)
  · rintro ⟨source, goal, isSource, isGoal, leads, gate⟩
    rcases exists_usable isSource isGoal leads with ⟨path, usable, first, last⟩
    refine ⟨path, usable, ?_⟩
    rcases gate with ⟨rfl, -⟩ | ⟨rfl, -⟩
    · exact List.mem_of_head? first
    · exact List.mem_of_getLast? last

/-- A gate a route can use is an endpoint of the query. -/
theorem findPathsOf_of_usableGate {token : Text} {point : ForcedPoint} (lacks : query.LacksDirection token point)
    (gate : query.UsableGate point.vertex) : query.findPathsOf = .error (.forced (.oneWay token point)) := by
  rcases gate with ⟨source, goal, isSource, isGoal, -⟩
  have someSource : query.sources.isEmpty = false := List.isEmpty_eq_false_iff.mpr (List.ne_nil_of_mem isSource)
  have someGoal : query.goals.isEmpty = false := List.isEmpty_eq_false_iff.mpr (List.ne_nil_of_mem isGoal)
  rw [findPathsOf, someSource, someGoal, Bool.or_false, Bool.and_false, if_neg Bool.false_ne_true,
    query.forced_eq_oneWay_iff.mpr lacks]

variable (query)

/-- The query refuses a point that lacks a direction only when no route can
use it. -/
def RefusesTheUnusable : Prop :=
  forall token point, query.findPathsOf = .error (.forced (.oneWay token point)) ->
    forall path, query.Usable path -> point.vertex ∉ path

/-- The refusal is justified unless the refused point is a gate that a route can
begin or end at. -/
theorem refusesTheUnusable_iff : query.RefusesTheUnusable ↔
    forall token point, query.LacksDirection token point -> ¬ query.UsableGate point.vertex := by
  constructor
  · intro justified token point lacks gate
    rcases (exists_usable_iff lacks.oneWay).mpr gate with ⟨path, usable, member⟩
    exact justified token point (findPathsOf_of_usableGate lacks gate) path usable member
  · intro condition token point refused path usable member
    have lacks : query.LacksDirection token point := by
      rw [← query.forced_eq_oneWay_iff]
      rw [findPathsOf] at refused
      split_ifs at refused
      · cases refused
      · rcases outcome : query.forced with refusal | forced
        · rw [outcome] at refused
          cases refused
          rfl
        · rw [outcome] at refused
          simp only at refused
          split_ifs at refused
          · cases refused
    exact condition token point lacks ((exists_usable_iff lacks.oneWay).mp ⟨path, usable, member⟩)

end RouteQuery

/-! ## A departure fix as via point -/

def airportX : FixedIdent := ⟨[88], [90, 66], by decide, waypointA.arinc424IcaoCode_length⟩
def airportY : FixedIdent := ⟨[89], [90, 66], by decide, waypointA.arinc424IcaoCode_length⟩

/-- Two waypoints on the equator, joined one way, and an airport at either end. -/
def oneWayBuilder : GraphBuilder ℚ where
  graph :=
    { coords := [⟨0, 7⟩, ⟨0, 8⟩, ⟨0, 6⟩, ⟨0, 9⟩]
      offsets := [0, 1, 1, 1, 1]
      edges := [lineEdge 1 60]
      offsets_length := rfl
      offsets_sorted := by decide
      offsets_le := by decide
      edges_to := by decide
      vertexCount_lt := by decide }
  idents := [waypointA, waypointB, airportX, airportY]
  hasOutboundFlags := [true, false, false, false]
  hasInboundFlags := [false, true, false, false]
  firstAirportVertex := 2
  airwayNames := [[68, 67, 84], [74, 54]]
  idents_length := rfl
  firstAirportVertex_le := by decide
  hasOutboundFlags_eq := by decide
  hasInboundFlags_eq := by decide
  waypoint_of_edge := by decide
  airwayId_lt := by decide

/-- The plan of an airport without procedures next to one fix. -/
def singlePlan (icao : Text) (vertex : Int) : EndpointPlan ℚ :=
  ⟨[⟨vertex, 60, kNoBearing, kNoBearing, kNoVertex, 0, []⟩], icao, false, false, false, false, false, [], false⟩

/-- From one airport to the other, by way of the first waypoint. -/
def gateQuery : RouteQuery ℚ where
  builder := oneWayBuilder
  engine := lineEngine
  heaps := sortedPickHeaps
  request := ⟨[88], [89], none, .kNone, 1, [], [], [], [], [], [], none, [[65]]⟩
  dep := singlePlan [88] 0
  arr := singlePlan [89] 1
  options := lineOptions false
  avoidVertices := .ofList []

/-- The query is refused, though the search would find its route. -/
theorem not_refusesTheUnusable_gate :
    gateQuery.findPathsOf = .error (.forced (.oneWay [65] ⟨0, [65, 47, 90, 66]⟩)) ∧
      (gateQuery.search [⟨0, [65, 47, 90, 66]⟩]).map ShortestPath.vertices = [[0, 1]] ∧
      ¬ gateQuery.RefusesTheUnusable := by
  have refused : gateQuery.findPathsOf = .error (.forced (.oneWay [65] ⟨0, [65, 47, 90, 66]⟩)) := by
    decide +kernel
  refine ⟨refused, by decide +kernel, fun justified => ?_⟩
  refine justified _ _ refused [0, 1] ?_ List.mem_cons_self
  exact
    { nonempty := List.cons_ne_nil _ _
      nodup := by decide
      inRange := by decide
      unblocked := by decide
      starts := ⟨⟨0, 60, kNoBearing⟩, by decide, rfl⟩
      ends := ⟨⟨1, 60, kNoBearing⟩, by decide, rfl⟩
      steps := List.isChain_cons_cons.mpr ⟨⟨rfl, lineEdge 1 60, by decide, rfl, rfl⟩, List.isChain_singleton _⟩ }

end BravoFinder
