import BravoFinder.Navdb.ParseRuns
import BravoFinder.Navdb.ViaPoints

namespace BravoFinder

/-!
# Routes that were parsed

A route that `ParseRoute` accepts is a real route: its legs join its points one
after the other, along edges of the airways they name, and its distances are
those of its legs.
-/

/-! ## Tokens -/

theorem toUpper_toUpper (s : Text) : toUpper (toUpper s) = toUpper s := by
  rw [toUpper, toUpper, List.map_map]
  refine List.map_congr_left fun c _ => ?_
  simp only [Function.comp_apply]
  split
  next lower =>
    rw [UInt8.le_iff_toNat_le, UInt8.le_iff_toNat_le] at lower
    have low : (97 : UInt8).toNat = 97 := rfl
    have high : (122 : UInt8).toNat = 122 := rfl
    have gap : (32 : UInt8).toNat = 32 := rfl
    have fits : (32 : UInt8) ≤ c := by
      rw [UInt8.le_iff_toNat_le]
      omega
    refine if_neg fun again => ?_
    rw [UInt8.le_iff_toNat_le, UInt8.toNat_sub_of_le _ _ fits] at again
    omega
  next other => rfl

theorem toUpper_of_mem_tokenizeRoute {routeStr tok : Text} (member : tok ∈ tokenizeRoute routeStr) :
    toUpper tok = tok := by
  rcases List.mem_map.mp member with ⟨token, _, rfl⟩
  exact toUpper_toUpper token

/-! ## Legs that fold to themselves -/

section Fold

variable {R : Type}

/-- A leg under one name, as it is emitted. -/
def RouteLeg.Plain (leg : RouteLeg R) : Prop :=
  splitDesignators leg.via = [leg.via] ∧ leg.concurrentAirways = []

theorem growGroup_plain (name : Text) {legs : List (RouteLeg R)} (plain : forall leg, leg ∈ legs -> leg.Plain) :
    (growGroup [name] legs).running = [name] ∧ forall leg, leg ∈ (growGroup [name] legs).joined -> leg.via = name := by
  induction legs with
  | nil => exact ⟨rfl, fun _ absurdity => absurd absurdity List.not_mem_nil⟩
  | cons next rest inductionHypothesis =>
      rw [List.forall_mem_cons] at plain
      have alone : (growGroup [name] (next :: rest)) = ⟨[name], [], next :: rest⟩ ∨
          next.via = name ∧ growGroup [name] (next :: rest) =
            { growGroup [name] rest with joined := next :: (growGroup [name] rest).joined } := by
        rw [growGroup, plain.1.1]
        by_cases same : next.via = name
        · have kept : intersect [name] [next.via] = [name] := by
            rw [intersect, same, List.filter_cons_of_pos (by rw [List.contains_iff_mem]; exact List.mem_cons_self)]
            rfl
          rw [kept, if_neg (List.cons_ne_nil _ _)]
          split
          · exact .inl rfl
          · exact .inr ⟨same, rfl⟩
        · have apart : intersect [name] [next.via] = [] := by
            rw [intersect, List.filter_cons_of_neg]
            · rfl
            · rw [List.contains_iff_mem, List.mem_singleton]
              exact fun equal => same equal.symm
          rw [apart]
          refine .inl ?_
          split <;> rfl
      rcases alone with stops | ⟨same, joins⟩
      · rw [stops]
        exact ⟨rfl, fun _ absurdity => absurd absurdity List.not_mem_nil⟩
      · rw [joins]
        refine ⟨(inductionHypothesis plain.2).1, ?_⟩
        rw [List.forall_mem_cons]
        exact ⟨same, (inductionHypothesis plain.2).2⟩

/-- Writing the route string leaves such legs as they are. -/
theorem foldLegs_plain {legs : List (RouteLeg R)} (plain : forall leg, leg ∈ legs -> leg.Plain) :
    (foldLegs legs).2 = legs := by
  induction legs using foldLegs.induct with
  | case1 => rw [foldLegs]
  | case2 leg legs direct inductionHypothesis =>
      rw [List.forall_mem_cons] at plain
      rw [foldLegs, if_pos direct, inductionHypothesis plain.2, ← plain.1.2]
  | case3 leg legs airway unnamed _ =>
      rw [List.forall_mem_cons] at plain
      rw [plain.1.1] at unnamed
      exact absurd unnamed (List.cons_ne_nil _ _)
  | case4 leg legs airway named group inductionHypothesis =>
      rw [List.forall_mem_cons] at plain
      have grown := growGroup_plain leg.via plain.2
      have split := growGroup_split legs [leg.via]
      simp only [group, plain.1.1] at inductionHypothesis
      have parts : forall other, other ∈ (growGroup [leg.via] legs).joined ++ (growGroup [leg.via] legs).rest ->
          other.Plain := fun other member => plain.2 other (split ▸ member)
      have same : forall other, other ∈ leg :: (growGroup [leg.via] legs).joined ->
          other.foldedUnder leg.via = other := by
        have unfolded : forall other : RouteLeg R, other.Plain -> other.via = leg.via ->
            other.foldedUnder leg.via = other := by
          intro other isPlain via
          rw [RouteLeg.foldedUnder, isPlain.1, List.length_singleton, if_neg (Nat.lt_irrefl 1), ← via, ← isPlain.2]
        rw [List.forall_mem_cons]
        refine ⟨unfolded leg plain.1 rfl, fun other member => ?_⟩
        exact unfolded other (parts other (List.mem_append_left _ member)) (grown.2 other member)
      rw [foldLegs, if_neg airway, if_neg named, plain.1.1]
      simp only [grown.1, List.headD_cons]
      rw [List.map_congr_left same, List.map_id', inductionHypothesis fun other member =>
        parts other (List.mem_append_right _ member), List.cons_append, split]

end Fold

theorem splitDesignators_kSidToken : splitDesignators kSidToken = [kSidToken] := by
  decide +kernel

theorem splitDesignators_kStarToken : splitDesignators kStarToken = [kStarToken] := by
  decide +kernel

namespace NavDatabase

variable {R : Type} [Field R] [LinearOrder R] {db : NavDatabase R}

theorem JoinsPoints.plain {p q : RoutePoint R} {leg : RouteLeg R} (joined : db.JoinsPoints p leg q) : leg.Plain := by
  refine ⟨?_, joined.alone⟩
  rcases joined.connector with direct | sid | star | ⟨u, e, carries, _, _⟩
  · rw [direct]
    exact splitDesignators_kDctToken
  · rw [sid]
    exact splitDesignators_kSidToken
  · rw [star]
    exact splitDesignators_kStarToken
  · exact splitDesignators_of_mem carries.named

/-! ## Distances -/

/-- The distances of the procedures are part of the total. -/
theorem foldl_phaseStep [IsStrictOrderedRing R] {legs : List (RouteLeg R)}
    (lengths : forall leg, leg ∈ legs -> 0 ≤ leg.distanceNm) (sums : R × R) :
    sums.1 ≤ (legs.foldl phaseStep sums).1 ∧ sums.2 ≤ (legs.foldl phaseStep sums).2 ∧
      (legs.foldl phaseStep sums).1 + (legs.foldl phaseStep sums).2 ≤
        sums.1 + sums.2 + (legs.map RouteLeg.distanceNm).sum := by
  induction legs generalizing sums with
  | nil =>
      rw [List.foldl_nil, List.map_nil, List.sum_nil, add_zero]
      exact ⟨le_refl _, le_refl _, le_refl _⟩
  | cons leg rest inductionHypothesis =>
      rw [List.forall_mem_cons] at lengths
      rw [List.foldl_cons, List.map_cons, List.sum_cons]
      rcases inductionHypothesis lengths.2 (phaseStep sums leg) with ⟨dep, arr, both⟩
      have step : sums.1 ≤ (phaseStep sums leg).1 ∧ sums.2 ≤ (phaseStep sums leg).2 ∧
          (phaseStep sums leg).1 + (phaseStep sums leg).2 ≤ sums.1 + sums.2 + leg.distanceNm := by
        have length := lengths.1
        rw [phaseStep]
        split
        · exact ⟨by linarith, le_refl _, by linarith⟩
        · split
          · exact ⟨le_refl _, by linarith, by linarith⟩
          · exact ⟨le_refl _, le_refl _, by linarith⟩
      exact ⟨step.1.trans dep, step.2.1.trans arr, by linarith [step.2.2]⟩

/-! ## Real routes -/

/-- What a parsed route keeps to. -/
structure RealRoute (db : NavDatabase R) (route : Route R) : Prop where
  points_length : route.points.length = route.legs.length + 1
  /-- A leg runs from its point to the next. -/
  ends : forall i leg, route.legs[i]? = some leg -> exists p q,
    route.points[i]? = some p ∧ route.points[i + 1]? = some q ∧ leg.fromIdent = p.ident ∧ leg.toIdent = q.ident
  /-- A leg under the name of an airway follows an edge of it.  `DCT`, `SID` and
  `STAR` name no airway here. -/
  airway : forall i leg, route.legs[i]? = some leg -> leg.via ≠ kDctToken -> leg.via ≠ kSidToken ->
    leg.via ≠ kStarToken -> exists u e, db.builder.Carries leg.via u e ∧
      route.points[i]? = some (db.pointAt u) ∧ route.points[i + 1]? = some (db.pointAt e.toVertex)
  total : route.totalDistanceNm = (route.legs.map RouteLeg.distanceNm).sum
  dep_nonneg : 0 ≤ route.depDistanceNm
  enroute_nonneg : 0 ≤ route.enrouteDistanceNm
  arr_nonneg : 0 ≤ route.arrDistanceNm
  phases : route.depDistanceNm + route.enrouteDistanceNm + route.arrDistanceNm = route.totalDistanceNm

theorem realRoute_finalize [IsStrictOrderedRing R] {points : List (RoutePoint R)} {legs : List (RouteLeg R)}
    (strung : Strung db.JoinsPoints points legs) {totalDistanceNm : R}
    (total : totalDistanceNm = (legs.map RouteLeg.distanceNm).sum) (sid star : Text) (depViaSid arrViaStar : Bool) :
    (finalizeRoute points legs totalDistanceNm sid star depViaSid arrViaStar).legs = legs ∧
      db.RealRoute (finalizeRoute points legs totalDistanceNm sid star depViaSid arrViaStar) := by
  have same : forall front, (buildRouteString front legs).2 = legs := by
    intro front
    refine foldLegs_plain fun leg member => ?_
    rcases strung.of_mem member with ⟨p, q, joined⟩
    exact joined.plain
  have lengths : forall leg, leg ∈ legs -> 0 ≤ leg.distanceNm := by
    intro leg member
    rcases strung.of_mem member with ⟨p, q, joined⟩
    rw [joined.measured]
    exact db.earth.distanceTo_nonneg _ _
  have sums := foldl_phaseStep lengths (0, 0)
  have kept : (finalizeRoute points legs totalDistanceNm sid star depViaSid arrViaStar).legs = legs := by
    rw [finalizeRoute]
    exact same ((points.head?.map RoutePoint.ident).getD [])
  refine ⟨kept, ?_⟩
  constructor
  case points_length =>
    rw [kept]
    exact strung.length_eq
  case ends =>
    rw [kept]
    intro i leg here
    rcases strung.between here with ⟨p, q, atStart, atEnd, joined⟩
    exact ⟨p, q, atStart, atEnd, joined.starts, joined.ends⟩
  case airway =>
    rw [kept]
    intro i leg here notDirect notSid notStar
    rcases strung.between here with ⟨p, q, atStart, atEnd, joined⟩
    rcases joined.connector with direct | sid | star | ⟨u, e, carries, rfl, rfl⟩
    · exact absurd direct notDirect
    · exact absurd sid notSid
    · exact absurd star notStar
    · exact ⟨u, e, carries, atStart, atEnd⟩
  case total =>
    rw [kept]
    exact total
  case dep_nonneg =>
    simp only [finalizeRoute, same]
    exact sums.1
  case enroute_nonneg => exact le_max_left _ _
  case arr_nonneg =>
    simp only [finalizeRoute, same]
    exact sums.2.1
  case phases =>
    have within := sums.2.2
    simp only [finalizeRoute, same]
    rw [add_zero, zero_add, ← total] at within
    rw [max_eq_right (by linarith), Route.bare]
    ring

/-! ## The tokens between the airports -/

/-- Taking a token off an end leaves a part of the tokens. -/
theorem infix_tail {A : Type} {part whole : List A} (within : part <:+: whole) (take : Bool) :
    (if take then part.tail else part) <:+: whole := by
  cases take
  · exact within
  · exact (List.tail_suffix part).isInfix.trans within

theorem infix_dropLast {A : Type} {part whole : List A} (within : part <:+: whole) (take : Bool) :
    (if take then part.dropLast else part) <:+: whole := by
  cases take
  · exact within
  · exact (List.dropLast_prefix part).isInfix.trans within

theorem infix_of_recognizeEnds {depAirport arrAirport : Text} {tokens : List Text} {ends : Ends}
    (recognized : db.recognizeEnds depAirport arrAirport tokens = .ok ends) : ends.middle <:+: tokens := by
  unfold recognizeEnds at recognized
  dsimp only at recognized
  split at recognized
  · cases recognized
  split at recognized
  · cases recognized
  cases recognized
  exact infix_dropLast (infix_tail (infix_tail (infix_dropLast (List.infix_refl tokens) _) _) _) _

/-- What lies between the airports of a parsed route: nothing, or the legs that the
tokens between them stand for. -/
def FollowsTokens (db : NavDatabase R) (tokens : List Text) (route : Route R) : Prop :=
  (exists leg, route.legs = [leg] ∧ leg.via = kDctToken) ∨
    exists ref middle vertices legs dep arr depLeg arrLeg, middle <:+: tokens ∧
      db.Flown ref middle vertices legs ∧ route.points = dep :: vertices.map db.pointAt ++ [arr] ∧
      route.legs = depLeg :: legs ++ [arrLeg] ∧ (depLeg.via = kDctToken ∨ depLeg.via = kSidToken) ∧
      (arrLeg.via = kDctToken ∨ arrLeg.via = kStarToken)

section Whole

variable [IsStrictOrderedRing R] {depAirport arrAirport : Text} {ends : Ends} {state : ParseState R} {route : Route R}
  {ref : Coordinate R} {tokens : List Text}

theorem directRoute_real (db : NavDatabase R) (depAirport arrAirport : Text) :
    db.RealRoute (db.directRoute depAirport arrAirport) ∧ db.FollowsTokens tokens (db.directRoute depAirport arrAirport) := by
  let dep := db.builder.graph.coordOf (db.builder.vertexByAirport depAirport)
  let arr := db.builder.graph.coordOf (db.builder.vertexByAirport arrAirport)
  let leg : RouteLeg R := ⟨depAirport, arrAirport, kDctToken, db.earth.distanceTo dep arr, []⟩
  have base : Strung db.JoinsPoints ([] ++ [⟨depAirport, dep⟩]) [] := .single _
  have joined : db.JoinsPoints ⟨depAirport, dep⟩ leg ⟨arrAirport, arr⟩ := ⟨rfl, rfl, rfl, .inl rfl, rfl⟩
  have total : 0 + db.earth.distanceTo dep arr = (([] ++ [leg]).map RouteLeg.distanceNm).sum := by
    rw [List.nil_append, List.map_singleton, List.sum_singleton, zero_add]
  rcases realRoute_finalize (base.snoc joined) total [] [] false false with ⟨legs, real⟩
  exact ⟨real, .inl ⟨leg, legs, rfl⟩⟩

/-- The airports joined to what was flown. -/
theorem joinAirports_real (stands : Stands db ref ends.middle state) (within : ends.middle <:+: tokens) :
    db.RealRoute (db.joinAirports depAirport arrAirport ends state) ∧
      db.FollowsTokens tokens (db.joinAirports depAirport arrAirport ends state) := by
  rcases stands.last with ⟨before, isLast⟩
  let first := state.pointVertices.headD (-1)
  let dep : RoutePoint R := ⟨depAirport, db.builder.graph.coordOf (db.builder.vertexByAirport depAirport)⟩
  let arr : RoutePoint R := ⟨arrAirport, db.builder.graph.coordOf (db.builder.vertexByAirport arrAirport)⟩
  let depLeg : RouteLeg R := ⟨depAirport, (db.builder.identOf first).ident,
    if ends.depViaSid then kSidToken else kDctToken, db.earth.distanceTo dep.coord (db.builder.graph.coordOf first), []⟩
  let arrLeg : RouteLeg R := ⟨(db.builder.identOf state.prevVertex).ident, arrAirport,
    if ends.arrViaStar then kStarToken else kDctToken,
    db.earth.distanceTo (db.builder.graph.coordOf state.prevVertex) arr.coord, []⟩
  have either : forall (chosen : Bool) (procedure : Text),
      (if chosen then procedure else kDctToken) = kDctToken ∨ (if chosen then procedure else kDctToken) = procedure := by
    intro chosen procedure
    cases chosen
    · exact .inl rfl
    · exact .inr rfl
  have depVia : depLeg.via = kDctToken ∨ depLeg.via = kSidToken := either ends.depViaSid kSidToken
  have arrVia : arrLeg.via = kDctToken ∨ arrLeg.via = kStarToken := either ends.arrViaStar kStarToken
  have starts : (state.pointVertices.map db.pointAt).head? = some (db.pointAt first) := by
    have nonempty : state.pointVertices ≠ [] := by
      rw [isLast]
      exact List.append_ne_nil_of_right_ne_nil _ (List.cons_ne_nil _ _)
    rw [List.head?_map, List.head?_eq_some_head nonempty, Option.map_some]
    show _ = some (db.pointAt (state.pointVertices.headD (-1)))
    rw [List.headD_eq_head?_getD, List.head?_eq_some_head nonempty, Option.getD_some]
  have depJoined : db.JoinsPoints dep depLeg (db.pointAt first) :=
    ⟨rfl, rfl, rfl, depVia.imp_right Or.inl, rfl⟩
  have arrJoined : db.JoinsPoints (db.pointAt state.prevVertex) arrLeg arr :=
    ⟨rfl, rfl, rfl, arrVia.imp_right fun star => .inr (.inl star), rfl⟩
  have front : Strung db.JoinsPoints (dep :: before.map db.pointAt ++ [db.pointAt state.prevVertex])
      (depLeg :: state.legs) := by
    have whole := stands.flown.strung.cons starts depJoined
    rw [isLast, List.map_append, List.map_singleton] at whole
    exact whole
  have row : dep :: state.points ++ [arr] = dep :: before.map db.pointAt ++ [db.pointAt state.prevVertex] ++ [arr] := by
    rw [stands.points, isLast, List.map_append, List.map_singleton]
    rfl
  have total : state.totalDistanceNm + depLeg.distanceNm + arrLeg.distanceNm =
      ((depLeg :: state.legs ++ [arrLeg]).map RouteLeg.distanceNm).sum := by
    rw [stands.total, List.map_append, List.map_cons, List.map_singleton, List.sum_append, List.sum_cons,
      List.sum_singleton]
    ring
  have whole : Strung db.JoinsPoints (dep :: state.points ++ [arr]) (depLeg :: state.legs ++ [arrLeg]) := by
    rw [row]
    exact front.snoc arrJoined
  have same : db.joinAirports depAirport arrAirport ends state = finalizeRoute (dep :: state.points ++ [arr])
      (depLeg :: state.legs ++ [arrLeg]) (state.totalDistanceNm + depLeg.distanceNm + arrLeg.distanceNm) ends.sidName
      ends.starName ends.depViaSid ends.arrViaStar := by
    have last : state.pointVertices.getLastD (-1) = state.prevVertex := by
      rw [isLast, List.getLastD_concat]
    rw [joinAirports, last]
  rw [same]
  rcases realRoute_finalize whole total ends.sidName ends.starName ends.depViaSid ends.arrViaStar with ⟨legs, real⟩
  refine ⟨real, .inr ⟨ref, ends.middle, state.pointVertices, state.legs, dep, arr, depLeg, arrLeg, within, stands.flown,
    ?_, legs, depVia, arrVia⟩⟩
  rw [← stands.points]
  rfl

theorem finishRoute_real (nonneg : db.NonNegativeLengths) (upper : forall tok, tok ∈ ends.middle -> toUpper tok = tok)
    (within : ends.middle <:+: tokens) (ran : db.enroute ref ends.middle = .ok state)
    (finished : db.finishRoute depAirport arrAirport ends state = .ok route) :
    db.RealRoute route ∧ db.FollowsTokens tokens route := by
  rw [finishRoute] at finished
  split at finished
  · cases finished
  next someVertices =>
  split at finished
  · cases finished
  next nothingPending =>
  split at finished
  · cases finished
  split at finished
  · cases finished
  cases finished
  rw [not_not] at nothingPending
  have stands : Stands db ref ends.middle state := by
    generalize ends.middle = middle at ran upper
    cases progress_enroute nonneg upper ran with
    | start => exact absurd rfl someVertices
    | fix stands => exact stands
    | @connector tokens before name _ isConnector =>
        have named : name = [] := nothingPending
        rcases isConnector with rfl | ⟨_, listed⟩
        · rw [kDctToken_eq] at named
          cases named
        · exact absurd named (ne_nil_of_findAirway listed)
  exact joinAirports_real stands within

theorem parseBetween_real (nonneg : db.NonNegativeLengths) (upper : forall tok, tok ∈ tokens -> toUpper tok = tok)
    (parsed : db.parseBetween depAirport arrAirport tokens = .ok route) :
    db.RealRoute route ∧ db.FollowsTokens tokens route := by
  rw [parseBetween] at parsed
  split at parsed
  · cases parsed
  next ends recognized =>
  have within := infix_of_recognizeEnds recognized
  split at parsed
  · cases parsed
    exact directRoute_real db depAirport arrAirport
  split at parsed
  · cases parsed
  next state ran => exact finishRoute_real nonneg (fun tok member => upper tok (within.subset member)) within ran parsed

/-- What a parse of tokens gives is real. -/
theorem parseTokens_real (nonneg : db.NonNegativeLengths) (upper : forall tok, tok ∈ tokens -> toUpper tok = tok)
    (parsed : db.parseTokens tokens = .ok route) : db.RealRoute route ∧ db.FollowsTokens tokens route := by
  have part : tokens.tail.dropLast <:+: tokens :=
    (List.dropLast_prefix _).isInfix.trans (List.tail_suffix tokens).isInfix
  unfold parseTokens at parsed
  dsimp only at parsed
  split_ifs at parsed
  rcases parseBetween_real nonneg (fun tok member => upper tok (part.subset member)) parsed with ⟨real, follows⟩
  refine ⟨real, follows.imp_right ?_⟩
  rintro ⟨ref, middle, vertices, legs, dep, arr, depLeg, arrLeg, within, rest⟩
  exact ⟨ref, middle, vertices, legs, dep, arr, depLeg, arrLeg, within.trans part, rest⟩

/-- A parsed route is a real route.  Behind a fix, an airway and a fix are refused
when no path along the airway leads from the one fix to the other, and else the
legs of a shortest path are flown. -/
theorem parseRoute_real (db : NavDatabase R) (nonneg : db.NonNegativeLengths) :
    (forall routeStr route, parseRoute (some db) routeStr = .ok route ->
      db.RealRoute route ∧ db.FollowsTokens (tokenizeRoute routeStr) route) ∧
    forall ref tokens name tok state, (forall other, other ∈ name :: tokens -> toUpper other = other) ->
      db.enroute ref tokens = .ok state -> state.expectFix = false -> name ≠ kDctToken ->
        (db.builder.findAirway name).isSome = true -> 0 ≤ (db.resolveFix tok state.ref).vertex ->
          ExpandsPair db ref tokens name tok state := by
  constructor
  · intro routeStr route parsed
    exact parseTokens_real nonneg (fun tok => toUpper_of_mem_tokenizeRoute) parsed
  · intro ref tokens name tok state upper ran expects airway listed known
    rw [List.forall_mem_cons] at upper
    exact expandsPair nonneg upper.2 upper.1 ran expects airway listed known

end Whole

end NavDatabase

/-! ## An airway that is called `SID` -/

/-- Two waypoints joined one way by an airway, and an airport at either end. -/
def sidBuilder : GraphBuilder ℚ where
  graph :=
    { coords := [⟨0, 17⟩, ⟨0, 18⟩, ⟨0, 16⟩, ⟨0, 19⟩]
      offsets := [0, 1, 1, 1, 1]
      edges := [⟨1, 60, 1, 0, 660, .kBoth⟩]
      offsets_length := oneWayBuilder.graph.offsets_length
      offsets_sorted := oneWayBuilder.graph.offsets_sorted
      offsets_le := by decide
      edges_to := by decide
      vertexCount_lt := by decide }
  idents := [waypointA, waypointB, airportX, airportY]
  hasOutboundFlags := [true, false, false, false]
  hasInboundFlags := [false, true, false, false]
  firstAirportVertex := 2
  airwayNames := [[68, 67, 84], [83, 73, 68]]
  idents_length := oneWayBuilder.idents_length
  firstAirportVertex_le := by decide
  hasOutboundFlags_eq := by decide
  hasInboundFlags_eq := by decide
  waypoint_of_edge := by decide
  airwayId_lt := by decide

namespace NavDatabase

def sidDatabase : NavDatabase ℚ where
  builder := sidBuilder
  earth := lineEarth
  priorityQueue := StdHeap.sorted (fun entry => toLex entry) fun _ _ comes => Prod.Lex.toLex_lt_toLex.mpr comes
  proceduresFor _ := .ok none

/-- `X DCT A SID B DCT Y`. -/
def alongSid : Text := [88, 32, 68, 67, 84, 32, 65, 32, 83, 73, 68, 32, 66, 32, 68, 67, 84, 32, 89]

/-- `X SID A DCT B DCT Y`. -/
def behindSid : Text := [88, 32, 83, 73, 68, 32, 65, 32, 68, 67, 84, 32, 66, 32, 68, 67, 84, 32, 89]

theorem nonNegativeLengths_sid : sidDatabase.NonNegativeLengths := by
  unfold NonNegativeLengths
  decide

theorem exists_of_toOption {E A : Type} {outcome : Except E A} (some : outcome.toOption.isSome = true) :
    exists value, outcome = .ok value := by
  rcases outcome with error | value
  · cases some
  · exact ⟨value, rfl⟩

theorem parseRoute_real_sid : sidDatabase.NonNegativeLengths ∧ exists route,
    parseRoute (some sidDatabase) alongSid = .ok route ∧ sidDatabase.RealRoute route := by
  refine ⟨nonNegativeLengths_sid, ?_⟩
  rcases exists_of_toOption (show (parseRoute (some sidDatabase) alongSid).toOption.isSome = true by decide +kernel) with
    ⟨route, parsed⟩
  exact ⟨route, parsed, ((parseRoute_real sidDatabase nonNegativeLengths_sid).1 alongSid route parsed).1⟩

/-- The leg of a departure procedure is named by a keyword, and an airway may have
that name too. -/
theorem not_airway_of_keyword : sidDatabase.NonNegativeLengths ∧ exists route leg,
    parseRoute (some sidDatabase) behindSid = .ok route ∧ route.legs[0]? = some leg ∧
      (sidDatabase.builder.findAirway leg.via).isSome = true ∧
        ¬ exists u e, sidDatabase.builder.Carries leg.via u e ∧ route.points[0]? = some (sidDatabase.pointAt u) ∧
          route.points[1]? = some (sidDatabase.pointAt e.toVertex) := by
  refine ⟨nonNegativeLengths_sid, ?_⟩
  have outcome : ((parseRoute (some sidDatabase) behindSid).toOption.map fun route =>
      (route.legs[0]?.map RouteLeg.via, route.points[0]?.map RoutePoint.ident)) =
        some (some [83, 73, 68], some [88]) := by decide +kernel
  rcases parsed : parseRoute (some sidDatabase) behindSid with error | route
  · rw [parsed] at outcome
    cases outcome
  rw [parsed] at outcome
  have parts : (route.legs[0]?.map RouteLeg.via, route.points[0]?.map RoutePoint.ident) =
      (some [83, 73, 68], some [88]) := Option.some.inj outcome
  rw [Prod.mk.injEq] at parts
  rcases Option.map_eq_some_iff.mp parts.1 with ⟨leg, isFirst, via⟩
  refine ⟨route, leg, rfl, isFirst, ?_, ?_⟩
  · rw [via]
    decide +kernel
  · rintro ⟨u, e, carries, starts, _⟩
    have named : some (sidDatabase.pointAt u).ident = some [88] := by
      rw [← parts.2, starts]
      rfl
    have isWaypoint := (sidDatabase.builder.waypoint_of_edge u
      ((sidDatabase.builder.graph.mem_vertices u).mpr carries.inRange) e carries.edge).1
    have waypoints : forall v, v ∈ sidBuilder.graph.vertices -> v < 2 -> (sidDatabase.pointAt v).ident ≠ [88] := by
      decide
    exact waypoints u ((sidBuilder.graph.mem_vertices u).mpr carries.inRange) isWaypoint (Option.some.inj named)

end NavDatabase
end BravoFinder
