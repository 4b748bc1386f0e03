import BravoFinder.Navdb.AirwayExpansion

namespace BravoFinder

/-!
# The loop between the airports

After each token the loop stands at a fix or behind a connector.  What it has
emitted is then the row of the fixes that were read, with a leg between each
two: a direct one for `DCT`, and those of a shortest path for an airway.
-/

/-- Points in a row, with a leg between each two. -/
inductive Strung {P L : Type} (joins : P -> L -> P -> Prop) : List P -> List L -> Prop
  | single (p : P) : Strung joins [p] []
  | snoc {points : List P} {last next : P} {legs : List L} {leg : L} :
      Strung joins (points ++ [last]) legs -> joins last leg next ->
        Strung joins (points ++ [last] ++ [next]) (legs ++ [leg])

namespace Strung

variable {P L : Type} {joins : P -> L -> P -> Prop} {points : List P} {legs : List L}

theorem length_eq (strung : Strung joins points legs) : points.length = legs.length + 1 := by
  induction strung with
  | single p => rfl
  | snoc _ _ inductionHypothesis =>
      rw [List.length_append, inductionHypothesis, List.length_append, List.length_singleton, List.length_singleton]

theorem cons (strung : Strung joins points legs) {p first : P} {leg : L} (starts : points.head? = some first)
    (joined : joins p leg first) : Strung joins (p :: points) (leg :: legs) := by
  induction strung with
  | single q =>
      cases starts
      have base : Strung joins ([] ++ [p]) [] := .single p
      exact base.snoc joined
  | @snoc points last next legs later _ joinedLast inductionHypothesis =>
      have nonempty : points ++ [last] ≠ [] := List.append_ne_nil_of_right_ne_nil _ (List.cons_ne_nil _ _)
      rw [List.head?_append_of_ne_nil _ nonempty] at starts
      have whole : Strung joins (p :: points ++ [last]) (leg :: legs) := inductionHypothesis starts
      exact whole.snoc joinedLast

/-- Each leg joins the points on its two sides. -/
theorem between (strung : Strung joins points legs) {index : Nat} {leg : L} (here : legs[index]? = some leg) :
    exists p q, points[index]? = some p ∧ points[index + 1]? = some q ∧ joins p leg q := by
  induction strung with
  | single p => cases here
  | @snoc points last next legs later strung joinedLast inductionHypothesis =>
      have size := strung.length_eq
      rw [List.length_append, List.length_singleton, Nat.add_right_cancel_iff] at size
      rcases Nat.lt_or_ge index legs.length with before | after
      · rw [List.getElem?_append_left before] at here
        rcases inductionHypothesis here with ⟨p, q, atStart, atEnd, joined⟩
        have room : index + 1 < (points ++ [last]).length := (List.getElem?_eq_some_iff.mp atEnd).1
        refine ⟨p, q, ?_, ?_, joined⟩
        · rw [List.getElem?_append_left (Nat.lt_of_succ_lt room), atStart]
        · rw [List.getElem?_append_left room, atEnd]
      · rw [List.getElem?_append_right after] at here
        have isLast : index = legs.length := by
          have bound := (List.getElem?_eq_some_iff.mp here).1
          rw [List.length_singleton] at bound
          omega
        subst isLast
        rw [Nat.sub_self] at here
        cases here
        refine ⟨last, next, ?_, ?_, joinedLast⟩
        · rw [← size, List.append_assoc, List.getElem?_append_right (Nat.le_refl _), Nat.sub_self]
          rfl
        · rw [← size, List.getElem?_append_right (by rw [List.length_append, List.length_singleton]),
            List.length_append, List.length_singleton, Nat.sub_self]
          rfl

theorem of_mem (strung : Strung joins points legs) {leg : L} (member : leg ∈ legs) : exists p q, joins p leg q := by
  rcases List.mem_iff_getElem?.mp member with ⟨index, here⟩
  rcases strung.between here with ⟨p, q, _, _, joined⟩
  exact ⟨p, q, joined⟩

end Strung

namespace NavDatabase

variable {R : Type} [Field R] [LinearOrder R]

/-- A leg from one point to another: direct, a procedure, or an edge of the
airway it names. -/
structure JoinsPoints (db : NavDatabase R) (p : RoutePoint R) (leg : RouteLeg R) (q : RoutePoint R) : Prop where
  starts : leg.fromIdent = p.ident
  ends : leg.toIdent = q.ident
  measured : leg.distanceNm = db.earth.distanceTo p.coord q.coord
  connector : leg.via = kDctToken ∨ leg.via = kSidToken ∨ leg.via = kStarToken ∨
    exists u e, db.builder.Carries leg.via u e ∧ p = db.pointAt u ∧ q = db.pointAt e.toVertex
  alone : leg.concurrentAirways = []

/-- The legs of a path that is flown under one name. -/
def legsAlong (db : NavDatabase R) (via : Text) : Int -> List Int -> List (RouteLeg R)
  | _, [] => []
  | source, v :: rest => db.legTo source v via :: legsAlong db via v rest

/-- What the tokens so far stand for: the fixes, and the legs between them.  Each
fix is looked up near the one before. -/
inductive Flown (db : NavDatabase R) (ref : Coordinate R) : List Text -> List Int -> List (RouteLeg R) -> Prop
  | first {token : Text} : 0 ≤ (db.resolveFix token ref).vertex ->
      Flown db ref [token] [(db.resolveFix token ref).vertex] []
  | direct {tokens : List Text} {before : List Int} {u v : Int} {legs : List (RouteLeg R)} {token : Text} :
      Flown db ref tokens (before ++ [u]) legs -> (db.resolveFix token (db.builder.graph.coordOf u)).vertex = v ->
        0 ≤ v -> Flown db ref (tokens ++ [kDctToken, token]) (before ++ [u] ++ [v]) (legs ++ [db.legTo u v kDctToken])
  | airway {tokens : List Text} {before path : List Int} {u v : Int} {legs : List (RouteLeg R)} {name token : Text} :
      Flown db ref tokens (before ++ [u]) legs -> (db.resolveFix token (db.builder.graph.coordOf u)).vertex = v ->
        0 ≤ v -> name ≠ kDctToken -> (db.builder.findAirway name).isSome = true -> v ≠ u ->
          db.ShortestOnAirway name u v path ->
            Flown db ref (tokens ++ [name, token]) (before ++ [u] ++ path) (legs ++ db.legsAlong name u path)

variable {db : NavDatabase R}

theorem legsAlong_concat (via : Text) (source : Int) (path : List Int) (v : Int) :
    db.legsAlong via source (path ++ [v]) =
      db.legsAlong via source path ++ [db.legTo (path.getLastD source) v via] := by
  induction path generalizing source with
  | nil => rfl
  | cons next rest inductionHypothesis =>
      rw [List.cons_append, legsAlong, legsAlong, inductionHypothesis, List.cons_append, List.getLastD_cons]

theorem joinsPoints_legTo (u v : Int) {via : Text}
    (connector : via = kDctToken ∨ exists e, db.builder.Carries via u e ∧ e.toVertex = v) :
    db.JoinsPoints (db.pointAt u) (db.legTo u v via) (db.pointAt v) where
  starts := rfl
  ends := rfl
  measured := rfl
  connector := by
    rcases connector with direct | ⟨e, carries, rfl⟩
    · exact .inl direct
    · exact .inr (.inr (.inr ⟨u, e, carries, rfl, rfl⟩))
  alone := rfl

theorem AirwayPath.exists_concat {name : Text} {u v : Int} {path : List Int} {nm : R}
    (walk : AirwayPath db name u path v nm) : exists before, u :: path = before ++ [v] := by
  cases walk with
  | start => exact ⟨[], rfl⟩
  | @step path _ _ e _ _ => exact ⟨u :: path, rfl⟩

/-- The legs of an airway go on from the point they start at. -/
theorem strung_along {name : Text} {u v : Int} {path : List Int} {nm : R} (walk : AirwayPath db name u path v nm)
    {points : List (RoutePoint R)} {legs : List (RouteLeg R)}
    (strung : Strung db.JoinsPoints (points ++ [db.pointAt u]) legs) :
    Strung db.JoinsPoints (points ++ [db.pointAt u] ++ path.map db.pointAt) (legs ++ db.legsAlong name u path) := by
  induction walk with
  | start => rwa [List.map_nil, List.append_nil, legsAlong, List.append_nil]
  | @step path v nm e walk carries inductionHypothesis =>
      rcases walk.exists_concat with ⟨before, ends⟩
      have row : points ++ [db.pointAt u] ++ path.map db.pointAt =
          points ++ before.map db.pointAt ++ [db.pointAt v] := by
        rw [List.append_assoc, List.append_assoc, List.singleton_append, ← List.map_cons, ends, List.map_append]
        rfl
      rw [row] at inductionHypothesis
      rw [List.map_append, ← List.append_assoc, row, legsAlong_concat, walk.getLastD, ← List.append_assoc]
      exact inductionHypothesis.snoc (joinsPoints_legTo v e.toVertex (.inr ⟨e, carries, rfl⟩))

/-- What was flown is a row of points. -/
theorem Flown.strung {ref : Coordinate R} {tokens : List Text} {vertices : List Int} {legs : List (RouteLeg R)}
    (flown : Flown db ref tokens vertices legs) : Strung db.JoinsPoints (vertices.map db.pointAt) legs := by
  induction flown with
  | first _ => exact .single _
  | @direct tokens before u v legs token _ _ _ inductionHypothesis =>
      rw [List.map_append, List.map_singleton] at inductionHypothesis
      rw [List.map_append, List.map_append, List.map_singleton, List.map_singleton]
      exact inductionHypothesis.snoc (joinsPoints_legTo u v (.inl rfl))
  | @airway tokens before path u v legs name token _ _ _ _ _ _ shortest inductionHypothesis =>
      rcases shortest with ⟨nm, walk, _⟩
      rw [List.map_append, List.map_singleton] at inductionHypothesis
      rw [List.map_append, List.map_append, List.map_singleton]
      exact strung_along walk inductionHypothesis

/-! ## Hops -/

/-- What the hops of one airway add. -/
structure Advanced (db : NavDatabase R) (via : Text) (path : List Int) (state next : ParseState R) : Prop where
  points : next.points = state.points ++ path.map db.pointAt
  legs : next.legs = state.legs ++ db.legsAlong via state.prevVertex path
  pointVertices : next.pointVertices = state.pointVertices ++ path
  prevVertex : next.prevVertex = path.getLastD state.prevVertex
  ref : path ≠ [] -> next.ref = db.builder.graph.coordOf next.prevVertex
  total : next.totalDistanceNm =
    state.totalDistanceNm + ((db.legsAlong via state.prevVertex path).map RouteLeg.distanceNm).sum

theorem advanced_foldl (via : Text) (path : List Int) (state : ParseState R) :
    Advanced db via path state (path.foldl (db.addHop via) state) := by
  induction path generalizing state with
  | nil =>
      refine ⟨?_, ?_, ?_, rfl, fun absurdity => absurd rfl absurdity, ?_⟩
      · rw [List.map_nil, List.append_nil, List.foldl_nil]
      · rw [legsAlong, List.append_nil, List.foldl_nil]
      · rw [List.append_nil, List.foldl_nil]
      · rw [legsAlong, List.map_nil, List.sum_nil, add_zero, List.foldl_nil]
  | cons v rest inductionHypothesis =>
      have later := inductionHypothesis (db.addHop via state v)
      rw [List.foldl_cons]
      refine ⟨?_, ?_, ?_, ?_, fun _ => ?_, ?_⟩
      · rw [later.points, addHop, addPoint, addLeg, List.map_cons, List.append_assoc, List.singleton_append]
      · rw [later.legs, addHop, addPoint, addLeg, legsAlong, List.append_assoc, List.singleton_append]
      · rw [later.pointVertices, addHop, addPoint, addLeg, List.append_assoc, List.singleton_append]
      · rw [later.prevVertex, List.getLastD_cons]
        rfl
      · rcases rest with _ | ⟨next, more⟩
        · rfl
        · exact later.ref (List.cons_ne_nil _ _)
      · rw [later.total, addHop, addPoint, addLeg, legsAlong, List.map_cons, List.sum_cons, ← add_assoc]

/-! ## The loop -/

/-- Behind a fix. -/
structure Stands (db : NavDatabase R) (ref : Coordinate R) (tokens : List Text) (state : ParseState R) : Prop where
  expects : state.expectFix = false
  pending : state.pendingConnector = []
  flown : Flown db ref tokens state.pointVertices state.legs
  points : state.points = state.pointVertices.map db.pointAt
  last : exists before, state.pointVertices = before ++ [state.prevVertex]
  inRange : db.builder.graph.InRange state.prevVertex
  ref_eq : state.ref = db.builder.graph.coordOf state.prevVertex
  total : state.totalDistanceNm = (state.legs.map RouteLeg.distanceNm).sum

/-- Where the loop can stand after some tokens. -/
inductive Progress (db : NavDatabase R) (ref : Coordinate R) : List Text -> ParseState R -> Prop
  | start : Progress db ref [] (startAt ref)
  | fix {tokens : List Text} {state : ParseState R} : Stands db ref tokens state -> Progress db ref tokens state
  | connector {tokens : List Text} {state : ParseState R} {name : Text} : Stands db ref tokens state ->
      name = kDctToken ∨ (name ≠ kDctToken ∧ (db.builder.findAirway name).isSome = true) ->
        Progress db ref (tokens ++ [name]) { state with pendingConnector := name, expectFix := true }

/-- The first fix. -/
theorem stands_first {ref : Coordinate R} {tok : Text} (known : 0 ≤ (db.resolveFix tok ref).vertex) :
    Stands db ref [tok] (fixSeen (db.addPoint (startAt ref) (db.resolveFix tok ref).vertex)) where
  expects := rfl
  pending := rfl
  flown := .first known
  points := rfl
  last := ⟨[], rfl⟩
  inRange := (resolveFix_spec known).1
  ref_eq := rfl
  total := rfl

section Fix

variable {ref : Coordinate R} {tokens : List Text} {state : ParseState R} {name tok : Text}

/-- A direct leg to the next fix. -/
theorem Stands.direct (stands : Stands db ref tokens state) (known : 0 ≤ (db.resolveFix tok state.ref).vertex) :
    Stands db ref (tokens ++ [kDctToken, tok]) (fixSeen (db.addPoint
      (addLeg { state with pendingConnector := kDctToken, expectFix := true }
        (db.legTo state.prevVertex (db.resolveFix tok state.ref).vertex kDctToken))
      (db.resolveFix tok state.ref).vertex)) where
  expects := rfl
  pending := rfl
  flown := by
    rcases stands.last with ⟨before, ends⟩
    have flown := stands.flown
    rw [ends] at flown
    show Flown db ref _ (state.pointVertices ++ _) (state.legs ++ _)
    rw [ends]
    exact .direct flown (by rw [stands.ref_eq]) known
  points := by
    show state.points ++ _ = (state.pointVertices ++ _).map db.pointAt
    rw [stands.points, List.map_append, List.map_singleton]
  last := ⟨state.pointVertices, rfl⟩
  inRange := (resolveFix_spec known).1
  ref_eq := rfl
  total := by
    show state.totalDistanceNm + _ = ((state.legs ++ _).map RouteLeg.distanceNm).sum
    rw [stands.total, List.map_append, List.sum_append, List.map_singleton, List.sum_singleton]

/-- The legs of an airway to the next fix. -/
theorem Stands.airway (stands : Stands db ref tokens state) (known : 0 ≤ (db.resolveFix tok state.ref).vertex)
    (airway : name ≠ kDctToken) (listed : (db.builder.findAirway name).isSome = true) {path : List Int}
    (shortest : db.ShortestOnAirway name state.prevVertex (db.resolveFix tok state.ref).vertex path)
    (nonempty : path ≠ []) (other : (db.resolveFix tok state.ref).vertex ≠ state.prevVertex) :
    Stands db ref (tokens ++ [name, tok])
      (fixSeen (path.foldl (db.addHop name) { state with pendingConnector := name, expectFix := true })) := by
  have advanced : Advanced db name path { state with pendingConnector := name, expectFix := true }
      (path.foldl (db.addHop name) { state with pendingConnector := name, expectFix := true }) :=
    advanced_foldl name path _
  generalize path.foldl (db.addHop name) { state with pendingConnector := name, expectFix := true } = next at advanced
  rcases shortest with ⟨nm, walk, least⟩
  have last : next.prevVertex = (db.resolveFix tok state.ref).vertex := by
    rw [advanced.prevVertex]
    exact walk.getLastD
  constructor
  case expects => rfl
  case pending => rfl
  case flown =>
    rcases stands.last with ⟨before, ends⟩
    have flown := stands.flown
    rw [ends] at flown
    show Flown db ref _ next.pointVertices next.legs
    rw [advanced.pointVertices, advanced.legs, ends]
    exact .airway flown (by rw [stands.ref_eq]) known airway listed other ⟨nm, walk, least⟩
  case points =>
    show next.points = next.pointVertices.map db.pointAt
    rw [advanced.points, advanced.pointVertices, stands.points, List.map_append]
  case last =>
    show exists before, next.pointVertices = before ++ [next.prevVertex]
    rcases stands.last with ⟨before, ends⟩
    rcases walk.exists_concat with ⟨more, concat⟩
    refine ⟨before ++ more, ?_⟩
    rw [advanced.pointVertices, last]
    show state.pointVertices ++ path = _
    rw [ends, List.append_assoc, List.singleton_append, concat, List.append_assoc]
  case inRange =>
    show db.builder.graph.InRange next.prevVertex
    rw [last]
    exact (resolveFix_spec known).1
  case ref_eq => exact advanced.ref nonempty
  case total =>
    show next.totalDistanceNm = (next.legs.map RouteLeg.distanceNm).sum
    rw [advanced.total, advanced.legs, stands.total, List.map_append, List.sum_append]

omit [Field R] [LinearOrder R] in
/-- No airway has an empty name. -/
theorem ne_nil_of_findAirway {builder : GraphBuilder R} (listed : (builder.findAirway name).isSome = true) :
    name ≠ [] := by
  rintro rfl
  rcases (GraphBuilder.isSome_findAirway_iff (Nat.zero_le _)).mp listed with ⟨u, e, carries⟩
  exact (clean_of_mem_splitPieces _ [] List.not_mem_nil carries.named).1 rfl

/-- A connector behind a fix. -/
theorem Stands.takeToken (stands : Stands db ref tokens state) (upper : toUpper name = name) :
    db.takeToken state name =
      if name = kDctToken ∨ (db.builder.findAirway name).isSome = true then
        .ok { state with pendingConnector := name, expectFix := true }
      else .error (parseError (ofString "two consecutive fixes '" ++ name ++
        ofString "' with no connector (expected DCT or airway)")) := by
  rw [NavDatabase.takeToken, stands.expects, if_neg Bool.false_ne_true, takeConnector, upper]
  by_cases direct : name = kDctToken
  · rw [if_pos direct, if_pos (.inl direct), direct]
  · simp only [direct, false_or, if_false]

/-- The first fix. -/
theorem takeToken_first (known : 0 ≤ (db.resolveFix tok (startAt ref).ref).vertex) :
    db.takeToken (startAt ref) tok =
      .ok (fixSeen (db.addPoint (startAt ref) (db.resolveFix tok (startAt ref).ref).vertex)) := by
  have nothing : (startAt ref).prevVertex < 0 := Int.negSucc_lt_zero 0
  have expects : (startAt ref).expectFix = true := rfl
  rw [NavDatabase.takeToken, if_pos expects, takeFix]
  dsimp only
  rw [if_neg (not_lt.mpr known), if_pos nothing]

/-- A fix behind `DCT`. -/
theorem Stands.takeDirect (stands : Stands db ref tokens state) (known : 0 ≤ (db.resolveFix tok state.ref).vertex) :
    db.takeToken { state with pendingConnector := kDctToken, expectFix := true } tok =
      .ok (fixSeen (db.addPoint (addLeg { state with pendingConnector := kDctToken, expectFix := true }
        (db.legTo state.prevVertex (db.resolveFix tok state.ref).vertex kDctToken))
        (db.resolveFix tok state.ref).vertex)) := by
  rw [NavDatabase.takeToken, if_pos rfl, takeFix]
  dsimp only
  rw [if_neg (not_lt.mpr known), if_neg (not_lt.mpr stands.inRange.1), if_pos (.inl rfl), (resolveFix_spec known).2]
  rfl

/-- A fix behind an airway. -/
theorem Stands.takeAirway (stands : Stands db ref tokens state) (known : 0 ≤ (db.resolveFix tok state.ref).vertex)
    (airway : name ≠ kDctToken) (listed : (db.builder.findAirway name).isSome = true) :
    db.takeToken { state with pendingConnector := name, expectFix := true } tok =
      if db.expandAirway name state.prevVertex (db.resolveFix tok state.ref).vertex = [] then
        .error (parseError (ofString "airway '" ++ name ++ ofString "' does not connect " ++
          (db.builder.identOf state.prevVertex).ident ++ ofString " to " ++ tok))
      else .ok (fixSeen ((db.expandAirway name state.prevVertex (db.resolveFix tok state.ref).vertex).foldl
        (db.addHop name) { state with pendingConnector := name, expectFix := true })) := by
  rw [NavDatabase.takeToken, if_pos rfl, takeFix]
  dsimp only
  rw [if_neg (not_lt.mpr known), if_neg (not_lt.mpr stands.inRange.1),
    if_neg (not_or.mpr ⟨airway, ne_nil_of_findAirway listed⟩)]

/-- A token that is no fix where one is expected. -/
theorem takeToken_unknown (expects : state.expectFix = true) (unknown : (db.resolveFix tok state.ref).vertex < 0) :
    db.takeToken state tok = .error (parseError (ofString "token '" ++ tok ++
      ofString "' is not a known waypoint at this position")) := by
  rw [NavDatabase.takeToken, if_pos expects, takeFix]
  dsimp only
  rw [if_pos unknown]

variable [IsStrictOrderedRing R]

/-- One token. -/
theorem Progress.takeToken (nonneg : db.NonNegativeLengths) (progress : Progress db ref tokens state)
    (upper : toUpper tok = tok) {next : ParseState R} (ran : db.takeToken state tok = .ok next) :
    Progress db ref (tokens ++ [tok]) next := by
  cases progress with
  | start =>
      have expects : (startAt ref).expectFix = true := rfl
      rcases lt_or_ge (db.resolveFix tok (startAt ref).ref).vertex 0 with unknown | known
      · rw [takeToken_unknown expects unknown] at ran
        cases ran
      · rw [takeToken_first known] at ran
        cases ran
        exact .fix (stands_first known)
  | fix stands =>
      rw [stands.takeToken upper] at ran
      split at ran
      next isConnector =>
        cases ran
        refine .connector stands ?_
        by_cases direct : tok = kDctToken
        · exact .inl direct
        · exact .inr ⟨direct, isConnector.resolve_left direct⟩
      next => cases ran
  | @connector tokens state name stands isConnector =>
      rw [List.append_assoc, List.singleton_append]
      rcases lt_or_ge (db.resolveFix tok state.ref).vertex 0 with unknown | known
      · have refused : db.takeToken { state with pendingConnector := name, expectFix := true } tok = .error _ :=
          takeToken_unknown rfl unknown
        rw [refused] at ran
        cases ran
      · rcases isConnector with rfl | ⟨airway, listed⟩
        · rw [stands.takeDirect known] at ran
          cases ran
          exact .fix (stands.direct known)
        · rw [stands.takeAirway known airway listed] at ran
          rcases expandAirway_spec name (db.resolveFix tok state.ref).vertex nonneg
            stands.inRange with ⟨empty, shortest⟩
          split at ran
          next => cases ran
          next nonempty =>
            cases ran
            have other := (not_or.mp (empty.not.mp nonempty)).1
            exact .fix (stands.airway known airway listed (shortest nonempty) nonempty other)

omit [IsStrictOrderedRing R] in
theorem enroute_concat (db : NavDatabase R) (ref : Coordinate R) (tokens more : List Text) :
    db.enroute ref (tokens ++ more) = (db.enroute ref tokens).bind fun state => more.foldlM db.takeToken state := by
  rw [enroute, List.foldlM_append]
  rfl

/-- All tokens. -/
theorem progress_enroute (nonneg : db.NonNegativeLengths) (upper : forall tok, tok ∈ tokens -> toUpper tok = tok)
    (ran : db.enroute ref tokens = .ok state) : Progress db ref tokens state := by
  induction tokens using List.reverseRecOn generalizing state with
  | nil =>
      cases ran
      exact .start
  | append_singleton before tok inductionHypothesis =>
      rw [enroute_concat] at ran
      rcases first : db.enroute ref before with error | between
      · rw [first] at ran
        cases ran
      · rw [first] at ran
        have step : db.takeToken between tok = .ok state := by
          simp only [Except.bind, List.foldlM_cons, List.foldlM_nil, bind_pure] at ran
          exact ran
        refine (inductionHypothesis (fun other member => ?_) first).takeToken nonneg (upper tok ?_) step
        · exact upper other (List.mem_append_left _ member)
        · exact List.mem_append_right _ List.mem_cons_self

/-- Behind a fix, the loop stands at the vertex it has read. -/
theorem stands_of_enroute (nonneg : db.NonNegativeLengths) (upper : forall tok, tok ∈ tokens -> toUpper tok = tok)
    (ran : db.enroute ref tokens = .ok state) (expects : state.expectFix = false) : Stands db ref tokens state := by
  cases progress_enroute nonneg upper ran with
  | start => cases expects
  | fix stands => exact stands
  | connector _ _ => cases expects

/-- What an airway and a fix add to the route: they are refused when no path along
the airway leads from the previous fix to another one, and else a shortest path is
flown. -/
structure ExpandsPair (db : NavDatabase R) (ref : Coordinate R) (tokens : List Text) (name tok : Text)
    (state : ParseState R) : Prop where
  refused : (exists error, db.enroute ref (tokens ++ [name, tok]) = .error error) ↔
    (db.resolveFix tok state.ref).vertex = state.prevVertex ∨
      ¬ db.Connects name state.prevVertex (db.resolveFix tok state.ref).vertex
  /-- A parse that refuses the pair fails, whatever follows. -/
  fails : forall more, (exists error, db.enroute ref (tokens ++ [name, tok]) = .error error) ->
    exists error, db.enroute ref (tokens ++ [name, tok] ++ more) = .error error
  flies : forall next, db.enroute ref (tokens ++ [name, tok]) = .ok next -> exists path,
    db.ShortestOnAirway name state.prevVertex (db.resolveFix tok state.ref).vertex path ∧
      next.legs = state.legs ++ db.legsAlong name state.prevVertex path ∧
        next.points = state.points ++ path.map db.pointAt

theorem expandsPair (nonneg : db.NonNegativeLengths) (upper : forall tok, tok ∈ tokens -> toUpper tok = tok)
    (upperName : toUpper name = name) (ran : db.enroute ref tokens = .ok state) (expects : state.expectFix = false)
    (airway : name ≠ kDctToken) (listed : (db.builder.findAirway name).isSome = true)
    (known : 0 ≤ (db.resolveFix tok state.ref).vertex) : ExpandsPair db ref tokens name tok state := by
  have stands := stands_of_enroute nonneg upper ran expects
  have both : db.enroute ref (tokens ++ [name, tok]) =
      db.takeToken { state with pendingConnector := name, expectFix := true } tok := by
    rw [enroute_concat, ran, Except.bind, List.foldlM_cons, stands.takeToken upperName, if_pos (.inr listed)]
    show List.foldlM db.takeToken { state with pendingConnector := name, expectFix := true } [tok] = _
    simp only [List.foldlM_cons, List.foldlM_nil, bind_pure]
  rcases expandAirway_spec name (db.resolveFix tok state.ref).vertex nonneg stands.inRange with
    ⟨empty, shortest⟩
  constructor
  case refused =>
    rw [both, stands.takeAirway known airway listed, ← empty]
    split
    next nothing => exact iff_of_true ⟨_, rfl⟩ nothing
    next something =>
      refine iff_of_false ?_ something
      rintro ⟨error, absurdity⟩
      cases absurdity
  case fails =>
    rintro more ⟨error, failed⟩
    exact ⟨error, by rw [enroute_concat, failed, Except.bind]⟩
  case flies =>
    intro next flown
    rw [both, stands.takeAirway known airway listed] at flown
    split at flown
    next => cases flown
    next something =>
      cases flown
      have advanced : Advanced db name (db.expandAirway name state.prevVertex (db.resolveFix tok state.ref).vertex)
          { state with pendingConnector := name, expectFix := true }
          ((db.expandAirway name state.prevVertex (db.resolveFix tok state.ref).vertex).foldl (db.addHop name)
            { state with pendingConnector := name, expectFix := true }) :=
        advanced_foldl name _ _
      exact ⟨_, shortest something, advanced.legs, advanced.points⟩

end Fix

end NavDatabase
end BravoFinder
