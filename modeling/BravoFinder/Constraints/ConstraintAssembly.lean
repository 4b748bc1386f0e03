import BravoFinder.Build.IndexScans
import BravoFinder.Build.NearestOnNetwork
import BravoFinder.Constraints.AirwayRule
import BravoFinder.Constraints.MoraConstraint
import BravoFinder.Core.Result
import Mathlib.Algebra.Order.BigOperators.Group.List

namespace BravoFinder

/-!
# The constraints of a request

`ConstraintAssembly::Build` turns a request into the chain of constraints that
the search evaluates on every edge.  Each constraint is for one wish of the
request, and is left out when the request does not have it.  What the chain
means as a whole is stated below without any constraint: which edges a request
permits, and what fraction of its length an edge is charged on top.
-/

/-! ## The constraints -/

section Constraints

variable {R : Type}

/-- `AltitudeBandConstraint`.  A bound of 0 is open. -/
def altitudeBand [Zero R] : Constraint R := fun context request =>
  match request.altitude with
  | none => .allow
  | some range =>
      if context.edge.baseFl ≠ 0 ∧ range.maxFl < context.edge.baseFl then .block
      else if context.edge.topFl ≠ 0 ∧ context.edge.topFl < range.minFl then .block
      else .allow

/-- `MoraConstraint`. -/
def moraConstraint [Field R] [LinearOrder R] [FloorRing R] (grid : MoraGrid) (greatCircle : GreatCircle R) :
    Constraint R := fun context request =>
  match request.altitude with
  | none => .allow
  | some range =>
      let mora := maxMoraAlongLeg grid greatCircle context.fromCoord context.toCoord
      if mora = 0 then .allow
      else if range.maxFl < mora then .block
      else .allow

/-- `kDefaultPenaltyFraction`. -/
def kDefaultPenaltyFraction [NatCast R] [Div R] : R := Nat.cast 1 / Nat.cast 2

/-- `LevelPreferenceConstraint`. -/
def levelPreference [Zero R] [NatCast R] [Mul R] [Div R] : Constraint R := fun context request =>
  if request.level = .kNone then .allow
  else if context.edge.level = .kBoth then .allow
  else if decide (context.edge.level = .kHigh) = decide (request.level = .kHigh) then .allow
  else .penalize (context.edge.distanceNm * kDefaultPenaltyFraction)

/-- `AvoidWaypointConstraint`, which sorts what it is given. -/
def avoidWaypoint [Zero R] (vertices : List Int) : Constraint R :=
  let sorted := SortedVector.ofList vertices
  fun context _ => if sorted.binarySearch context.edge.toVertex then .block else .allow

/-- `Hash01`, before the division. -/
def hashBits (seed : BitVec 32) (source target : Int) (airwayId : Nat) : BitVec 53 :=
  let x := (seed.setWidth 64 <<< 32) ||| (BitVec.ofInt 32 target).setWidth 64
  let x := x + 0x9e3779b97f4a7c15#64
  let x := (x ^^^ (x >>> 30)) * 0xbf58476d1ce4e5b9#64
  let x := x ^^^ ((BitVec.ofNat 16 airwayId).setWidth 64 + 0x9e3779b97f4a7c15#64)
  let x := (x ^^^ (x >>> 27)) * 0x94d049bb133111eb#64
  let x := x ^^^ ((BitVec.ofInt 32 source).setWidth 64 + 0x9e3779b97f4a7c15#64)
  let x := (x ^^^ (x >>> 30)) * 0xbf58476d1ce4e5b9#64
  let x := x ^^^ (x >>> 31)
  (x >>> 11).setWidth 53

/-- `Hash01`. -/
def hash01 [NatCast R] [Div R] (seed : BitVec 32) (source target : Int) (airwayId : Nat) : R :=
  Nat.cast (hashBits seed source target airwayId).toNat / Nat.cast (2 ^ 53)

/-- `kDefaultEps`. -/
def kDefaultEps [NatCast R] [Div R] : R := Nat.cast 5 / Nat.cast 100

/-- `RandomizeConstraint`. -/
def randomize [NatCast R] [Mul R] [Div R] (seed : BitVec 32) : Constraint R := fun context _ =>
  .penalize (context.edge.distanceNm * kDefaultEps *
    hash01 seed context.source context.edge.toVertex context.edge.airwayId)

end Constraints

/-! ## The assembly -/

section Assembly

variable {R : Type}

/-- The vertices of one entry of `avoid_waypoints`. -/
def avoidedBy (builder : GraphBuilder R) (raw : Text) : List Int :=
  let up := toUpper raw
  if up.contains 47 then
    (builder.verticesByIdent (up.takeWhile (· ≠ 47))).filter fun v =>
      builder.regionOf v == (up.dropWhile (· ≠ 47)).tail
  else builder.verticesByIdent up

/-- `ResolveAvoidVertices`. -/
def resolveAvoidVertices (builder : GraphBuilder R) (avoidWaypoints : List Text) : SortedVector Int :=
  SortedVector.ofList (avoidWaypoints.flatMap (avoidedBy builder))

/-- `ConstraintBundle`.  The chain owns its constraints. -/
structure ConstraintBundle (R : Type) where
  options : SearchOptions R
  avoidVertices : SortedVector Int

variable [Field R] [LinearOrder R] [FloorRing R]

/-- The chain, in the order in which it is pushed. -/
def constraintChain (request : RouteRequest R) (builder : GraphBuilder R) (grid : MoraGrid)
    (greatCircle : GreatCircle R) (avoidVertices : SortedVector Int) : List (Constraint R) :=
  (if request.altitude.isSome then [altitudeBand, moraConstraint grid greatCircle] else []) ++
  (if request.level ≠ .kNone then [levelPreference] else []) ++
  (if request.avoidWaypoints.isEmpty then [] else [avoidWaypoint avoidVertices.elems]) ++
  (if request.airwayRules.isEmpty then []
    else [fun context _ => (resolveAirwayRules builder request.airwayRules).evaluate context]) ++
  match request.randomSeed with
  | none => []
  | some seed => [randomize seed]

/-- `ConstraintAssembly::Build`. -/
def buildConstraints (request : RouteRequest R) (builder : GraphBuilder R) (grid : MoraGrid)
    (greatCircle : GreatCircle R) : Except Error (ConstraintBundle R) :=
  let avoidVertices := resolveAvoidVertices builder request.avoidWaypoints
  if kMaxRules < request.airwayRules.length then
    .error ⟨.kRouteParseError, ofString "too many airway rules (max " ++ decimal kMaxRules ++
      ofString "); note one rule may list any number of regions and designators"⟩
  else
    .ok
      { options :=
          { constraints := constraintChain request builder grid greatCircle avoidVertices
            request := some request
            turnPenalty := ⟨true⟩
            nodeFilter := ⟨builder.firstAirportVertex, builder.graph.vertexCount, none⟩
            edgeFilter := .none }
        avoidVertices := avoidVertices }

end Assembly

/-! ## What a request wants -/

section Wishes

variable {R : Type}

/-- A waypoint is meant by an entry: its identifier stands alone, or before a slash
and its region. -/
def GraphBuilder.Means (builder : GraphBuilder R) (raw : Text) (v : Int) : Prop :=
  (toUpper raw).contains 47 = false ∧ builder.WaypointNamed (toUpper raw) v ∨
    (toUpper raw).contains 47 = true ∧ builder.WaypointNamed ((toUpper raw).takeWhile (· ≠ 47)) v ∧
      builder.regionOf v = ((toUpper raw).dropWhile (· ≠ 47)).tail

/-- A level of the range lies in the band of the edge, where 0 is no bound. -/
def FlRange.Overlaps (range : FlRange) (edge : GraphEdge R) : Prop :=
  (edge.baseFl = 0 ∨ edge.baseFl ≤ range.maxFl) ∧ (edge.topFl = 0 ∨ range.minFl ≤ edge.topFl)

/-- What a request permits on an edge. -/
structure Permits [Field R] [LinearOrder R] [FloorRing R] (request : RouteRequest R) (builder : GraphBuilder R)
    (grid : MoraGrid) (greatCircle : GreatCircle R) (source : Int) (edge : GraphEdge R) : Prop where
  band : forall range, request.altitude = some range -> range.Overlaps edge
  /-- The top of the range clears the terrain along the leg, where it is known. -/
  terrain : forall range, request.altitude = some range ->
    maxMoraAlongLeg grid greatCircle (builder.graph.coordOf source) (builder.graph.coordOf edge.toVertex) = 0 ∨
      maxMoraAlongLeg grid greatCircle (builder.graph.coordOf source) (builder.graph.coordOf edge.toVertex) ≤ range.maxFl
  avoided : forall raw, raw ∈ request.avoidWaypoints -> ¬ builder.Means raw edge.toVertex
  rules : forall rule, rule ∈ request.airwayRules -> rule.action = .kBlock -> ¬ rule.Matches builder source edge

/-- An edge of the level that is not preferred. -/
def OffLevel (request : RouteRequest R) (edge : GraphEdge R) : Prop :=
  request.level ≠ .kNone ∧ edge.level ≠ .kBoth ∧ ¬ (edge.level = .kHigh ↔ request.level = .kHigh)

instance (request : RouteRequest R) (edge : GraphEdge R) : Decidable (OffLevel request edge) :=
  inferInstanceAs (Decidable (_ ∧ _ ∧ _))

/-- The fraction of its length that an edge is charged on top. -/
def chargedFraction [Field R] [LinearOrder R] (request : RouteRequest R) (builder : GraphBuilder R) (source : Int)
    (edge : GraphEdge R) : R :=
  (if OffLevel request edge then kDefaultPenaltyFraction else 0) +
  ((request.airwayRules.filter fun rule =>
    decide (rule.action = .kPenalize ∧ rule.Matches builder source edge)).map fun rule => max 0 rule.penaltyFraction).sum +
  (request.randomSeed.elim 0 fun seed => kDefaultEps * hash01 seed source edge.toVertex edge.airwayId)

end Wishes

/-! ## Chains -/

section Chains

variable {R : Type} [AddCommMonoid R] {context : EdgeContext R} {request : RouteRequest R}

/-- A chain allows what all its constraints allow, and adds up what they charge. -/
theorem evaluateChain_eq_some_iff (chain : List (Constraint R)) (extra total : R) :
    evaluateChain context request chain extra = some total ↔
      (forall constraint, constraint ∈ chain -> (constraint context request).allowed = true) ∧
        total = extra + (chain.map fun constraint => (constraint context request).extraCost).sum := by
  induction chain generalizing extra with
  | nil =>
      rw [evaluateChain, List.map_nil, List.sum_nil, add_zero, Option.some.injEq, and_iff_right (List.forall_mem_nil _),
        eq_comm]
  | cons constraint rest inductionHypothesis =>
      rw [evaluateChain, List.forall_mem_cons, List.map_cons, List.sum_cons, ← add_assoc]
      by_cases allowed : (constraint context request).allowed = true
      · simp only [allowed, if_true, inductionHypothesis, true_and]
      · simp only [allowed, if_false, reduceCtorEq, false_and]

/-- A part of a chain, and what it is for: to permit something, at a cost. -/
structure Decides (context : EdgeContext R) (request : RouteRequest R) (part : List (Constraint R)) (permits : Prop)
    (cost : R) : Prop where
  allowed : (forall constraint, constraint ∈ part -> (constraint context request).allowed = true) ↔ permits
  charged : permits -> (part.map fun constraint => (constraint context request).extraCost).sum = cost

theorem decides_nil : Decides context request [] True 0 :=
  ⟨iff_of_true (List.forall_mem_nil _) trivial, fun _ => rfl⟩

theorem Decides.append {first second : List (Constraint R)} {permitsFirst permitsSecond : Prop}
    {costFirst costSecond : R} (decidesFirst : Decides context request first permitsFirst costFirst)
    (decidesSecond : Decides context request second permitsSecond costSecond) :
    Decides context request (first ++ second) (permitsFirst ∧ permitsSecond) (costFirst + costSecond) where
  allowed := by rw [List.forall_mem_append, decidesFirst.allowed, decidesSecond.allowed]
  charged := by
    rintro ⟨permitted, permittedToo⟩
    rw [List.map_append, List.sum_append, decidesFirst.charged permitted, decidesSecond.charged permittedToo]

theorem Decides.congr {part : List (Constraint R)} {permits wanted : Prop} {cost price : R}
    (decides : Decides context request part permits cost) (same : permits ↔ wanted) (equal : cost = price) :
    Decides context request part wanted price :=
  ⟨decides.allowed.trans same, fun permitted => (decides.charged (same.mpr permitted)).trans equal⟩

/-- A constraint alone. -/
theorem decides_singleton {constraint : Constraint R} {permits : Prop} {cost : R}
    (allowed : (constraint context request).allowed = true ↔ permits)
    (charged : permits -> (constraint context request).extraCost = cost) :
    Decides context request [constraint] permits cost where
  allowed := by rw [List.forall_mem_singleton, allowed]
  charged := fun permitted => by rw [List.map_singleton, List.sum_singleton, charged permitted]

end Chains

/-! ## The parts of the chain -/

theorem mem_verticesByIdent {R : Type} (builder : GraphBuilder R) (ident : Text) (v : Int) :
    v ∈ builder.verticesByIdent ident ↔ builder.WaypointNamed ident v := by
  rw [GraphBuilder.verticesByIdent]
  rcases packed : FixedName8.ofText ident with error | key
  · refine iff_of_false List.not_mem_nil fun waypoint => ?_
    have fits := (builder.fits_identOf v).1
    rw [waypoint.2.2] at fits
    rw [FixedName8.ofText, dif_pos fits] at packed
    cases packed
  · cases FixedName8.text_of_ofText packed
    apply ((GraphBuilder.lists_nameIndex 0 _ key).mem_iff v).trans
    exact GraphBuilder.waypoint_iff (fun ident => ident.ident = key.text) v

theorem mem_avoidedBy {R : Type} (builder : GraphBuilder R) (raw : Text) (v : Int) :
    v ∈ avoidedBy builder raw ↔ builder.Means raw v := by
  rw [avoidedBy, GraphBuilder.Means]
  by_cases slash : (toUpper raw).contains 47 = true
  · rw [if_pos slash, List.mem_filter, mem_verticesByIdent, beq_iff_eq]
    constructor
    · exact fun listed => .inr ⟨slash, listed⟩
    · rintro (⟨absent, _⟩ | ⟨_, listed⟩)
      · exact absurd slash (Bool.eq_false_iff.mp absent)
      · exact listed
  · rw [if_neg slash, mem_verticesByIdent]
    constructor
    · exact fun listed => .inl ⟨Bool.eq_false_iff.mpr slash, listed⟩
    · rintro (⟨_, listed⟩ | ⟨present, _⟩)
      · exact listed
      · exact absurd present slash

/-- Resolving the entries once is asking each of them. -/
theorem mem_resolveAvoidVertices {R : Type} (builder : GraphBuilder R) (avoidWaypoints : List Text) (v : Int) :
    v ∈ (resolveAvoidVertices builder avoidWaypoints).elems ↔
      exists raw, raw ∈ avoidWaypoints ∧ builder.Means raw v := by
  rw [resolveAvoidVertices, SortedVector.mem_ofList, List.mem_flatMap]
  simp only [mem_avoidedBy]

section Parts

variable {R : Type} [Field R] {request : RouteRequest R} {context : EdgeContext R}

theorem decides_altitudeBand {range : FlRange} (wanted : request.altitude = some range) :
    Decides context request [altitudeBand] (range.Overlaps context.edge) 0 := by
  apply decides_singleton
  · rw [altitudeBand, wanted]
    simp only [FlRange.Overlaps]
    split_ifs with below above
    · exact iff_of_false Bool.false_ne_true (by omega)
    · exact iff_of_false Bool.false_ne_true (by omega)
    · exact iff_of_true rfl (by omega)
  · intro _
    rw [altitudeBand, wanted]
    dsimp only
    split_ifs <;> rfl

theorem decides_level :
    Decides context request (if request.level ≠ .kNone then [levelPreference] else []) True
      (context.edge.distanceNm * if OffLevel request context.edge then kDefaultPenaltyFraction else 0) := by
  by_cases wanted : request.level ≠ .kNone
  · rw [if_pos wanted]
    have verdict : levelPreference context request =
        if OffLevel request context.edge then .penalize (context.edge.distanceNm * kDefaultPenaltyFraction)
        else .allow := by
      unfold levelPreference
      rw [if_neg wanted]
      by_cases both : context.edge.level = .kBoth
      · rw [if_pos both, if_neg fun off => off.2.1 both]
      · rw [if_neg both]
        by_cases same : context.edge.level = .kHigh ↔ request.level = .kHigh
        · rw [if_pos (decide_eq_decide.mpr same), if_neg fun off => off.2.2 same]
        · rw [if_neg fun equal => same (decide_eq_decide.mp equal), if_pos ⟨wanted, both, same⟩]
    apply decides_singleton
    · rw [verdict]
      split_ifs <;> exact iff_of_true rfl trivial
    · intro _
      rw [verdict]
      split_ifs
      · rfl
      · exact (mul_zero _).symm
  · rw [if_neg wanted, if_neg fun off => wanted off.1, mul_zero]
    exact decides_nil

theorem decides_avoid (builder : GraphBuilder R) :
    Decides context request
      (if request.avoidWaypoints.isEmpty then []
        else [avoidWaypoint (resolveAvoidVertices builder request.avoidWaypoints).elems])
      (forall raw, raw ∈ request.avoidWaypoints -> ¬ builder.Means raw context.edge.toVertex) 0 := by
  cases entries : request.avoidWaypoints with
  | nil => exact decides_nil.congr (iff_of_true trivial nofun) rfl
  | cons first rest =>
      have entered : (SortedVector.ofList (resolveAvoidVertices builder (first :: rest)).elems).binarySearch
          context.edge.toVertex = true ↔
            exists raw, raw ∈ first :: rest ∧ builder.Means raw context.edge.toVertex := by
        rw [SortedVector.binarySearch_eq_true, SortedVector.mem_ofList, mem_resolveAvoidVertices]
      apply decides_singleton
      · unfold avoidWaypoint
        split_ifs with blocked
        · refine iff_of_false Bool.false_ne_true fun none => ?_
          rcases entered.mp blocked with ⟨raw, listed, means⟩
          exact none raw listed means
        · exact iff_of_true rfl fun raw listed means => blocked (entered.mpr ⟨raw, listed, means⟩)
      · intro _
        unfold avoidWaypoint
        split_ifs <;> rfl

theorem decides_random :
    Decides context request
      (match request.randomSeed with
        | none => []
        | some seed => [randomize seed]) True
      (context.edge.distanceNm * request.randomSeed.elim 0 fun seed =>
        kDefaultEps * hash01 seed context.source context.edge.toVertex context.edge.airwayId) := by
  cases request.randomSeed with
  | none => exact decides_nil.congr Iff.rfl (mul_zero _).symm
  | some seed => exact decides_singleton (iff_of_true rfl trivial) fun _ => mul_assoc _ _ _

variable [LinearOrder R]

theorem decides_moraConstraint [FloorRing R] (grid : MoraGrid) (greatCircle : GreatCircle R) {range : FlRange}
    (wanted : request.altitude = some range) :
    Decides context request [moraConstraint grid greatCircle]
      (maxMoraAlongLeg grid greatCircle context.fromCoord context.toCoord = 0 ∨
        maxMoraAlongLeg grid greatCircle context.fromCoord context.toCoord ≤ range.maxFl) 0 := by
  apply decides_singleton
  · rw [moraConstraint, wanted]
    dsimp only
    split_ifs with unknown below
    · exact iff_of_true rfl (.inl unknown)
    · exact iff_of_false Bool.false_ne_true (by omega)
    · exact iff_of_true rfl (.inr (by omega))
  · intro _
    rw [moraConstraint, wanted]
    dsimp only
    split_ifs <;> rfl

/-- The altitude of a request. -/
theorem decides_altitude [FloorRing R] (grid : MoraGrid) (greatCircle : GreatCircle R) :
    Decides context request
      (if request.altitude.isSome then [altitudeBand, moraConstraint grid greatCircle] else [])
      (forall range, request.altitude = some range -> range.Overlaps context.edge ∧
        (maxMoraAlongLeg grid greatCircle context.fromCoord context.toCoord = 0 ∨
          maxMoraAlongLeg grid greatCircle context.fromCoord context.toCoord ≤ range.maxFl)) 0 := by
  cases wanted : request.altitude with
  | none => exact decides_nil.congr (iff_of_true trivial nofun) rfl
  | some range =>
      have band : Decides context request [altitudeBand] (range.Overlaps context.edge) 0 := decides_altitudeBand wanted
      have both := band.append (decides_moraConstraint grid greatCircle wanted)
      refine both.congr ⟨?_, fun all => all range rfl⟩ (add_zero 0)
      rintro permitted _ ⟨⟩
      exact permitted

theorem decides_rules (builder : GraphBuilder R) (few : request.airwayRules.length ≤ kMaxRules)
    (inRange : builder.graph.InRange context.source)
    (listed : context.edge ∈ builder.graph.edgesFrom context.source) :
    Decides context request
      (if request.airwayRules.isEmpty then []
        else [fun context _ => (resolveAirwayRules builder request.airwayRules).evaluate context])
      (forall rule, rule ∈ request.airwayRules -> rule.action = .kBlock ->
        ¬ rule.Matches builder context.source context.edge)
      (context.edge.distanceNm * ((request.airwayRules.filter fun rule =>
        decide (rule.action = .kPenalize ∧ rule.Matches builder context.source context.edge)).map
          fun rule => max 0 rule.penaltyFraction).sum) := by
  cases entries : request.airwayRules with
  | nil => exact decides_nil.congr (iff_of_true trivial nofun) (mul_zero _).symm
  | cons first rest =>
      rw [entries] at few
      rcases evaluate_resolveAirwayRules builder (first :: rest) context few inRange listed with ⟨blocks, charges⟩
      have permits : ((resolveAirwayRules builder (first :: rest)).evaluate context).allowed = true ↔
          forall rule, rule ∈ first :: rest -> rule.action = .kBlock ->
            ¬ rule.Matches builder context.source context.edge := by
        rw [← Bool.not_eq_false, blocks]
        push Not
        rfl
      exact decides_singleton permits fun permitted => charges (permits.mpr permitted)

end Parts

/-! ## The chain as a whole -/

section Whole

variable {R : Type} [Field R] [LinearOrder R] [FloorRing R] {request : RouteRequest R} {builder : GraphBuilder R}
  {grid : MoraGrid} {greatCircle : GreatCircle R} {bundle : ConstraintBundle R} {source : Int} {edge : GraphEdge R}

theorem decides_constraintChain (grid : MoraGrid) (greatCircle : GreatCircle R)
    (few : request.airwayRules.length ≤ kMaxRules) (inRange : builder.graph.InRange source) (listed : edge ∈ builder.graph.edgesFrom source) :
    Decides ⟨edge, builder.graph.coordOf source, builder.graph.coordOf edge.toVertex, source⟩ request
      (constraintChain request builder grid greatCircle (resolveAvoidVertices builder request.avoidWaypoints))
      (Permits request builder grid greatCircle source edge)
      (edge.distanceNm * chargedFraction request builder source edge) := by
  have rules := @decides_rules R _ request
    ⟨edge, builder.graph.coordOf source, builder.graph.coordOf edge.toVertex, source⟩ _ builder few inRange listed
  have whole := ((((decides_altitude grid greatCircle).append decides_level).append
    (decides_avoid builder)).append rules).append decides_random
  refine whole.congr ⟨?_, ?_⟩ ?_
  · rintro ⟨⟨⟨⟨altitude, _⟩, avoided⟩, rules⟩, _⟩
    exact ⟨fun range wanted => (altitude range wanted).1, fun range wanted => (altitude range wanted).2, avoided, rules⟩
  · intro permits
    exact ⟨⟨⟨⟨fun range wanted => ⟨permits.band range wanted, permits.terrain range wanted⟩, trivial⟩,
      permits.avoided⟩, permits.rules⟩, trivial⟩
  · rw [chargedFraction]
    ring

theorem built_of_few (builder : GraphBuilder R) (grid : MoraGrid) (greatCircle : GreatCircle R)
    (few : request.airwayRules.length ≤ kMaxRules) :
    exists bundle, buildConstraints request builder grid greatCircle = .ok bundle :=
  ⟨_, if_neg few.not_gt⟩

theorem chain_of_built (built : buildConstraints request builder grid greatCircle = .ok bundle) :
    request.airwayRules.length ≤ kMaxRules ∧
      bundle.options.constraints = constraintChain request builder grid greatCircle
        (resolveAvoidVertices builder request.avoidWaypoints) ∧
      bundle.options.request = some request := by
  unfold buildConstraints at built
  split_ifs at built with many
  cases built
  exact ⟨not_lt.mp many, rfl, rfl⟩

/-- An edge is let through if and only if the request permits it, and is charged in
proportion to its length. -/
theorem edgeAllowed_eq_some_iff (built : buildConstraints request builder grid greatCircle = .ok bundle)
    (inRange : builder.graph.InRange source) (listed : edge ∈ builder.graph.edgesFrom source) (extra : R) :
    edgeAllowed bundle.options builder.graph edge source = some extra ↔
      Permits request builder grid greatCircle source edge ∧
        extra = edge.distanceNm * chargedFraction request builder source edge := by
  rcases chain_of_built built with ⟨few, chain, asked⟩
  have decides := decides_constraintChain grid greatCircle few inRange listed
  rw [edgeAllowed, chain, asked]
  split_ifs with empty
  · rw [List.isEmpty_iff] at empty
    rw [empty] at decides
    have permits := decides.allowed.mp (List.forall_mem_nil _)
    rw [Option.some.injEq, ← decides.charged permits, eq_comm, and_iff_right permits]
    rfl
  · apply (evaluateChain_eq_some_iff _ _ _).trans
    rw [decides.allowed, zero_add]
    exact and_congr_right fun permits => by rw [decides.charged permits]

variable [IsStrictOrderedRing R]

/-- `Hash01` is a uniform double in `[0, 1)`. -/
theorem hash01_mem (seed : BitVec 32) (source target : Int) (airwayId : Nat) :
    0 ≤ (hash01 seed source target airwayId : R) ∧ (hash01 seed source target airwayId : R) < 1 := by
  have positive : (0 : R) < Nat.cast (2 ^ 53) := Nat.cast_pos.mpr (by decide)
  constructor
  · exact div_nonneg (Nat.cast_nonneg _) positive.le
  · rw [hash01, div_lt_one positive, Nat.cast_lt]
    exact (hashBits seed source target airwayId).isLt

/-- No edge is charged less than nothing, which keeps the heuristic of the search
admissible. -/
theorem chargedFraction_nonneg (request : RouteRequest R) (builder : GraphBuilder R) (source : Int)
    (edge : GraphEdge R) : 0 ≤ chargedFraction request builder source edge := by
  have level : (0 : R) ≤ if OffLevel request edge then kDefaultPenaltyFraction else 0 := by
    split
    · exact div_nonneg (Nat.cast_nonneg _) (Nat.cast_nonneg _)
    · exact le_rfl
  have random : (0 : R) ≤ request.randomSeed.elim 0 fun seed =>
      kDefaultEps * hash01 seed source edge.toVertex edge.airwayId := by
    cases request.randomSeed with
    | none => exact le_rfl
    | some seed =>
        apply mul_nonneg
        · exact div_nonneg (Nat.cast_nonneg _) (Nat.cast_nonneg _)
        · exact (hash01_mem seed source edge.toVertex edge.airwayId).1
  apply add_nonneg (add_nonneg level _) random
  apply List.sum_nonneg
  rw [List.forall_mem_map]
  exact fun rule _ => le_max_left _ _

/-- The assembled options say what the request wants, on every edge of the network. -/
theorem buildConstraints_permits (request : RouteRequest R) (builder : GraphBuilder R) (grid : MoraGrid)
    (greatCircle : GreatCircle R) :
    (kMaxRules < request.airwayRules.length ->
      exists error, buildConstraints request builder grid greatCircle = .error error ∧
        error.code = .kRouteParseError) ∧
      (request.airwayRules.length ≤ kMaxRules ->
        exists bundle, buildConstraints request builder grid greatCircle = .ok bundle ∧
          forall source edge, builder.graph.InRange source -> edge ∈ builder.graph.edgesFrom source ->
            0 ≤ chargedFraction request builder source edge ∧
              forall extra, edgeAllowed bundle.options builder.graph edge source = some extra ↔
                Permits request builder grid greatCircle source edge ∧
                  extra = edge.distanceNm * chargedFraction request builder source edge) := by
  constructor
  · intro many
    rw [buildConstraints, if_pos many]
    exact ⟨_, rfl, rfl⟩
  · intro few
    rcases built_of_few builder grid greatCircle few with ⟨bundle, built⟩
    refine ⟨bundle, built, fun source edge inRange listed => ⟨?_, fun extra => ?_⟩⟩
    · exact chargedFraction_nonneg request builder source edge
    · exact edgeAllowed_eq_some_iff built inRange listed extra

end Whole

/-! ## A wish to stay clear of `C` -/

/-- High airways, at any altitude, and never over `C`. -/
def clearOfC : RouteRequest Rat where
  departure := []
  arrival := []
  altitude := none
  level := .kHigh
  k := 1
  departureRunway := []
  arrivalRunway := []
  departureSid := []
  arrivalStar := []
  avoidWaypoints := [[99]]
  airwayRules := []
  randomSeed := some 7
  forcedPoints := []

/-- The edge into `C` is refused, and the one back is not charged more than the
jitter. -/
theorem buildConstraints_permits_clearOfC :
    exists bundle, buildConstraints clearOfC meridianBuilder MoraGrid.unknown noGreatCircle = .ok bundle ∧
      edgeAllowed bundle.options meridianBuilder.graph ⟨1, 60, 0, 0, 600, .kBoth⟩ 0 = none ∧
      edgeAllowed bundle.options meridianBuilder.graph ⟨0, 60, 0, 0, 600, .kBoth⟩ 1 =
        some (60 * chargedFraction clearOfC meridianBuilder 1 ⟨0, 60, 0, 0, 600, .kBoth⟩) := by
  rcases (buildConstraints_permits clearOfC meridianBuilder MoraGrid.unknown noGreatCircle).2 (by decide) with
    ⟨bundle, built, sound⟩
  have toC := (sound 0 ⟨1, 60, 0, 0, 600, .kBoth⟩ (by decide) (by decide)).2
  have back := (sound 1 ⟨0, 60, 0, 0, 600, .kBoth⟩ (by decide) (by decide)).2
  refine ⟨bundle, built, ?_, ?_⟩
  · rw [Option.eq_none_iff_forall_ne_some]
    intro extra allowed
    apply ((toC extra).mp allowed).1.avoided [99] (List.mem_singleton.mpr rfl)
    exact .inl ⟨by decide, by decide, by decide, by decide⟩
  · apply (back _).mpr
    refine ⟨⟨nofun, nofun, ?_, nofun⟩, rfl⟩
    intro raw listed means
    rw [List.mem_singleton.mp listed] at means
    rcases means with ⟨_, waypoint⟩ | ⟨slash, _⟩
    · exact absurd waypoint.2.2 (by decide)
    · exact absurd slash (by decide)

end BravoFinder
