import BravoFinder.Graph.YenSpur

namespace BravoFinder

/-!
# The K-shortest search enumerates by deviation

Round by round, the search and the enumeration of its path problem `deviation`
accept the same paths and keep the same candidates.  The scratch the source
reuses is clean before every spur, and `Refines` says how the two states
correspond.
-/

open Deviation

namespace KShortest

variable {R : Type} [LinearOrder R] [NatCast R] [Zero R] [One R] [Neg R] [Add R] [Sub R] [Mul R]
  [Div R] (problem : KShortest R)

/-! ## The correspondence -/

/-- An accepted path with its cost and distance. -/
def entry (path : ShortestPath R) : List Int × (R × R) :=
  (path.vertices, (path.cost, path.distanceNm))

/-- A candidate with the length of the root it left its parent at. -/
def pendingPath (candidate : Candidate R) : List Int × Nat :=
  (candidate.vertices, (candidate.deviation + 1).toNat)

/-- The scratch a spur search starts from. -/
structure Clean (state : YenState R) : Prop where
  stamped : state.ws.Stamped
  bearings : (if 0 ≤ state.spurBearingVertex then
      Function.update state.spurSourceBearing state.spurBearingVertex kNoBearing
    else state.spurSourceBearing) = fun _ => kNoBearing
  goals : state.spurGoalSeed = problem.base.tables.goalSeed

/-- The candidates are the pending paths, each with the price of its path. -/
structure Holds (candidates : StdSet (Candidate R) Candidate.key)
    (pending : StdSet (List Int × Nat) problem.deviation.rank) : Prop where
  elems : pending.elems = candidates.elems.map pendingPath
  priced : forall candidate, candidate ∈ candidates ->
    problem.pathCost candidate.vertices = some (candidate.cost, candidate.distance)
  deviation : forall candidate, candidate ∈ candidates -> -1 ≤ candidate.deviation

/-- The states correspond between two rounds. -/
structure Refines (state : YenState R) (abstract : problem.deviation.State) : Prop where
  clean : problem.Clean state
  holds : problem.Holds state.candidates abstract.pending
  accepted : abstract.accepted = state.result.map entry
  last : abstract.last.1 = prevPath state
  depth : state.lastDeviation = abstract.depth - 1
  found : forall path, path ∈ state.result -> path.found = true

variable {problem}

theorem Holds.rank_pendingPath {candidates : StdSet (Candidate R) Candidate.key}
    {pending : StdSet (List Int × Nat) problem.deviation.rank}
    (holds : problem.Holds candidates pending) {candidate : Candidate R}
    (member : candidate ∈ candidates) :
    problem.deviation.rank (pendingPath candidate) = candidate.key :=
  problem.rank_deviation (holds.priced candidate member) _

/-- Folding one spur result in. -/
theorem Holds.addCandidate {candidates : StdSet (Candidate R) Candidate.key}
    {pending : StdSet (List Int × Nat) problem.deviation.rank}
    (holds : problem.Holds candidates pending) (root : List Int) (taken : List (Option Int))
    (deviation : Int) (bound : -1 ≤ deviation) :
    problem.Holds
      (problem.addCandidate root (problem.spurTail root taken) deviation candidates)
      (match problem.spurAnswer root taken with
        | none => pending
        | some path => pending.insert (path, (deviation + 1).toNat)) := by
  unfold KShortest.addCandidate spurAnswer
  simp only
  split
  · exact holds
  cases priced : problem.pathCost (stitch root (problem.spurTail root taken).vertices) with
  | none => exact holds
  | some cost =>
      rcases cost with ⟨cost, distance⟩
      simp only [Option.isSome_some, if_true]
      constructor
      · simp only [StdSet.insert, holds.elems]
        refine StdSet.insertElems_map Candidate.key problem.deviation.rank pendingPath
          ⟨cost, distance, stitch root (problem.spurTail root taken).vertices, deviation⟩ ?_
        rintro other (same | member)
        · rw [same]
          exact problem.rank_deviation priced _
        · exact holds.rank_pendingPath member
      · intro candidate member
        rcases StdSet.mem_of_mem_insert member with same | old
        · rw [same]
          exact priced
        · exact holds.priced candidate old
      · intro candidate member
        rcases StdSet.mem_of_mem_insert member with same | old
        · rw [same]
          exact bound
        · exact holds.deviation candidate old

/-- Taking the least candidate takes the least pending path. -/
theorem Holds.popBegin {candidates : StdSet (Candidate R) Candidate.key}
    {pending : StdSet (List Int × Nat) problem.deviation.rank}
    (holds : problem.Holds candidates pending) :
    (candidates.popBegin = none ∧ pending.popBegin = none) ∨
    exists best rest rest', candidates.popBegin = some (best, rest) ∧
      pending.popBegin = some (pendingPath best, rest') ∧ problem.Holds rest rest' ∧
      problem.pathCost best.vertices = some (best.cost, best.distance) ∧ -1 ≤ best.deviation := by
  rcases holds with ⟨elems, priced, deviations⟩
  rcases pending with ⟨pending, ordered⟩
  rcases candidates with ⟨candidates, candidatesOrdered⟩
  simp only at elems
  subst elems
  cases candidates with
  | nil => exact Or.inl ⟨rfl, rfl⟩
  | cons best rest =>
      refine Or.inr ⟨best, _, _, rfl, rfl, ⟨rfl, ?_, ?_⟩, priced best List.mem_cons_self,
        deviations best List.mem_cons_self⟩
      · exact fun candidate member => priced candidate (List.mem_cons_of_mem _ member)
      · exact fun candidate member => deviations candidate (List.mem_cons_of_mem _ member)

/-! ## The bans of a spur -/

omit [NatCast R] [Add R] [Sub R] [Mul R] [Div R] in
/-- The sources left are those whose first step is open. -/
theorem spurSources_eq (result : List (ShortestPath R)) :
    problem.spurSources result =
      problem.openSources (banned (result.map ShortestPath.vertices) []) := by
  refine List.filter_congr fun source _ => ?_
  have same : source.vertex ∈ (result.filterMap fun path => path.vertices.head?) ↔
      some source.vertex ∈ banned (result.map ShortestPath.vertices) [] := by
    simp only [List.mem_filterMap, mem_banned, List.mem_map, List.nil_prefix, true_and, next,
      List.length_nil, List.head?_eq_getElem?]
    constructor
    · rintro ⟨path, listed, first⟩
      exact ⟨path.vertices, ⟨path, listed, rfl⟩, first⟩
    · rintro ⟨_, ⟨path, listed, rfl⟩, first⟩
      exact ⟨path, listed, first⟩
  simp only [same]

omit [LinearOrder R] [NatCast R] [Zero R] [One R] [Neg R] [Add R] [Sub R] [Mul R] [Div R] in
/-- An accepted path ends at the spur node exactly when ending there is taken. -/
theorem endsAtSpur_iff (root : List Int) (result : List (ShortestPath R)) :
    endsAtSpur root result = true ↔ none ∈ banned (result.map ShortestPath.vertices) root := by
  simp only [endsAtSpur, List.any_eq_true, Bool.and_eq_true, decide_eq_true_eq, beq_iff_eq,
    mem_banned, List.mem_map]
  constructor
  · rintro ⟨path, listed, shares, length⟩
    exact ⟨path.vertices, ⟨path, listed, rfl⟩, shares, List.getElem?_eq_none length.le⟩
  · rintro ⟨_, ⟨path, listed, rfl⟩, shares, ends⟩
    exact ⟨path, listed, shares,
      Nat.le_antisymm (List.getElem?_eq_none_iff.mp ends) shares.length_le⟩

omit [LinearOrder R] [NatCast R] [Zero R] [One R] [Neg R] [Add R] [Sub R] [Mul R] [Div R] in
/-- The banned edges are the taken steps out of the spur node. -/
theorem mem_yenBannedEdges_iff {root : List Int} {i : Nat} (length : root.length = i + 1)
    (result : List (ShortestPath R)) (key : Int) :
    key ∈ yenBannedEdges root i result ↔
      key ∈ takenEdges root (banned (result.map ShortestPath.vertices) root) := by
  have inRoot : i < root.length := by omega
  have nodeOf : forall path : List Int, root <+: path -> path.getD i kNoVertex = spurNode root := by
    rintro _ ⟨rest, rfl⟩
    rw [spurNode, List.getD_eq_getElem?_getD, List.getElem?_append_left inRoot,
      List.getD_eq_getElem?_getD, length, Nat.add_sub_cancel]
  simp only [yenBannedEdges, takenEdges, List.mem_filterMap, mem_banned, List.mem_map]
  constructor
  · rintro ⟨path, listed, found⟩
    split at found
    · rename_i shares
      have long : i + 1 < path.vertices.length := by
        have bound := shares.1.length_le
        omega
      have step : next root path.vertices = some (path.vertices.getD (i + 1) kNoVertex) := by
        rw [next, length, List.getD_eq_getElem?_getD, List.getElem?_eq_getElem long]
        rfl
      rw [← Option.some.inj found, nodeOf _ shares.1]
      exact ⟨_, ⟨path.vertices, ⟨path, listed, rfl⟩, shares.1, step⟩, rfl⟩
    · cases found
  · rintro ⟨step, ⟨_, ⟨path, listed, rfl⟩, shares, taken⟩, keyEq⟩
    cases step with
    | none => cases keyEq
    | some v =>
        rw [next, length] at taken
        have long : i + 1 < path.vertices.length := (List.getElem?_eq_some_iff.mp taken).1
        refine ⟨path, listed, ?_⟩
        rw [if_pos ⟨shares, by omega⟩, nodeOf _ shares, List.getD_eq_getElem?_getD, taken]
        exact keyEq

/-! ## One spur -/

variable (problem) in
/-- What a spur leaves as it was, and what it makes of the candidates. -/
structure SpurStep (prev : List Int) (i : Int) (before after : YenState R) : Prop where
  clean : problem.Clean after
  result : after.result = before.result
  lastDeviation : after.lastDeviation = before.lastDeviation
  holds : forall pending, problem.Holds before.candidates pending ->
    problem.Holds after.candidates
      (problem.deviation.spurAt (before.result.map ShortestPath.vertices) prev pending
        (i + 1).toNat)

theorem sourceSpur_step {state : YenState R} (clean : problem.Clean state) (prev : List Int) :
    problem.SpurStep prev (-1) state (problem.sourceSpur state) := by
  have search : problem.spurTail [] (banned (state.result.map ShortestPath.vertices) []) =
      (problem.base.findShortestPathMulti (problem.spurSources state.result) state.ws).1 := by
    rw [spurSources_eq]
    exact problem.base.findShortestPathMulti_reuse _ SearchWorkspace.stamped_empty clean.stamped
  unfold sourceSpur
  by_cases none : (problem.spurSources state.result).isEmpty = true
  · rw [if_pos none]
    refine ⟨clean, rfl, rfl, fun pending holds => ?_⟩
    have nothing : problem.spurAnswer [] (banned (state.result.map ShortestPath.vertices) []) =
        Option.none := by
      unfold spurAnswer
      rw [search, SearchSetup.findShortestPathMulti, if_pos none]
      rfl
    rw [spurAt_deviation, show (-1 + 1 : Int).toNat = 0 from rfl, List.take_zero, nothing]
    exact holds
  · rw [if_neg none]
    refine ⟨⟨problem.base.stamped_findShortestPathMulti _ clean.stamped, clean.bearings, clean.goals⟩,
      rfl, rfl, fun pending holds => ?_⟩
    have added := holds.addCandidate [] (banned (state.result.map ShortestPath.vertices) [])
      (-1) (Int.le_refl _)
    rw [search] at added
    rw [spurAt_deviation, show (-1 + 1 : Int).toNat = 0 from rfl, List.take_zero]
    exact added

theorem nodeSpur_step {state : YenState R} (clean : problem.Clean state) {prev : List Int}
    (vertices : forall v, v ∈ prev -> 0 ≤ v) {i : Nat} (inPrev : i < prev.length) :
    problem.SpurStep prev i state (problem.nodeSpur prev i state) := by
  have length : (prev.take (i + 1)).length = i + 1 := List.length_take_of_le inPrev
  have nodeEq : prev.getD i kNoVertex = spurNode (prev.take (i + 1)) := by
    rw [spurNode, length, Nat.add_sub_cancel, List.getD_eq_getElem?_getD,
      List.getD_eq_getElem?_getD, List.getElem?_take_of_lt (Nat.lt_succ_self i)]
  have nodeNonneg : 0 ≤ prev.getD i kNoVertex := by
    rw [List.getD_eq_getElem?_getD, List.getElem?_eq_getElem inPrev]
    exact vertices _ (List.getElem_mem inPrev)
  have inboundEq : problem.inboundAtSpur prev i =
      problem.inboundAtSpur (prev.take (i + 1)) ((prev.take (i + 1)).length - 1) := by
    rw [length, Nat.add_sub_cancel]
    simp only [inboundAtSpur, List.getD_eq_getElem?_getD,
      List.getElem?_take_of_lt (Nat.lt_succ_self i),
      List.getElem?_take_of_lt (Nat.lt_succ_of_le (Nat.sub_le i 1))]
  have notEmpty : ¬ (prev.take (i + 1)).isEmpty = true := by
    rw [List.isEmpty_iff_length_eq_zero, length]
    omega
  have ends := endsAtSpur_iff (prev.take (i + 1)) state.result
  have options : problem.spurOptions (prev.take (i + 1))
        (yenBannedEdges (prev.take (i + 1)) i state.result) =
      problem.spurOptions (prev.take (i + 1)) (takenEdges (prev.take (i + 1))
        (banned (state.result.map ShortestPath.vertices) (prev.take (i + 1)))) := by
    simp only [spurOptions, mergeBanned_congr _ (mem_yenBannedEdges_iff length state.result)]
  unfold nodeSpur
  simp only [clean.bearings, clean.goals, options, inboundEq]
  by_cases skipped : problem.spurSkipped (prev.take (i + 1))
      (banned (state.result.map ShortestPath.vertices) (prev.take (i + 1)))
  · have skip : endsAtSpur (prev.take (i + 1)) state.result = true ∧
        0 ≤ problem.base.tables.goalSeed (prev.getD i kNoVertex) ∧ problem.goalCount < 2 := by
      rw [nodeEq]
      exact ⟨ends.mpr skipped.1, skipped.2⟩
    rw [if_pos skip]
    refine ⟨clean, rfl, rfl, fun pending holds => ?_⟩
    have nothing : problem.spurAnswer (prev.take (i + 1))
        (banned (state.result.map ShortestPath.vertices) (prev.take (i + 1))) = none := by
      unfold spurAnswer spurTail
      rw [if_neg notEmpty, if_pos skipped]
      rfl
    rw [spurAt_deviation, Int.toNat_natCast_add_one, nothing]
    exact holds
  · have search : ¬ (endsAtSpur (prev.take (i + 1)) state.result = true ∧
        0 ≤ problem.base.tables.goalSeed (prev.getD i kNoVertex) ∧ problem.goalCount < 2) := by
      rw [nodeEq]
      exact fun skip => skipped ⟨ends.mp skip.1, skip.2⟩
    rw [if_neg search]
    have goals : (if endsAtSpur (prev.take (i + 1)) state.result = true then
          Function.update problem.base.tables.goalSeed (prev.getD i kNoVertex) (-1)
        else problem.base.tables.goalSeed) =
        problem.spurGoalSeed (prev.take (i + 1))
          (banned (state.result.map ShortestPath.vertices) (prev.take (i + 1))) := by
      rw [nodeEq]
      exact if_congr ends rfl rfl
    have tail : problem.spurTail (prev.take (i + 1))
        (banned (state.result.map ShortestPath.vertices) (prev.take (i + 1))) =
        ((problem.nodeSearch (prev.take (i + 1))
          (banned (state.result.map ShortestPath.vertices) (prev.take (i + 1)))).findShortestPathMulti
            [nodeSource (prev.take (i + 1))] state.ws).1 := by
      unfold spurTail
      rw [if_neg notEmpty, if_neg skipped]
      exact SearchSetup.findShortestPathMulti_reuse _ _ SearchWorkspace.stamped_empty clean.stamped
    rw [goals]
    constructor
    · constructor
      · exact SearchSetup.stamped_findShortestPathMulti _ _ clean.stamped
      · simp only [nodeNonneg, if_true, Function.update_idem, Function.update_eq_self_iff]
      · simp only [nodeEq]
        unfold spurGoalSeed
        split
        · rw [Function.update_idem, Function.update_eq_self]
        · rw [Function.update_eq_self]
    · rfl
    · rfl
    · intro pending holds
      have added := holds.addCandidate (prev.take (i + 1))
        (banned (state.result.map ShortestPath.vertices) (prev.take (i + 1)))
        i (by omega)
      rw [tail] at added
      rw [spurAt_deviation, Int.toNat_natCast_add_one]
      simp only [nodeEq]
      exact added

/-! ## One round -/

theorem spurAt_step {state : YenState R} (clean : problem.Clean state) {prev : List Int}
    (vertices : forall v, v ∈ prev -> 0 ≤ v) {depth : Nat} (bound : depth ≤ prev.length) :
    problem.SpurStep prev ((depth : Int) - 1) state
      (problem.spurAt prev state ((depth : Int) - 1)) := by
  unfold KShortest.spurAt
  cases depth with
  | zero => exact sourceSpur_step clean prev
  | succ i =>
      have index : ((i + 1 : Nat) : Int) - 1 = i := by omega
      rw [index, if_neg (by omega), Int.toNat_natCast]
      exact nodeSpur_step clean vertices bound

/-- The spur loop of a round runs the spurs of the enumeration. -/
theorem spurLoop_step {state : YenState R} (clean : problem.Clean state) {prev : List Int}
    (vertices : forall v, v ∈ prev -> 0 ≤ v) {pending : StdSet (List Int × Nat) problem.deviation.rank}
    (holds : problem.Holds state.candidates pending) (first : Int) (depth : Nat)
    (same : first = depth - 1) :
    let spurred := (spurIndices first prev.length).foldl (problem.spurAt prev) state
    problem.Clean spurred ∧ spurred.result = state.result ∧
      problem.Holds spurred.candidates
        ((List.range' depth (prev.length + 1 - depth)).foldl
          (problem.deviation.spurAt (state.result.map ShortestPath.vertices) prev) pending) := by
  have count : (prev.length - first).toNat = prev.length + 1 - depth := by omega
  have inBounds : forall offset, offset ∈ List.range (prev.length + 1 - depth) ->
      depth + offset ≤ prev.length := by
    intro offset member
    rw [List.mem_range] at member
    omega
  rw [spurIndices, count, List.range'_eq_map_range]
  generalize List.range (prev.length + 1 - depth) = offsets at inBounds
  induction offsets generalizing state pending with
  | nil => exact ⟨clean, rfl, holds⟩
  | cons offset rest inductionHypothesis =>
      have step := spurAt_step clean vertices (inBounds offset List.mem_cons_self)
      have index : first + offset = ((depth + offset : Nat) : Int) - 1 := by omega
      have next := inductionHypothesis step.clean (step.holds pending holds)
        fun other member => inBounds other (List.mem_cons_of_mem _ member)
      have depthEq : (((depth + offset : Nat) : Int) - 1 + 1).toNat = depth + offset := by omega
      simp only [step.result, depthEq] at next
      simp only [List.map_cons, List.foldl_cons, index]
      exact next

/-- A round of the search is a round of the enumeration. -/
theorem Refines.round {state : YenState R} {abstract : problem.deviation.State}
    (refines : problem.Refines state abstract) (vertices : forall v, v ∈ abstract.last.1 -> 0 ≤ v)
    {start : Int -> Int} {start' : Nat -> Nat} (starts : forall depth : Nat,
      start (depth - 1) = start' depth - 1) :
    (problem.round start state = none ∧ problem.deviation.round start' abstract = none) ∨
    exists following following', problem.round start state = some following ∧
      problem.deviation.round start' abstract = some following' ∧
      problem.Refines following following' := by
  have paths : abstract.paths = state.result.map ShortestPath.vertices := by
    rw [Deviation.Problem.State.paths, refines.accepted, List.map_map]
    rfl
  rw [refines.last] at vertices
  have loop := spurLoop_step refines.clean vertices refines.holds
    (start state.lastDeviation) (start' abstract.depth)
    (by rw [refines.depth, starts])
  rw [← paths, ← refines.last] at loop
  unfold KShortest.round Deviation.Problem.round
  rw [← refines.last]
  simp only at loop ⊢
  change problem.Clean _ ∧ _ ∧ problem.Holds _ (problem.deviation.spurs abstract _) at loop
  generalize (spurIndices (start state.lastDeviation) abstract.last.1.length).foldl
    (problem.spurAt abstract.last.1) state = spurred at loop
  generalize problem.deviation.spurs abstract (start' abstract.depth) = pending at loop
  rcases loop with ⟨clean, result, holds⟩
  rcases holds.popBegin with ⟨none, none'⟩ | ⟨best, rest, rest', popped, popped', holdsRest, priced, deviation⟩
  · rw [none, none']
    exact Or.inl ⟨rfl, rfl⟩
  · rw [popped, popped']
    have label : problem.deviation.label best.vertices = (best.cost, best.distance) := by
      simp only [KShortest.deviation, priced, Option.getD_some]
    refine Or.inr ⟨_, _, rfl, rfl, ?_⟩
    constructor
    · exact ⟨clean.stamped, clean.bearings, clean.goals⟩
    · exact holdsRest
    · rw [refines.accepted, result, List.map_append]
      simp only [label]
      rfl
    · simp only [prevPath, List.getLast?_concat]
      rfl
    · simp only
      omega
    · intro path member
      rcases List.mem_append.mp member with old | new
      · exact refines.found path (result ▸ old)
      · rw [List.mem_singleton.mp new]

/-! ## Whole runs -/

variable (problem) in
/-- Every accepted and every pending path is a route. -/
structure Routes (abstract : problem.deviation.State) : Prop where
  accepted : forall path, path ∈ abstract.paths -> problem.base.Route problem.sources path
  pending : forall candidate, candidate ∈ abstract.pending ->
    problem.base.Route problem.sources candidate.1

theorem Routes.round {abstract following : problem.deviation.State}
    (sound : Deviation.Problem.Sound problem.deviation abstract) (routes : problem.Routes abstract)
    (step : problem.deviation.round id abstract = some following) : problem.Routes following := by
  rcases Deviation.Problem.round_eq_some problem.deviation step with
    ⟨path, depth, popped, accepted, _, _⟩
  have spurred : forall candidate, candidate ∈ problem.deviation.spurs abstract abstract.depth ->
      problem.base.Route problem.sources candidate.1 := by
    intro candidate member
    rcases Deviation.Problem.mem_of_mem_spurs member with old | ⟨_, _, answer⟩
    · exact routes.pending candidate old
    · exact problem.route_of_spurAnswer (routes.accepted _ sound.last_path) (List.take_prefix _ _)
        answer
  have members := StdSet.mem_of_popBegin popped
  constructor
  · intro other member
    rw [Deviation.Problem.State.paths, accepted, List.map_append] at member
    rcases List.mem_append.mp member with old | new
    · exact routes.accepted other old
    · rw [List.mem_singleton.mp new]
      exact spurred _ ((members (path, depth)).mpr (Or.inl rfl))
  · exact fun candidate member => spurred candidate ((members candidate).mpr (Or.inr member))

/-- The search and the enumeration stay in step, wherever the spurs start. -/
theorem refines_rounds (start : Int -> Int) (start' : Nat -> Nat)
    (starts : forall depth : Nat, start (depth - 1) = start' depth - 1)
    (early : forall depth, start' depth ≤ depth) (count : Nat) {state : YenState R}
    {abstract : problem.deviation.State} (refines : problem.Refines state abstract)
    (sound : Deviation.Problem.Sound problem.deviation abstract) (routes : problem.Routes abstract) :
    problem.Refines (problem.rounds start count state) (problem.deviation.rounds id count abstract) := by
  induction count generalizing state abstract with
  | zero => exact refines
  | succ count inductionHypothesis =>
      have vertices : forall v, v ∈ abstract.last.1 -> 0 ≤ v := fun v member =>
        ((routes.accepted _ sound.last_path).inRange v member).1
      have step := refines.round vertices starts
      rw [sound.round_start early] at step
      unfold KShortest.rounds Deviation.Problem.rounds
      rcases step with ⟨stopped, stopped'⟩ | ⟨following, following', taken, taken', next⟩
      · rw [stopped, stopped']
        exact refines
      · rw [taken, taken']
        exact inductionHypothesis next (sound.round taken') (routes.round sound taken')

variable (problem) in
/-- The state after the first path is accepted. -/
theorem refines_initial {first : ShortestPath R} (found : first.found = true)
    {ws : SearchWorkspace R} (stamped : ws.Stamped) :
    problem.Refines (problem.initial first ws) (problem.deviation.initial (entry first)) where
  clean := ⟨stamped, rfl, rfl⟩
  holds := ⟨rfl, fun candidate member => absurd member (StdSet.not_mem_empty candidate),
    fun candidate member => absurd member (StdSet.not_mem_empty candidate)⟩
  accepted := rfl
  last := rfl
  depth := rfl
  found path member := by
    rw [List.mem_singleton.mp member]
    exact found

variable (problem) in
theorem routes_initial {first : ShortestPath R}
    (route : problem.base.Route problem.sources first.vertices) :
    problem.Routes (problem.deviation.initial (entry first)) where
  accepted path member := by
    rw [List.mem_singleton.mp member]
    exact route
  pending candidate member := absurd member (StdSet.not_mem_empty candidate)

variable (problem) in
/-- The enumeration a call runs, from its first path. -/
def enumeration (first : ShortestPath R) (count : Nat) : problem.deviation.State :=
  problem.deviation.rounds id count (problem.deviation.initial (entry first))

end KShortest

section EntryPoint

variable {R : Type} [LinearOrder R] [NatCast R] [Zero R] [One R] [Neg R] [Add R] [Sub R] [Mul R]
  [Div R]

/-- The calls that return nothing at once. -/
def kShortestEmpty (engine : Engine R) (graph : NavGraph R R) (sources goals : List (SeededEndpoint R))
    (k : Int) (options : SearchOptions R) : Prop :=
  k ≤ 0 ∨ sources = [] ∨ goals = [] ∨
    (findShortestPathMulti engine graph sources goals options).found = false

theorem findKShortestPathsFrom_empty {start : Int -> Int} {engine : Engine R} {graph : NavGraph R R}
    {sources goals : List (SeededEndpoint R)} {k : Int} {options : SearchOptions R}
    (empty : kShortestEmpty engine graph sources goals k options) :
    findKShortestPathsFrom start engine graph sources goals k options = [] := by
  unfold findKShortestPathsFrom
  by_cases trivial : k ≤ 0 ∨ sources.isEmpty = true ∨ goals.isEmpty = true
  · exact if_pos trivial
  · rw [if_neg trivial]
    have missing : (findShortestPathMulti engine graph sources goals options).found = false := by
      rcases empty with noK | noSource | noGoal | missing
      · exact absurd (Or.inl noK) trivial
      · exact absurd (Or.inr (Or.inl (List.isEmpty_iff.mpr noSource))) trivial
      · exact absurd (Or.inr (Or.inr (List.isEmpty_iff.mpr noGoal))) trivial
      · exact missing
    exact if_pos (by rw [Bool.not_eq_true']; exact missing)

/-- What any other call returns, in terms of the enumeration it runs. -/
structure Enumerates (engine : Engine R) (graph : NavGraph R R) (sources goals : List (SeededEndpoint R))
    (k : Int) (options : SearchOptions R) (result : List (ShortestPath R)) : Prop where
  sound : Deviation.Problem.Sound _ ((kShortest engine graph sources goals options).enumeration
    (findShortestPathMulti engine graph sources goals options) (k - 1).toNat)
  routes : (kShortest engine graph sources goals options).Routes
    ((kShortest engine graph sources goals options).enumeration
      (findShortestPathMulti engine graph sources goals options) (k - 1).toNat)
  accepted : ((kShortest engine graph sources goals options).enumeration
    (findShortestPathMulti engine graph sources goals options) (k - 1).toNat).accepted =
      result.map KShortest.entry
  found : forall path, path ∈ result -> path.found = true

theorem Enumerates.paths {engine : Engine R} {graph : NavGraph R R} {sources goals : List (SeededEndpoint R)}
    {k : Int} {options : SearchOptions R} {result : List (ShortestPath R)}
    (enumerates : Enumerates engine graph sources goals k options result) :
    ((kShortest engine graph sources goals options).enumeration
      (findShortestPathMulti engine graph sources goals options) (k - 1).toNat).paths =
      result.map ShortestPath.vertices := by
  rw [Deviation.Problem.State.paths, enumerates.accepted, List.map_map]
  rfl

/-- Where the spurs of a call start makes no difference, as long as it is no
later than where the last path left its parent. -/
theorem findKShortestPathsFrom_enumerates (start : Int -> Int) (start' : Nat -> Nat)
    (starts : forall depth : Nat, start (depth - 1) = start' depth - 1)
    (early : forall depth, start' depth ≤ depth) {engine : Engine R} {graph : NavGraph R R}
    {sources goals : List (SeededEndpoint R)} {k : Int} {options : SearchOptions R}
    (proper : ¬ kShortestEmpty engine graph sources goals k options) :
    Enumerates engine graph sources goals k options
      (findKShortestPathsFrom start engine graph sources goals k options) := by
  simp only [kShortestEmpty, not_or, Bool.not_eq_false] at proper
  rcases proper with ⟨positive, someSource, someGoal, found⟩
  have nontrivial : ¬ (k ≤ 0 ∨ sources.isEmpty = true ∨ goals.isEmpty = true) := by
    simp only [not_or, List.isEmpty_iff]
    exact ⟨positive, someSource, someGoal⟩
  have route : (kShortest engine graph sources goals options).base.Route sources
      (findShortestPathMulti engine graph sources goals options).vertices :=
    SearchSetup.isRoute_of_found _ sources SearchWorkspace.stamped_empty found
  have initialSound := Deviation.Problem.sound_initial
    (kShortest engine graph sources goals options).deviation
    (KShortest.entry (findShortestPathMulti engine graph sources goals options))
  have initialRoutes := (kShortest engine graph sources goals options).routes_initial route
  have run := Deviation.Problem.rounds_induction _ (k - 1).toNat initialSound initialRoutes
    fun _ _ sound routes step => routes.round sound step
  have refines := KShortest.refines_rounds start start' starts early (k - 1).toNat
    ((kShortest engine graph sources goals options).refines_initial found
      (SearchSetup.stamped_findShortestPathMulti
        (kShortest engine graph sources goals options).base sources SearchWorkspace.stamped_empty))
    initialSound initialRoutes
  have result : findKShortestPathsFrom start engine graph sources goals k options =
      ((kShortest engine graph sources goals options).rounds start (k - 1).toNat
        ((kShortest engine graph sources goals options).initial
          (findShortestPathMulti engine graph sources goals options)
          ((kShortest engine graph sources goals options).base.findShortestPathMulti sources
            .empty).2)).result := by
    unfold findKShortestPathsFrom
    rw [if_neg nontrivial]
    exact if_neg (by rw [Bool.not_eq_true', Bool.not_eq_false]; exact found)
  rw [result]
  exact ⟨run.1, run.2, refines.accepted, refines.found⟩

omit [LinearOrder R] [NatCast R] [Zero R] [One R] [Neg R] [Add R] [Sub R] [Mul R] [Div R] in
/-- Entries determine found paths. -/
theorem eq_of_map_entry {first second : List (ShortestPath R)}
    (same : first.map KShortest.entry = second.map KShortest.entry)
    (firstFound : forall path, path ∈ first -> path.found = true)
    (secondFound : forall path, path ∈ second -> path.found = true) : first = second := by
  induction first generalizing second with
  | nil =>
      cases second with
      | nil => rfl
      | cons _ _ => cases same
  | cons head rest inductionHypothesis =>
      cases second with
      | nil => cases same
      | cons head' rest' =>
          rw [List.map_cons, List.map_cons, List.cons.injEq] at same
          have headFound := firstFound head List.mem_cons_self
          have headFound' := secondFound head' List.mem_cons_self
          have tails := inductionHypothesis same.2
            (fun path member => firstFound path (List.mem_cons_of_mem _ member))
            (fun path member => secondFound path (List.mem_cons_of_mem _ member))
          cases head
          cases head'
          simp only [KShortest.entry, Prod.mk.injEq] at same headFound headFound'
          rw [tails, same.1.1, same.1.2.1, same.1.2.2, headFound, headFound']

/-- Lawler's pruning changes nothing: the paths, their costs and their distances
are those of the search that spurs everywhere in every round. -/
theorem findKShortestPathsMulti_eq_naive (engine : Engine R) (graph : NavGraph R R)
    (sources goals : List (SeededEndpoint R)) (k : Int) (options : SearchOptions R) :
    findKShortestPathsMulti engine graph sources goals k options =
      findKShortestPathsNaive engine graph sources goals k options := by
  unfold findKShortestPathsMulti findKShortestPathsNaive
  by_cases empty : kShortestEmpty engine graph sources goals k options
  · rw [findKShortestPathsFrom_empty empty, findKShortestPathsFrom_empty empty]
  · have pruned := findKShortestPathsFrom_enumerates id id (fun _ => rfl)
      (fun _ => Nat.le_refl _) empty
    have naive := findKShortestPathsFrom_enumerates (fun _ => -1) (fun _ => 0)
      (fun _ => rfl) Nat.zero_le empty
    exact eq_of_map_entry (pruned.accepted.symm.trans naive.accepted) pruned.found naive.found

end EntryPoint
end BravoFinder
