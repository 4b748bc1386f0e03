import BravoFinder.Graph.SearchCost
import BravoFinder.Graph.YenRefinement
import Mathlib.Algebra.Order.Ring.Rat
import Mathlib.Algebra.Field.Rat

namespace BravoFinder

/-!
# Every K-shortest result carries its own cost

The first path is priced by the search, the others by `CostOfPathMulti` when
they become candidates.  In exact arithmetic the two agree, so all of them are
ranked by one cost.
-/

/-- A path between listed endpoints that repeats no vertex. -/
structure SeededPath {R : Type} (sources goals : List (SeededEndpoint R)) (path : List Int) : Prop where
  nonempty : path ≠ []
  nodup : path.Nodup
  starts : exists source, source ∈ sources ∧ path.head? = some source.vertex
  ends : exists goal, goal ∈ goals ∧ path.getLast? = some goal.vertex

namespace KShortest

variable {R : Type} [LinearOrder R] [NatCast R] [Zero R] [One R] [Neg R] [Add R] [Sub R] [Mul R]
  [Div R] {problem : KShortest R}

variable (problem) in
/-- Every accepted path carries its own cost, and every pending one has a cost. -/
structure Charged (first : List Int × (R × R)) (abstract : problem.deviation.State) : Prop where
  head : abstract.accepted.head? = some first
  accepted : forall entry, entry ∈ abstract.accepted -> problem.pathCost entry.1 = some entry.2
  pending : forall candidate, candidate ∈ abstract.pending ->
    (problem.pathCost candidate.1).isSome = true

theorem Charged.round {first : List Int × (R × R)} {abstract following : problem.deviation.State}
    (charged : problem.Charged first abstract)
    (step : problem.deviation.round id abstract = some following) :
    problem.Charged first following := by
  rcases Deviation.Problem.round_eq_some problem.deviation step with
    ⟨path, depth, popped, accepted, _, _⟩
  have members := StdSet.mem_of_popBegin popped
  have spurred : forall candidate, candidate ∈ problem.deviation.spurs abstract abstract.depth ->
      (problem.pathCost candidate.1).isSome = true := by
    intro candidate member
    rcases Deviation.Problem.mem_of_mem_spurs member with old | ⟨_, _, answer⟩
    · exact charged.pending candidate old
    · exact (problem.spurAnswer_eq_some answer).2.2
  constructor
  · rw [accepted, List.head?_append, charged.head]
    rfl
  · intro entry member
    rw [accepted] at member
    rcases List.mem_append.mp member with old | new
    · exact charged.accepted entry old
    · rcases Option.isSome_iff_exists.mp (spurred _ ((members (path, depth)).mpr (Or.inl rfl))) with
        ⟨cost, priced⟩
      rw [List.mem_singleton.mp new]
      simp only [deviation] at priced ⊢
      rw [priced, Option.getD_some]
  · exact fun candidate member => spurred candidate ((members candidate).mpr (Or.inr member))

end KShortest

variable {R : Type} [Field R] [LinearOrder R] [IsStrictOrderedRing R]

/-- The path of a search is priced like a candidate. -/
theorem KShortest.pathCost_of_found (engine : Engine R) (graph : NavGraph R R)
    {sources : List (SeededEndpoint R)} (goals : List (SeededEndpoint R)) (options : SearchOptions R)
    (nonneg : forall source, source ∈ sources -> 0 ≤ source.cost)
    (found : (findShortestPathMulti engine graph sources goals options).found = true) :
    (kShortest engine graph sources goals options).pathCost
        (findShortestPathMulti engine graph sources goals options).vertices =
      some (entry (findShortestPathMulti engine graph sources goals options)).2 :=
  SearchSetup.costOfPathMulti_of_found (kShortest engine graph sources goals options).base nonneg
    SearchWorkspace.stamped_empty found

omit [IsStrictOrderedRing R] in
theorem found_of_not_kShortestEmpty {engine : Engine R} {graph : NavGraph R R}
    {sources goals : List (SeededEndpoint R)} {k : Int} {options : SearchOptions R}
    (proper : ¬ kShortestEmpty engine graph sources goals k options) :
    (findShortestPathMulti engine graph sources goals options).found = true := by
  simp only [kShortestEmpty, not_or, Bool.not_eq_false] at proper
  exact proper.2.2.2

/-- Every path of an enumeration carries its own cost. -/
theorem charged_enumeration {engine : Engine R} {graph : NavGraph R R}
    {sources : List (SeededEndpoint R)} (goals : List (SeededEndpoint R)) (options : SearchOptions R)
    (nonneg : forall source, source ∈ sources -> 0 ≤ source.cost)
    (found : (findShortestPathMulti engine graph sources goals options).found = true) (count : Nat) :
    (kShortest engine graph sources goals options).Charged
      (KShortest.entry (findShortestPathMulti engine graph sources goals options))
      ((kShortest engine graph sources goals options).enumeration
        (findShortestPathMulti engine graph sources goals options) count) := by
  have run := Deviation.Problem.rounds_induction
    ((kShortest engine graph sources goals options).Charged
      (KShortest.entry (findShortestPathMulti engine graph sources goals options)))
    count (Deviation.Problem.sound_initial _ _)
    ⟨rfl, fun entry member => by
        rw [List.mem_singleton.mp member]
        exact KShortest.pathCost_of_found engine graph goals options nonneg found,
      fun candidate member => absurd member (StdSet.not_mem_empty candidate)⟩
    (fun _ _ _ holds step => holds.round step)
  exact run.2

omit [IsStrictOrderedRing R] in
/-- The path of a route runs between listed endpoints. -/
theorem SeededPath.of_route {engine : Engine R} {graph : NavGraph R R}
    {sources goals : List (SeededEndpoint R)} {options : SearchOptions R} {path : List Int}
    (route : (searchSetup engine graph sources goals options).Route sources path) :
    SeededPath sources goals path := by
  rcases route.ends with ⟨goal, last, isGoal⟩
  rcases exists_of_buildSeedTable engine.sentinel_neg isGoal with ⟨endpoint, listed, same⟩
  exact ⟨route.nonempty, route.nodup, route.starts, endpoint, listed, same ▸ last⟩

/-- What the results of a K-shortest search are. -/
structure KRoutes (engine : Engine R) (graph : NavGraph R R) (sources goals : List (SeededEndpoint R))
    (options : SearchOptions R) (result : List (ShortestPath R)) : Prop where
  route : forall path, path ∈ result ->
    (searchSetup engine graph sources goals options).Route sources path.vertices
  priced : forall path, path ∈ result ->
    costOfPathMulti engine.earth graph path.vertices
        (buildSeedTable sources graph.vertexCount) (buildSeedTable goals graph.vertexCount)
        (buildBearingTable sources graph.vertexCount) (buildBearingTable goals graph.vertexCount)
        options = some (path.cost, path.distanceNm)
  distinct : (result.map ShortestPath.vertices).Nodup

/-- Every result is a route with its own cost, and no path comes twice. -/
theorem findKShortestPathsMulti_routes (engine : Engine R) (graph : NavGraph R R)
    (sources goals : List (SeededEndpoint R)) (nonneg : forall source, source ∈ sources -> 0 ≤ source.cost)
    (k : Int) (options : SearchOptions R) :
    KRoutes engine graph sources goals options
      (findKShortestPathsMulti engine graph sources goals k options) := by
  by_cases empty : kShortestEmpty engine graph sources goals k options
  · have nothing : findKShortestPathsMulti engine graph sources goals k options = [] :=
      findKShortestPathsFrom_empty empty
    rw [nothing]
    exact ⟨fun _ member => absurd member List.not_mem_nil, fun _ member => absurd member List.not_mem_nil,
      .nil⟩
  · have enumerates : Enumerates engine graph sources goals k options
        (findKShortestPathsMulti engine graph sources goals k options) :=
      findKShortestPathsFrom_enumerates id id (fun _ => rfl) (fun _ => Nat.le_refl _) empty
    have charged := charged_enumeration goals options nonneg (found_of_not_kShortestEmpty empty) (k - 1).toNat
    have paths := enumerates.paths
    refine ⟨fun path member => enumerates.routes.accepted _ ?_, fun path member =>
      charged.accepted (KShortest.entry path) ?_, ?_⟩
    · rw [paths]
      exact List.mem_map_of_mem member
    · rw [enumerates.accepted]
      exact List.mem_map_of_mem member
    · rw [← paths]
      exact enumerates.sound.nodup

/-- What one cost model means for one query. -/
structure OneCostModel (engine : Engine R) (graph : NavGraph R R) (sources goals : List (SeededEndpoint R))
    (k : Int) (options : SearchOptions R) : Prop where
  single : (findShortestPathMulti engine graph sources goals options).found = true ->
    SeededPath sources goals (findShortestPathMulti engine graph sources goals options).vertices ∧
    costOfPathMulti engine.earth graph
        (findShortestPathMulti engine graph sources goals options).vertices
        (buildSeedTable sources graph.vertexCount) (buildSeedTable goals graph.vertexCount)
        (buildBearingTable sources graph.vertexCount) (buildBearingTable goals graph.vertexCount)
        options =
      some ((findShortestPathMulti engine graph sources goals options).cost,
        (findShortestPathMulti engine graph sources goals options).distanceNm)
  several : forall path, path ∈ findKShortestPathsMulti engine graph sources goals k options ->
    SeededPath sources goals path.vertices ∧
    costOfPathMulti engine.earth graph path.vertices
        (buildSeedTable sources graph.vertexCount) (buildSeedTable goals graph.vertexCount)
        (buildBearingTable sources graph.vertexCount) (buildBearingTable goals graph.vertexCount)
        options = some (path.cost, path.distanceNm)
  distinct : ((findKShortestPathsMulti engine graph sources goals k options).map
    ShortestPath.vertices).Nodup
  first : 0 < k -> (findKShortestPathsMulti engine graph sources goals k options).head? =
    if (findShortestPathMulti engine graph sources goals options).found then
      some (findShortestPathMulti engine graph sources goals options) else none

/-- Both searches price their paths by `CostOfPathMulti`, whatever the
constraints, the bans and the turn penalty. -/
theorem oneCostModel (engine : Engine R) (graph : NavGraph R R) (sources goals : List (SeededEndpoint R))
    (nonneg : forall source, source ∈ sources -> 0 ≤ source.cost) (k : Int)
    (options : SearchOptions R) : OneCostModel engine graph sources goals k options := by
  have single : (findShortestPathMulti engine graph sources goals options).found = true ->
      SeededPath sources goals (findShortestPathMulti engine graph sources goals options).vertices :=
    fun found => .of_route
      (SearchSetup.isRoute_of_found (searchSetup engine graph sources goals options) sources
        SearchWorkspace.stamped_empty found)
  have results := findKShortestPathsMulti_routes engine graph sources goals nonneg k options
  refine ⟨fun found => ⟨single found, KShortest.pathCost_of_found engine graph goals options nonneg found⟩,
    fun path member => ⟨.of_route (results.route path member), results.priced path member⟩,
    results.distinct, fun positive => ?_⟩
  by_cases empty : kShortestEmpty engine graph sources goals k options
  · have nothing : findKShortestPathsMulti engine graph sources goals k options = [] :=
      findKShortestPathsFrom_empty empty
    have missing : ¬ (findShortestPathMulti engine graph sources goals options).found = true := by
      intro found
      have path := single found
      rcases empty with noK | noSource | noGoal | missing
      · omega
      · rcases path.starts with ⟨_, listed, _⟩
        rw [noSource] at listed
        cases listed
      · rcases path.ends with ⟨_, listed, _⟩
        rw [noGoal] at listed
        cases listed
      · rw [missing] at found
        cases found
    rw [nothing, if_neg missing]
    rfl
  · have enumerates : Enumerates engine graph sources goals k options
        (findKShortestPathsMulti engine graph sources goals k options) :=
      findKShortestPathsFrom_enumerates id id (fun _ => rfl) (fun _ => Nat.le_refl _) empty
    have found := found_of_not_kShortestEmpty empty
    have head := (charged_enumeration goals options nonneg found (k - 1).toNat).head
    have allFound := enumerates.found
    rw [enumerates.accepted] at head
    rw [if_pos found]
    generalize findKShortestPathsMulti engine graph sources goals k options = result at head allFound
    cases result with
    | nil => cases head
    | cons path rest =>
        have same := Option.some.inj head
        have single : [path] = [findShortestPathMulti engine graph sources goals options] :=
          eq_of_map_entry (by rw [List.map_singleton, List.map_singleton, same])
            (fun other member => by
              rw [List.mem_singleton.mp member]
              exact allFound path List.mem_cons_self)
            (fun other member => by
              rw [List.mem_singleton.mp member]
              exact found)
        rw [List.head?_cons, List.head_eq_of_cons_eq single]

/-! ## Four fixes on the equator -/

/-- Distance and heading between positions on the equator. -/
def lineEarth : Geodesy ℚ where
  distanceTo origin target := 60 * |origin.longitude - target.longitude|
  bearingTo origin target := if origin.longitude ≤ target.longitude then 90 else 270
  chordNm origin target := 60 * |origin.longitude - target.longitude|
  distanceTo_nonneg origin target := mul_nonneg (by decide) (abs_nonneg _)
  bearingTo_nonneg origin target := by split <;> decide

def lineEngine : Engine ℚ where
  earth := lineEarth
  openSet := StdHeap.sorted QueueNode.f fun _ _ comes => comes
  sentinel_neg := by decide

/-- An edge of an unrestricted airway. -/
def lineEdge (target : Int) (distance : ℚ) : GraphEdge ℚ := ⟨target, distance, 0, 0, 660, .kBoth⟩

/-- The fixes 0, 1, 2 and 3 at longitudes 0, 2, 3 and 5.  From 0 and from 2 the
way to 3 leads over 1, but 2 lies behind it, so that way turns back there. -/
def lineGraph : NavGraph ℚ ℚ where
  coords := [⟨0, 0⟩, ⟨0, 2⟩, ⟨0, 3⟩, ⟨0, 5⟩]
  offsets := [0, 1, 2, 3, 3]
  edges := [lineEdge 1 120, lineEdge 3 180, lineEdge 1 60]
  offsets_length := rfl
  offsets_sorted := by decide
  offsets_le := by decide
  edges_to := by decide
  vertexCount_lt := by decide

/-- No constraint and no ban. -/
def lineOptions (turns : Bool) : SearchOptions ℚ := ⟨[], none, ⟨turns⟩, .none, .none⟩

/-- An endpoint without a procedure. -/
def lineEndpoint (vertex : Int) : SeededEndpoint ℚ := ⟨vertex, 0, kNoBearing⟩

theorem oneCostModel_line :
    (findKShortestPathsMulti lineEngine lineGraph [lineEndpoint 0, lineEndpoint 2] [lineEndpoint 3] 3
      (lineOptions true)).length = 2 ∧
    OneCostModel lineEngine lineGraph [lineEndpoint 0, lineEndpoint 2] [lineEndpoint 3] 3
      (lineOptions true) :=
  ⟨by decide +kernel, oneCostModel _ _ _ _ (by decide) _ _⟩

end BravoFinder
