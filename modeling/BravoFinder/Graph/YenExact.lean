import BravoFinder.Graph.YenOrder
import Mathlib.Data.List.Permutation

namespace BravoFinder

/-!
# The K-shortest search is exact without turns

Without turns no order is lost, so with a consistent heuristic every spur search
is an exact one.  `Deviation.Problem.rounds_exact` then says that the search
returns the cheapest feasible paths, as many as it was asked for.
-/

variable {R : Type} [Field R] [LinearOrder R] [IsStrictOrderedRing R]

/-- What is assumed of a query: its turns are free, no seed is negative and the
heuristic is consistent. -/
structure ExactQuery (engine : Engine R) (graph : NavGraph R R)
    (sources goals : List (SeededEndpoint R)) (options : SearchOptions R) : Prop where
  turnOff : options.turnPenalty.enabled = false
  sourcesNonneg : forall source, source ∈ sources -> 0 ≤ source.cost
  goalsNonneg : forall goal, goal ∈ goals -> 0 ≤ goal.cost
  heuristic : ConsistentHeuristic engine graph goals options

namespace ExactQuery

variable {engine : Engine R} {graph : NavGraph R R} {sources goals : List (SeededEndpoint R)}
  {options : SearchOptions R} (query : ExactQuery engine graph sources goals options)

include query

omit [IsStrictOrderedRing R] in
theorem ordered : OrderedQuery engine graph sources goals options where
  sourcesNonneg := query.sourcesNonneg
  goalsNonneg := query.goalsNonneg
  heuristic := query.heuristic
  turns _ _ := .of_turnOff query.turnOff _ _

/-- A feasible path is ranked by its least journey. -/
theorem isLeast_price {path : List Int} (feasible : FeasiblePath graph sources goals options path) :
    ((kShortest engine graph sources goals options).pathCost path).isSome = true ∧
      IsLeast {c | Journey graph sources goals options path c}
        ((kShortest engine graph sources goals options).deviation.price
          ((kShortest engine graph sources goals options).deviation.label path)) := by
  rcases isLeast_journey engine query.turnOff query.sourcesNonneg query.goalsNonneg
    (kShortest engine graph sources goals options).base.tables.sourceBearing
    (kShortest engine graph sources goals options).base.tables.goalBearing feasible with
    ⟨cost, distance, priced, least⟩
  have pathCost : (kShortest engine graph sources goals options).pathCost path = some (cost, distance) :=
    priced
  simp only [KShortest.deviation, pathCost, Option.getD_some, Option.isSome_some, true_and]
  exact least

omit query [LinearOrder R] [IsStrictOrderedRing R] in
/-- A graph has finitely many simple paths. -/
theorem finite_feasiblePath (graph : NavGraph R R) (sources goals : List (SeededEndpoint R))
    (options : SearchOptions R) : {path | FeasiblePath graph sources goals options path}.Finite := by
  refine (List.finite_toSet (graph.vertices.sublists.flatMap List.permutations)).subset ?_
  intro path feasible
  have included : path ⊆ graph.vertices := fun v member =>
    (graph.mem_vertices v).mpr (feasible.inRange v member)
  rcases List.subperm_of_subset feasible.nodup included with ⟨ordered, perm, sublist⟩
  exact List.mem_flatMap.mpr ⟨ordered, List.mem_sublists.mpr sublist, List.mem_permutations.mpr perm.symm⟩

/-- A call that returns nothing at once was asked for nothing, or there is no
feasible path. -/
theorem no_feasiblePath {k : Int} (positive : 0 < k)
    (empty : kShortestEmpty engine graph sources goals k options) (path : List Int) :
    ¬ FeasiblePath graph sources goals options path := by
  intro feasible
  rcases empty with noK | noSource | noGoal | missing
  · omega
  · rcases feasible.starts with ⟨_, listed, _⟩
    rw [noSource] at listed
    cases listed
  · rcases feasible.ends with ⟨_, listed, _⟩
    rw [noGoal] at listed
    cases listed
  · have found := (query.ordered.first_le feasible).1
    rw [missing] at found
    cases found

end ExactQuery

/-- What it means to return the `k` cheapest feasible paths of a query. -/
structure KCheapest (graph : NavGraph R R) (sources goals : List (SeededEndpoint R)) (k : Int)
    (options : SearchOptions R) (result : List (ShortestPath R)) : Prop where
  distinct : (result.map ShortestPath.vertices).Nodup
  finite : {path | FeasiblePath graph sources goals options path}.Finite
  length : result.length = min k.toNat {path | FeasiblePath graph sources goals options path}.ncard
  feasible : forall path, path ∈ result -> FeasiblePath graph sources goals options path.vertices
  cost : forall path, path ∈ result ->
    IsLeast {c | Journey graph sources goals options path.vertices c} path.cost
  ascending : result.Pairwise fun first second => first.cost ≤ second.cost
  least : forall path, path ∈ result -> forall other, FeasiblePath graph sources goals options other ->
    other ∉ result.map ShortestPath.vertices ->
    forall cost, Journey graph sources goals options other cost -> path.cost ≤ cost

/-- Without turns the K-shortest search returns the `k` cheapest feasible paths,
or all of them when there are fewer. -/
theorem findKShortestPathsMulti_kCheapest (engine : Engine R) (graph : NavGraph R R)
    (sources goals : List (SeededEndpoint R)) (k : Int) (options : SearchOptions R)
    (query : ExactQuery engine graph sources goals options) :
    KCheapest graph sources goals k options
      (findKShortestPathsMulti engine graph sources goals k options) := by
  have finite := ExactQuery.finite_feasiblePath graph sources goals options
  by_cases empty : kShortestEmpty engine graph sources goals k options
  · have nothing : findKShortestPathsMulti engine graph sources goals k options = [] :=
      findKShortestPathsFrom_empty empty
    rw [nothing]
    refine ⟨.nil, finite, ?_, fun _ member => absurd member List.not_mem_nil,
      fun _ member => absurd member List.not_mem_nil, .nil,
      fun _ member => absurd member List.not_mem_nil⟩
    by_cases positive : 0 < k
    · have none : {path | FeasiblePath graph sources goals options path} = ∅ :=
        Set.eq_empty_of_forall_notMem (query.no_feasiblePath positive empty)
      rw [none, Set.ncard_empty, Nat.min_zero, List.length_nil]
    · rw [Int.toNat_of_nonpos (not_lt.mp positive), Nat.zero_min, List.length_nil]
  · have enumerates : Enumerates engine graph sources goals k options
        (findKShortestPathsMulti engine graph sources goals k options) :=
      findKShortestPathsFrom_enumerates id id (fun _ => rfl) (fun _ => Nat.le_refl _) empty
    have found := found_of_not_kShortestEmpty empty
    have charged := charged_enumeration goals options query.sourcesNonneg found (k - 1).toNat
    have exactRun := Deviation.Problem.rounds_exact query.ordered.exact_deviation finite
      (query.ordered.cheapest_first found) (k - 1).toNat
    rcases exactRun with ⟨cheapest, distinct, length⟩
    change Deviation.Problem.Cheapest _ _ (KShortest.enumeration _ _ _) at cheapest
    change (KShortest.enumeration _ _ _).paths.Nodup at distinct
    change (KShortest.enumeration _ _ _).accepted.length = _ at length
    have paths := enumerates.paths
    have positive : 0 < k := by
      by_contra notPositive
      exact empty (Or.inl (not_lt.mp notPositive))
    have accepted : forall path, path ∈ findKShortestPathsMulti engine graph sources goals k options ->
        KShortest.entry path ∈ ((kShortest engine graph sources goals options).enumeration
          (findShortestPathMulti engine graph sources goals options) (k - 1).toNat).accepted := by
      intro path member
      rw [enumerates.accepted]
      exact List.mem_map_of_mem member
    have feasible : forall path, path ∈ findKShortestPathsMulti engine graph sources goals k options ->
        FeasiblePath graph sources goals options path.vertices := by
      intro path member
      apply cheapest.feasible
      rw [paths]
      exact List.mem_map_of_mem member
    refine ⟨paths ▸ distinct, finite, ?_, feasible, ?_, ?_, ?_⟩
    · rw [enumerates.accepted, List.length_map] at length
      rw [length]
      congr 1
      omega
    · intro path member
      have priced := charged.accepted _ (accepted path member)
      have least := (query.isLeast_price (feasible path member)).2
      simp only [KShortest.deviation, KShortest.entry] at priced least
      rw [priced] at least
      exact least
    · have ascending := cheapest.ascending
      rw [enumerates.accepted, List.pairwise_map] at ascending
      exact ascending
    · intro path member other otherFeasible fresh cost journey
      rw [← paths] at fresh
      exact (cheapest.least _ (accepted path member) other otherFeasible fresh).trans
        ((query.isLeast_price otherFeasible).2.2 journey)

/-- On the equator the chord is the distance, so it satisfies the triangle
inequality over every edge. -/
theorem exactQuery_line :
    ExactQuery lineEngine lineGraph [lineEndpoint 0, lineEndpoint 2] [lineEndpoint 3]
      (lineOptions false) where
  turnOff := rfl
  sourcesNonneg := by decide
  goalsNonneg := by decide
  heuristic := consistentHeuristic_line (by decide +kernel) (by decide +kernel)

theorem findKShortestPathsMulti_kCheapest_line :
    (findKShortestPathsMulti lineEngine lineGraph [lineEndpoint 0, lineEndpoint 2] [lineEndpoint 3] 3
      (lineOptions false)).map ShortestPath.cost = [240, 300] ∧
    KCheapest lineGraph [lineEndpoint 0, lineEndpoint 2] [lineEndpoint 3] 3 (lineOptions false)
      (findKShortestPathsMulti lineEngine lineGraph [lineEndpoint 0, lineEndpoint 2] [lineEndpoint 3] 3
        (lineOptions false)) :=
  ⟨by decide +kernel, findKShortestPathsMulti_kCheapest _ _ _ _ _ _ exactQuery_line⟩

end BravoFinder
