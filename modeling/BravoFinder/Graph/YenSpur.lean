import BravoFinder.Graph.WorkspaceReuse
import BravoFinder.Graph.YenKShortest
import BravoFinder.Library.Deviation

namespace BravoFinder

/-!
# The spur search as a function of its root

A spur reads the accepted paths only through the steps they take after its
root.  `spurAnswer` is the spur written that way, without the tables and the
workspace the source reuses, and `deviation` is the path problem it makes: an
answer continues its root by a step not taken yet.
-/

open Deviation

namespace KShortest

variable {R : Type} [LinearOrder R] [NatCast R] [Zero R] [One R] [Neg R] [Add R] [Sub R] [Mul R]
  [Div R] (problem : KShortest R)

/-! ## One spur -/

/-- The sources that no taken first step names. -/
def openSources (taken : List (Option Int)) : List (SeededEndpoint R) :=
  problem.sources.filter fun source => decide (some source.vertex ∉ taken)

/-- The vertex a root ends at. -/
def spurNode (root : List Int) : Int :=
  root.getD (root.length - 1) kNoVertex

/-- The goal seeds of a spur: ending at the root is a step like any other. -/
def spurGoalSeed (root : List Int) (taken : List (Option Int)) : Int -> R :=
  if none ∈ taken then Function.update problem.base.tables.goalSeed (spurNode root) (-1)
  else problem.base.tables.goalSeed

/-- The source headings of a spur: its node is entered along the root. -/
def spurSourceBearing (root : List Int) : Int -> R :=
  Function.update (fun _ => kNoBearing) (spurNode root)
    (problem.inboundAtSpur root (root.length - 1))

/-- The keys of the taken edges out of the spur node. -/
def takenEdges (root : List Int) (taken : List (Option Int)) : List Int :=
  taken.filterMap fun step => step.map (edgeKey (spurNode root))

/-- The search a spur at a vertex runs. -/
def nodeSearch (root : List Int) (taken : List (Option Int)) : SearchSetup R :=
  problem.spurSetup (problem.spurGoalSeed root taken) (problem.spurSourceBearing root)
    (problem.spurOptions root (takenEdges root taken))

/-- The source of that search. -/
def nodeSource (root : List Int) : SeededEndpoint R :=
  ⟨spurNode root, 0, kNoBearing⟩

/-- The only goal left is the one the root already ends at. -/
def spurSkipped (root : List Int) (taken : List (Option Int)) : Prop :=
  none ∈ taken ∧ 0 ≤ problem.base.tables.goalSeed (spurNode root) ∧ problem.goalCount < 2

instance (root : List Int) (taken : List (Option Int)) : Decidable (problem.spurSkipped root taken) :=
  inferInstanceAs (Decidable (_ ∧ _ ∧ _))

/-- The tail a spur finds. -/
def spurTail (root : List Int) (taken : List (Option Int)) : ShortestPath R :=
  if root.isEmpty then (problem.base.findShortestPathMulti (problem.openSources taken) .empty).1
  else if problem.spurSkipped root taken then .unreachable
  else ((problem.nodeSearch root taken).findShortestPathMulti [nodeSource root] .empty).1

/-- The stitched path of a spur, when it can be priced. -/
def spurAnswer (root : List Int) (taken : List (Option Int)) : Option (List Int) :=
  let spur := problem.spurTail root taken
  if !spur.found || spur.vertices.isEmpty then none
  else if (problem.pathCost (stitch root spur.vertices)).isSome then
    some (stitch root spur.vertices)
  else none

theorem spurAnswer_eq_some {root : List Int} {taken : List (Option Int)} {path : List Int}
    (answer : problem.spurAnswer root taken = some path) :
    (problem.spurTail root taken).found = true ∧
      path = stitch root (problem.spurTail root taken).vertices ∧
      (problem.pathCost path).isSome = true := by
  unfold spurAnswer at answer
  simp only at answer
  split at answer
  · cases answer
  · rename_i found
    split at answer
    · rename_i priced
      cases answer
      rw [Bool.or_eq_true, not_or, Bool.not_eq_true', Bool.not_eq_false] at found
      exact ⟨found.1, rfl, priced⟩
    · cases answer

theorem mem_mergeBanned (caller : Option (SortedVector Int)) (yen : List Int) (key : Int) :
    key ∈ (mergeBanned caller yen).elems ↔
      (exists vector, caller = some vector ∧ key ∈ vector.elems) ∨ key ∈ yen := by
  unfold mergeBanned
  cases caller with
  | none =>
      rw [SortedVector.mem_ofList]
      constructor
      · exact Or.inr
      · rintro (⟨_, impossible, _⟩ | member)
        · cases impossible
        · exact member
  | some vector =>
      rw [SortedVector.mem_ofList, List.mem_append]
      constructor
      · exact Or.imp_left fun member => ⟨vector, rfl, member⟩
      · rintro (⟨_, same, member⟩ | member)
        · cases same
          exact Or.inl member
        · exact Or.inr member

/-! ## What a spur may enter and take -/

omit [NatCast R] [Add R] [Sub R] [Mul R] [Div R] in
/-- A vertex the spur may enter is off the root and allowed by the caller. -/
theorem unblocked_spurOptions {root edges : List Int} {v : Int} :
    (problem.spurOptions root edges).nodeFilter.blocks v = false ↔
      v ∉ root.dropLast ∧ problem.base.options.nodeFilter.blocks v = false := by
  unfold NodeFilter.blocks spurOptions
  simp only
  split
  · exact iff_of_false (Bool.true_eq_false ▸ id) fun holds => Bool.noConfusion holds.2
  · rw [← Bool.not_eq_true, SortedVector.binarySearch_eq_true, mem_mergeBanned, not_or, and_comm]
    refine and_congr_right fun _ => ?_
    cases problem.base.options.nodeFilter.banned with
    | none => simp only [reduceCtorEq, false_and, exists_false, not_false_eq_true]
    | some vector =>
        simp only [Option.some.injEq, exists_eq_left', ← Bool.not_eq_true,
          SortedVector.binarySearch_eq_true]

omit [NatCast R] [Add R] [Sub R] [Mul R] [Div R] in
/-- An edge the spur may take is not taken yet and allowed by the caller. -/
theorem unbanned_spurOptions {root edges : List Int} {u v : Int} :
    (problem.spurOptions root edges).edgeFilter.blocks u v = false ↔
      edgeKey u v ∉ edges ∧ problem.base.options.edgeFilter.blocks u v = false := by
  unfold EdgeFilter.blocks spurOptions
  simp only
  rw [← Bool.not_eq_true, SortedVector.binarySearch_eq_true, mem_mergeBanned, not_or, and_comm]
  refine and_congr_right fun _ => ?_
  cases problem.base.options.edgeFilter.banned with
  | none => simp only [reduceCtorEq, false_and, exists_false, not_false_eq_true]
  | some vector =>
      simp only [Option.some.injEq, exists_eq_left', ← Bool.not_eq_true,
        SortedVector.binarySearch_eq_true]

omit [NatCast R] [Sub R] [Mul R] [Div R] in
theorem step_of_nodeSearch {root : List Int} {taken : List (Option Int)} {u v : Int}
    (step : (problem.nodeSearch root taken).Step u v) : problem.base.Step u v where
  node := (problem.unblocked_spurOptions.mp step.node).2
  banned := (problem.unbanned_spurOptions.mp step.banned).2
  edge := step.edge

omit [NatCast R] [Add R] [Sub R] [Mul R] [Div R] in
/-- A goal of a spur is a goal of the caller, and not the root's own end once
that is taken. -/
theorem goal_of_spurGoalSeed {root : List Int} {taken : List (Option Int)} {v : Int}
    (isGoal : 0 ≤ problem.spurGoalSeed root taken v) :
    0 ≤ problem.base.tables.goalSeed v ∧ (none ∈ taken -> v ≠ spurNode root) := by
  unfold spurGoalSeed at isGoal
  split at isGoal
  · by_cases same : v = spurNode root
    · rw [same, Function.update_self] at isGoal
      exact absurd isGoal (not_le_of_gt problem.base.engine.sentinel_neg)
    · rw [Function.update_of_ne same] at isGoal
      exact ⟨isGoal, fun _ => same⟩
  · rename_i notTaken
    exact ⟨isGoal, fun ends => absurd ends notTaken⟩

/-! ## An answer continues its root -/

theorem eq_append_spurNode {root : List Int} (nonempty : root ≠ []) :
    root = root.dropLast ++ [spurNode root] := by
  have last : spurNode root = root.getLast nonempty := by
    rw [spurNode, List.getLast_eq_getElem, List.getD_eq_getElem?_getD, List.getElem?_eq_getElem,
      Option.getD_some]
  rw [last, List.dropLast_append_getLast]

theorem stitch_spurNode {root : List Int} (nonempty : root ≠ []) (tail : List Int) :
    stitch root (spurNode root :: tail) = root ++ tail := by
  rw [stitch]
  conv_rhs => rw [eq_append_spurNode nonempty]
  rw [List.append_assoc, List.singleton_append]

/-- The route of a spur that starts at the super-source. -/
theorem route_of_sourceSpur {taken : List (Option Int)}
    (found : (problem.spurTail [] taken).found = true) :
    problem.base.Route (problem.openSources taken) (problem.spurTail [] taken).vertices :=
  problem.base.isRoute_of_found (problem.openSources taken) SearchWorkspace.stamped_empty found

/-- The route of a spur that starts at a vertex. -/
theorem route_of_nodeSpur {root : List Int} {taken : List (Option Int)} (nonempty : root ≠ [])
    (found : (problem.spurTail root taken).found = true) :
    ¬ problem.spurSkipped root taken ∧
      problem.spurTail root taken =
        ((problem.nodeSearch root taken).findShortestPathMulti [nodeSource root] .empty).1 ∧
      (problem.nodeSearch root taken).Route [nodeSource root]
        (problem.spurTail root taken).vertices := by
  have notEmpty : ¬ root.isEmpty = true := fun empty => nonempty (List.isEmpty_iff.mp empty)
  unfold spurTail at found ⊢
  rw [if_neg notEmpty] at found ⊢
  split at found
  · cases found
  · rename_i searched
    rw [if_neg searched]
    exact ⟨searched, rfl, (problem.nodeSearch root taken).isRoute_of_found _
      SearchWorkspace.stamped_empty found⟩

/-- The tail of a spur at a vertex starts there and takes a step that is not
taken yet. -/
theorem nodeSpur_tail {root : List Int} {taken : List (Option Int)} (nonempty : root ≠ [])
    (found : (problem.spurTail root taken).found = true) :
    exists tail, (problem.spurTail root taken).vertices = spurNode root :: tail ∧
      tail.head? ∉ taken := by
  rcases problem.route_of_nodeSpur nonempty found with ⟨_, _, route⟩
  rcases route.starts with ⟨source, listed, first⟩
  rw [List.mem_singleton.mp listed] at first
  generalize (problem.spurTail root taken).vertices = vertices at route first
  cases vertices with
  | nil => cases first
  | cons head tail =>
      cases first
      refine ⟨tail, rfl, ?_⟩
      cases tail with
      | nil =>
          intro ends
          rcases route.ends with ⟨goal, last, isGoal⟩
          rw [List.getLast?_singleton] at last
          cases last
          exact (problem.goal_of_spurGoalSeed isGoal).2 ends rfl
      | cons v rest =>
          intro already
          have untaken := (List.isChain_cons_cons.mp route.steps).1.banned
          exact (problem.unbanned_spurOptions.mp untaken).1
            (List.mem_filterMap.mpr ⟨some v, already, rfl⟩)

/-- An answer is its root continued by a tail whose first step is not taken. -/
theorem spurAnswer_extends {root : List Int} {taken : List (Option Int)} {path : List Int}
    (answer : problem.spurAnswer root taken = some path) :
    exists tail, path = root ++ tail ∧ tail.head? ∉ taken := by
  rcases problem.spurAnswer_eq_some answer with ⟨found, same, _⟩
  by_cases empty : root = []
  · subst empty
    refine ⟨path, rfl, ?_⟩
    have route := problem.route_of_sourceSpur found
    rcases route.starts with ⟨source, listed, first⟩
    have equal : path = (problem.spurTail [] taken).vertices := same
    rw [equal, first]
    exact of_decide_eq_true (List.mem_filter.mp listed).2
  · rcases problem.nodeSpur_tail empty found with ⟨tail, vertices, isOpen⟩
    refine ⟨tail, ?_, isOpen⟩
    rw [same, vertices, stitch_spurNode empty]

/-! ## An answer is a route -/

omit [NatCast R] [Sub R] [Mul R] [Div R] in
/-- What approaches a vertex from the end of a root approaches it along the
root. -/
theorem approach_stitch {root tail : List Int} {taken : List (Option Int)} (nonempty : root ≠ [])
    (rootApproach : problem.base.Approach problem.sources root)
    (tailApproach : (problem.nodeSearch root taken).Approach [nodeSource root] (spurNode root :: tail)) :
    problem.base.Approach problem.sources (root ++ tail) := by
  have split := eq_append_spurNode nonempty
  have tailMember : forall {v}, v ∈ tail -> v ∈ spurNode root :: tail := List.mem_cons_of_mem _
  rcases List.nodup_cons.mp tailApproach.nodup with ⟨nodeFresh, tailDistinct⟩
  have tailSteps := tailApproach.steps.imp fun _ _ => problem.step_of_nodeSearch
  constructor
  · refine List.nodup_append.mpr ⟨rootApproach.nodup, tailDistinct, ?_⟩
    intro v inRoot w inTail equal
    subst equal
    rw [split, List.mem_append, List.mem_singleton] at inRoot
    rcases inRoot with early | isNode
    · exact (problem.unblocked_spurOptions.mp (tailApproach.unblocked v (tailMember inTail))).1 early
    · exact nodeFresh (isNode ▸ inTail)
  · intro v member
    rcases List.mem_append.mp member with inRoot | inTail
    · exact rootApproach.inRange v inRoot
    · exact tailApproach.inRange v (tailMember inTail)
  · intro v member
    rcases List.mem_append.mp member with inRoot | inTail
    · exact rootApproach.unblocked v inRoot
    · exact (problem.unblocked_spurOptions.mp (tailApproach.unblocked v (tailMember inTail))).2
  · rcases rootApproach.starts with ⟨source, listed, first⟩
    exact ⟨source, listed, by rw [List.head?_append_of_ne_nil _ nonempty, first]⟩
  · refine List.isChain_append.mpr ⟨rootApproach.steps, tailSteps.tail, ?_⟩
    intro u last v first
    rw [split, List.getLast?_concat] at last
    cases last
    cases tail with
    | nil => cases first
    | cons w rest =>
        cases first
        exact (List.isChain_cons_cons.mp tailSteps).1

/-- What a spur at a root of a route finds is a route again. -/
theorem route_of_spurTail {root prev : List Int} {taken : List (Option Int)}
    (route : problem.base.Route problem.sources prev) (shares : root <+: prev)
    (found : (problem.spurTail root taken).found = true) :
    problem.base.Route problem.sources (stitch root (problem.spurTail root taken).vertices) := by
  by_cases empty : root = []
  · subst empty
    exact (problem.route_of_sourceSpur found).mono fun source listed =>
      (List.mem_filter.mp listed).1
  rcases problem.route_of_nodeSpur empty found with ⟨_, _, tailRoute⟩
  rcases problem.nodeSpur_tail empty found with ⟨tail, vertices, _⟩
  rw [vertices] at tailRoute
  have rootApproach : problem.base.Approach problem.sources root := by
    rcases shares with ⟨others, rfl⟩
    have whole := route.approach
    rw [eq_append_spurNode empty, List.append_assoc, List.singleton_append] at whole
    rw [eq_append_spurNode empty]
    exact whole.before
  have approach := problem.approach_stitch empty rootApproach tailRoute.approach
  rw [vertices, stitch_spurNode empty]
  refine ⟨fun impossible => empty (List.append_eq_nil_iff.mp impossible).1, approach.nodup,
    approach.inRange, approach.unblocked, approach.starts, ?_, approach.steps⟩
  rcases tailRoute.ends with ⟨goal, last, isGoal⟩
  refine ⟨goal, ?_, (problem.goal_of_spurGoalSeed isGoal).1⟩
  rw [← last]
  conv_lhs => rw [eq_append_spurNode empty]
  rw [List.append_assoc, List.singleton_append, List.getLast?_append_of_ne_nil _ (List.cons_ne_nil _ _)]

theorem route_of_spurAnswer {root prev : List Int} {taken : List (Option Int)} {path : List Int}
    (route : problem.base.Route problem.sources prev) (shares : root <+: prev)
    (answer : problem.spurAnswer root taken = some path) :
    problem.base.Route problem.sources path := by
  rcases problem.spurAnswer_eq_some answer with ⟨found, same, _⟩
  rw [same]
  exact problem.route_of_spurTail route shares found

/-! ## The path problem -/

theorem mergeBanned_congr (caller : Option (SortedVector Int)) {first second : List Int}
    (same : forall key, key ∈ first ↔ key ∈ second) :
    mergeBanned caller first = mergeBanned caller second := by
  unfold mergeBanned
  split
  · exact SortedVector.ofList_congr same
  · exact SortedVector.ofList_congr fun key => by rw [List.mem_append, List.mem_append, same key]

theorem spurAnswer_congr (root : List Int) {first second : List (Option Int)}
    (same : forall step, step ∈ first ↔ step ∈ second) :
    problem.spurAnswer root first = problem.spurAnswer root second := by
  have sources : problem.openSources first = problem.openSources second := by
    refine List.filter_congr fun source _ => ?_
    simp only [same (some source.vertex)]
  have edges : forall key, key ∈ takenEdges root first ↔ key ∈ takenEdges root second := by
    intro key
    simp only [takenEdges, List.mem_filterMap, same]
  have options : problem.spurOptions root (takenEdges root first) =
      problem.spurOptions root (takenEdges root second) := by
    simp only [spurOptions, mergeBanned_congr _ edges]
  have seeds : problem.spurGoalSeed root first = problem.spurGoalSeed root second := by
    exact if_congr (same none) rfl rfl
  have search : problem.nodeSearch root first = problem.nodeSearch root second := by
    simp only [nodeSearch, options, seeds]
  have skipped : problem.spurSkipped root first ↔ problem.spurSkipped root second := by
    simp only [spurSkipped, same none]
  have tail : problem.spurTail root first = problem.spurTail root second := by
    unfold spurTail
    rw [sources, search]
    exact if_congr Iff.rfl rfl (if_congr skipped rfl rfl)
  simp only [spurAnswer, tail]

theorem next_append (root tail : List Int) : next root (root ++ tail) = tail.head? := by
  rw [next, List.getElem?_append_right (Nat.le_refl _), Nat.sub_self, List.head?_eq_getElem?]

/-- The path problem the K-shortest search enumerates. -/
def deviation : Deviation.Problem Int (R × R) R where
  spur := problem.spurAnswer
  label path := (problem.pathCost path).getD (0, 0)
  price := Prod.fst
  spur_congr root _ _ same := problem.spurAnswer_congr root same
  prefix_of_spur answer := by
    rcases problem.spurAnswer_extends answer with ⟨tail, rfl, _⟩
    exact List.prefix_append _ tail
  next_of_spur answer := by
    rcases problem.spurAnswer_extends answer with ⟨tail, rfl, isOpen⟩
    rw [next_append]
    exact isOpen

theorem rank_deviation {path : List Int} {cost distance : R}
    (priced : problem.pathCost path = some (cost, distance)) (depth : Nat) :
    problem.deviation.rank (path, depth) = toLex (cost, path) := by
  have label : problem.deviation.label path = (cost, distance) := by
    simp only [deviation, priced, Option.getD_some]
  rw [Deviation.Problem.rank, label]
  rfl



/-- A spur of the enumeration is the spur of the search. -/
theorem spurAt_deviation (paths : List (List Int)) (last : List Int)
    (pending : StdSet (List Int × Nat) problem.deviation.rank) (depth : Nat) :
    problem.deviation.spurAt paths last pending depth =
      match problem.spurAnswer (last.take depth) (banned paths (last.take depth)) with
      | none => pending
      | some path => pending.insert (path, depth) := by
  have answer : problem.deviation.spur (last.take depth) (banned paths (last.take depth)) =
      problem.spurAnswer (last.take depth) (banned paths (last.take depth)) := rfl
  rw [Deviation.Problem.spurAt, answer]
  cases problem.spurAnswer (last.take depth) (banned paths (last.take depth)) with
  | none => rfl
  | some path => rfl

end KShortest
end BravoFinder
