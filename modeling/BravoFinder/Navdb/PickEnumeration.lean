import BravoFinder.Library.BestFirst
import BravoFinder.Navdb.ForcedRouter
import Mathlib.Algebra.BigOperators.Group.List.Basic
import Mathlib.Algebra.Order.BigOperators.Group.List
import Mathlib.Algebra.Order.Field.Basic
import Mathlib.Data.List.GetD
import Mathlib.Data.List.Sections
import Mathlib.Data.Nat.Find

namespace BravoFinder

/-!
# The enumeration of picks is best first

The picks form a tree: a pick's parent has one less at the last hop that is not
at its cheapest candidate.  Each combination of candidates is one pick, and the
sum of its hop costs bounds the cost of its route.  `BestFirst.Explored` is then
an invariant of the loop, and `enumerate_spec` reads the result off it.
-/

namespace PickProblem

variable {R : Type} [Field R] [LinearOrder R] [IsStrictOrderedRing R] (problem : PickProblem R)

/-- Every hop has candidates in ascending order, and no combination costs less
than its hops together. -/
structure Proper : Prop where
  nonempty : forall segment, segment ∈ problem.segments -> segment ≠ []
  ascending : forall segment, segment ∈ problem.segments ->
    segment.Pairwise fun first second => first.cost ≤ second.cost
  bound : forall parts, parts ∈ problem.segments.sections ->
    (problem.stitchParts (parts.map ShortestPath.vertices)).found = true ->
    (parts.map ShortestPath.cost).sum ≤ (problem.stitchParts (parts.map ShortestPath.vertices)).cost

/-! ## Picks and combinations -/

/-- The indices of a pick are in range. -/
def Valid (pick : List Nat) : Prop :=
  List.Forall₂ (fun (segment : List (ShortestPath R)) index => index < segment.length)
    problem.segments pick

/-- All picks. -/
def picks : List (List Nat) :=
  (problem.segments.map fun segment => List.range segment.length).sections

omit [Field R] [IsStrictOrderedRing R] in
theorem mem_picks (pick : List Nat) : pick ∈ problem.picks ↔ problem.Valid pick := by
  unfold picks Valid
  rw [List.mem_sections]
  constructor
  · intro chosen
    have both := List.forall₂_map_right_iff.mp chosen
    exact (both.imp fun _ _ member => List.mem_range.mp member).flip
  · intro valid
    exact List.forall₂_map_right_iff.mpr (valid.flip.imp fun _ _ bound => List.mem_range.mpr bound)

theorem nodup_sections {A : Type} {lists : List (List A)} (distinct : forall list, list ∈ lists -> list.Nodup) :
    lists.sections.Nodup := by
  induction lists with
  | nil => exact List.nodup_cons.mpr ⟨List.not_mem_nil, .nil⟩
  | cons list rest inductionHypothesis =>
      have restDistinct := inductionHypothesis fun other member => distinct other (List.mem_cons_of_mem _ member)
      refine List.nodup_flatMap.mpr ⟨fun _ _ => ?_, restDistinct.imp ?_⟩
      · exact (distinct list List.mem_cons_self).map fun _ _ same => (List.cons.inj same).1
      · intro first second different whole inFirst inSecond
        rcases List.mem_map.mp inFirst with ⟨_, _, rfl⟩
        rcases List.mem_map.mp inSecond with ⟨_, _, same⟩
        exact different (List.cons.inj same).2.symm

omit [Field R] [IsStrictOrderedRing R] in
theorem nodup_picks : problem.picks.Nodup := by
  refine nodup_sections fun list member => ?_
  rcases List.mem_map.mp member with ⟨segment, _, rfl⟩
  exact List.nodup_range

section

omit [IsStrictOrderedRing R]

/-- Choosing by index makes every combination once. -/
theorem picks_map_picked : problem.picks.map problem.picked = problem.segments.sections := by
  unfold picks picked
  induction problem.segments with
  | nil => rfl
  | cons segment rest inductionHypothesis =>
      have all : (List.range segment.length).map (fun index => segment.getD index .unreachable) = segment := by
        apply List.ext_getElem
        · rw [List.length_map, List.length_range]
        · intro index _ inSegment
          rw [List.getElem_map, List.getElem_range, List.getD_eq_getElem _ _ inSegment]
      rw [List.map_cons, List.sections, List.sections, ← inductionHypothesis, List.map_flatMap,
        List.flatMap_map]
      refine List.flatMap_congr fun pick _ => ?_
      conv_rhs => rw [← all]
      rw [List.map_map, List.map_map]
      rfl

theorem picked_mem_sections {pick : List Nat} (valid : problem.Valid pick) :
    problem.picked pick ∈ problem.segments.sections := by
  rw [← problem.picks_map_picked]
  exact List.mem_map_of_mem ((problem.mem_picks pick).mpr valid)

theorem lowerOf_eq (pick : List Nat) :
    problem.lowerOf pick = ((problem.picked pick).map ShortestPath.cost).sum := by
  rw [lowerOf, List.sum_eq_foldl, List.foldl_map]

end

/-! ## The tree of picks -/

/-- The tree the enumeration walks. -/
def tree : BestFirst (PickItem R) (ShortestPath R) R where
  root := problem.rootItem
  children := problem.successors
  lower := PickItem.lower
  answer item := if (problem.stitch item.pick).found then some (problem.stitch item.pick) else none
  cost := ShortestPath.cost

omit [IsStrictOrderedRing R] in
theorem mem_successors {item child : PickItem R} :
    child ∈ problem.successors item ↔ item.last ≤ child.last ∧ child.last < problem.segments.length ∧
      item.pick.getD child.last 0 + 1 < (problem.segments.getD child.last []).length ∧
      child.pick = item.pick.set child.last (item.pick.getD child.last 0 + 1) ∧
      child.lower = problem.lowerOf child.pick := by
  unfold successors
  rw [List.mem_filterMap]
  constructor
  · rintro ⟨h, inRange, advanced⟩
    rw [List.mem_range'_1] at inRange
    unfold advance at advanced
    split at advanced
    · rename_i more
      cases advanced
      have inSegments : h < problem.segments.length := by omega
      exact ⟨inRange.1, inSegments, more, rfl, rfl⟩
    · cases advanced
  · rintro ⟨after, inRange, more, pick, lower⟩
    refine ⟨child.last, List.mem_range'_1.mpr ⟨after, by omega⟩, ?_⟩
    rw [advance, if_pos more]
    simp only [← pick, ← lower]

/-- A pick of the tree: its bound is that of its indices, and `last` is the last
hop whose index is not zero. -/
structure Canonical (item : PickItem R) : Prop where
  valid : problem.Valid item.pick
  lower : item.lower = problem.lowerOf item.pick
  zeros : forall h, item.last < h -> item.pick.getD h 0 = 0
  last : item.last = 0 ∨ 0 < item.pick.getD item.last 0

variable {problem}

omit [Field R] [IsStrictOrderedRing R] in
theorem Valid.length_eq {pick : List Nat} (valid : problem.Valid pick) :
    pick.length = problem.segments.length :=
  (List.Forall₂.length_eq valid).symm

omit [Field R] [IsStrictOrderedRing R] in
theorem valid_iff {pick : List Nat} : problem.Valid pick ↔
    pick.length = problem.segments.length ∧
      forall h, h < pick.length -> pick.getD h 0 < (problem.segments.getD h []).length := by
  unfold Valid
  rw [List.forall₂_iff_get]
  constructor
  · rintro ⟨length, each⟩
    refine ⟨length.symm, fun h inPick => ?_⟩
    have bound := each h (length ▸ inPick) inPick
    rw [List.getD_eq_getElem _ _ inPick, List.getD_eq_getElem _ _ (length ▸ inPick)]
    exact bound
  · rintro ⟨length, each⟩
    refine ⟨length.symm, fun h inSegments inPick => ?_⟩
    have bound := each h inPick
    rw [List.getD_eq_getElem _ _ inPick, List.getD_eq_getElem _ _ inSegments] at bound
    exact bound

theorem getD_set (pick : List Nat) {h : Nat} (inPick : h < pick.length) (value other : Nat) :
    (pick.set h value).getD other 0 = if other = h then value else pick.getD other 0 := by
  rw [List.getD_eq_getElem?_getD, List.getD_eq_getElem?_getD, List.getElem?_set]
  by_cases same : h = other
  · rw [if_pos same, if_pos same.symm, if_pos inPick, Option.getD_some]
  · rw [if_neg same, if_neg (Ne.symm same)]

section

omit [IsStrictOrderedRing R]

theorem Canonical.ext {first second : PickItem R} (firstCanonical : problem.Canonical first)
    (secondCanonical : problem.Canonical second) (same : first.pick = second.pick) : first = second := by
  have lasts : first.last = second.last := by
    rcases Nat.lt_trichotomy first.last second.last with less | equal | greater
    · have zero := firstCanonical.zeros _ less
      rw [same] at zero
      have positive := secondCanonical.last
      omega
    · exact equal
    · have zero := secondCanonical.zeros _ greater
      rw [← same] at zero
      have positive := firstCanonical.last
      omega
  have lowers : first.lower = second.lower := by
    rw [firstCanonical.lower, secondCanonical.lower, same]
  cases first
  cases second
  simp only at same lasts lowers
  rw [same, lasts, lowers]

theorem Canonical.successor {item child : PickItem R} (canonical : problem.Canonical item)
    (isChild : child ∈ problem.successors item) : problem.Canonical child := by
  rcases problem.mem_successors.mp isChild with ⟨after, inRange, more, pick, lower⟩
  have length := canonical.valid.length_eq
  have inPick : child.last < item.pick.length := length ▸ inRange
  constructor
  · rw [valid_iff, pick, List.length_set]
    refine ⟨length, fun h inside => ?_⟩
    rw [getD_set _ inPick]
    split
    · rename_i here
      rw [here]
      exact more
    · exact (valid_iff.mp canonical.valid).2 h inside
  · exact lower
  · intro h later
    rw [pick, getD_set _ inPick, if_neg (Nat.ne_of_gt later)]
    exact canonical.zeros h (Nat.lt_of_le_of_lt after later)
  · rw [pick, getD_set _ inPick, if_pos rfl]
    exact Or.inr (Nat.succ_pos _)

theorem canonical_root (nonempty : forall segment, segment ∈ problem.segments -> segment ≠ []) :
    problem.Canonical problem.rootItem := by
  have zero : forall h, (List.replicate problem.segments.length 0).getD h 0 = 0 := by
    intro h
    rw [List.getD_eq_getElem?_getD, List.getElem?_replicate]
    split <;> rfl
  refine ⟨valid_iff.mpr ⟨List.length_replicate, fun h inside => ?_⟩, rfl, fun h _ => zero h, Or.inl rfl⟩
  have inSegments : h < problem.segments.length := by
    rw [rootItem, List.length_replicate] at inside
    exact inside
  simp only [rootItem, zero]
  rw [List.getD_eq_getElem _ _ inSegments]
  exact List.length_pos_of_ne_nil (nonempty _ (List.getElem_mem inSegments))

/-- The tree holds exactly the canonical picks. -/
theorem reachable_iff (nonempty : forall segment, segment ∈ problem.segments -> segment ≠ [])
    (item : PickItem R) : problem.tree.Reachable item ↔ problem.Canonical item := by
  constructor
  · intro reachable
    induction reachable with
    | root => exact canonical_root nonempty
    | child _ isChild inductionHypothesis => exact inductionHypothesis.successor isChild
  · -- Induction on the sum of the indices: take one off at `last`.
    intro canonical
    induction total : item.pick.sum using Nat.strong_induction_on generalizing item with
    | _ total inductionHypothesis =>
      subst total
      have length := canonical.valid.length_eq
      by_cases positive : 0 < item.pick.getD item.last 0
      · have inPick : item.last < item.pick.length := by
          by_contra outside
          rw [List.getD_eq_default _ _ (not_lt.mp outside)] at positive
          exact lt_irrefl 0 positive
        have one : item.pick.getD item.last 0 - 1 + 1 = item.pick.getD item.last 0 :=
          Nat.sub_add_cancel positive
        -- The parent, with the last hop that is still not at zero.
        generalize before : item.pick.set item.last (item.pick.getD item.last 0 - 1) = parentPick
        have entry : forall h, parentPick.getD h 0 =
            if h = item.last then item.pick.getD item.last 0 - 1 else item.pick.getD h 0 := fun h => by
          rw [← before, getD_set _ inPick]
        have sameLength : parentPick.length = item.pick.length := by
          rw [← before, List.length_set]
        have restored : parentPick.set item.last (item.pick.getD item.last 0) = item.pick := by
          rw [← before, List.set_set, List.getD_eq_getElem _ _ inPick, List.set_getElem_self]
        generalize lastEq : Nat.findGreatest (fun h => 0 < parentPick.getD h 0) item.last = parentLast
        have lastLe : parentLast ≤ item.last := lastEq ▸ Nat.findGreatest_le item.last
        have parentCanonical : problem.Canonical ⟨problem.lowerOf parentPick, parentPick, parentLast⟩ := by
          refine ⟨valid_iff.mpr ⟨sameLength.trans length, fun h inside => ?_⟩, rfl, fun h later => ?_, ?_⟩
          · have bound := (valid_iff.mp canonical.valid).2 h (sameLength ▸ inside)
            simp only [entry]
            split
            · rename_i here
              rw [here] at bound ⊢
              omega
            · exact bound
          · simp only at later ⊢
            rcases Nat.lt_or_ge item.last h with beyond | within
            · rw [entry, if_neg (Nat.ne_of_gt beyond)]
              exact canonical.zeros h beyond
            · have none := Nat.findGreatest_is_greatest (lastEq ▸ later) within
              omega
          · simp only
            by_cases zero : parentLast = 0
            · exact Or.inl zero
            · exact Or.inr (Nat.findGreatest_of_ne_zero (P := fun h => 0 < parentPick.getD h 0) lastEq
                zero)
        have smaller : parentPick.sum < item.pick.sum := by
          have self : item.pick.set item.last (item.pick.getD item.last 0) = item.pick := by
            rw [List.getD_eq_getElem _ _ inPick, List.set_getElem_self]
          have less := List.sum_set item.pick item.last (item.pick.getD item.last 0 - 1)
          have whole := List.sum_set item.pick item.last (item.pick.getD item.last 0)
          rw [self, if_pos inPick] at whole
          rw [before, if_pos inPick] at less
          omega
        refine .child (inductionHypothesis _ smaller _ parentCanonical rfl) ?_
        refine problem.mem_successors.mpr ⟨lastLe, length ▸ inPick, ?_, ?_, canonical.lower⟩
        · simp only [entry, if_true, one]
          exact (valid_iff.mp canonical.valid).2 _ inPick
        · simp only [entry, if_true, one]
          exact restored.symm
      · have zero : forall h, item.pick.getD h 0 = 0 := by
          intro h
          rcases Nat.lt_or_ge item.last h with later | before
          · exact canonical.zeros h later
          · have atLast := canonical.last.resolve_right positive
            have here : h = item.last := by omega
            rw [here]
            omega
        have isRoot : item.pick = problem.rootItem.pick := by
          apply List.ext_getElem
          · rw [length, rootItem, List.length_replicate]
          · intro h inside _
            rw [← List.getD_eq_getElem _ 0 inside, zero h]
            simp only [rootItem, List.getElem_replicate]
        rw [canonical.ext (canonical_root nonempty) isRoot]
        exact .root

end

theorem lowerOf_le_successor (proper : problem.Proper) {item child : PickItem R}
    (canonical : problem.Canonical item) (isChild : child ∈ problem.successors item) :
    problem.lowerOf item.pick ≤ problem.lowerOf child.pick := by
  rcases problem.mem_successors.mp isChild with ⟨_, inRange, more, pick, _⟩
  have length := canonical.valid.length_eq
  have inPick : child.last < item.pick.length := length ▸ inRange
  rw [problem.lowerOf_eq, problem.lowerOf_eq]
  apply List.Forall₂.sum_le_sum
  refine List.forall₂_iff_get.mpr ⟨?_, fun h inside _ => ?_⟩
  · simp only [picked, pick, List.length_map, List.length_zipWith, List.length_set]
  · have inSegments : h < problem.segments.length := by
      simp only [picked, List.length_map, List.length_zipWith, lt_min_iff] at inside
      exact inside.1
    simp only [List.get_eq_getElem, List.getElem_map, picked, List.getElem_zipWith, pick,
      List.getElem_set]
    by_cases here : child.last = h
    · subst here
      have ascending := proper.ascending _ (List.getElem_mem inSegments)
      rw [List.getD_eq_getElem _ _ inPick, List.getD_eq_getElem _ _ inRange] at more
      simp only [if_true, List.getD_eq_getElem _ 0 inPick]
      rw [List.getD_eq_getElem _ _ more, List.getD_eq_getElem _ _ (Nat.lt_of_succ_lt more)]
      exact List.pairwise_iff_getElem.mp ascending _ _ _ _ (Nat.lt_succ_self _)
    · rw [if_neg here]

theorem lawful_tree (proper : problem.Proper) : problem.tree.Lawful where
  children_nodup := by
    intro item _
    refine List.Nodup.filterMap (fun first second child fromFirst fromSecond => ?_) List.nodup_range'
    have lastOf : forall h, child ∈ problem.advance item h -> child.last = h := by
      intro h advanced
      unfold advance at advanced
      split at advanced
      · cases advanced
        rfl
      · cases advanced
    rw [← lastOf first fromFirst, ← lastOf second fromSecond]
  parent_unique := by
    intro first second child firstReachable secondReachable fromFirst fromSecond
    have firstCanonical := (reachable_iff proper.nonempty first).mp firstReachable
    have secondCanonical := (reachable_iff proper.nonempty second).mp secondReachable
    rcases problem.mem_successors.mp fromFirst with ⟨_, inRange, _, firstPick, _⟩
    rcases problem.mem_successors.mp fromSecond with ⟨_, _, _, secondPick, _⟩
    have firstLength := firstCanonical.valid.length_eq
    have secondLength := secondCanonical.valid.length_eq
    refine firstCanonical.ext secondCanonical (List.ext_getElem (firstLength.trans secondLength.symm) ?_)
    intro h inFirst inSecond
    have entries := congrArg (fun pick => pick.getD h 0) (firstPick.symm.trans secondPick)
    simp only [getD_set _ (firstLength ▸ inRange), getD_set _ (secondLength ▸ inRange)] at entries
    rw [← List.getD_eq_getElem _ 0 inFirst, ← List.getD_eq_getElem _ 0 inSecond]
    split at entries
    · rename_i here
      rw [here]
      omega
    · exact entries
  root_not_child := by
    intro item reachable isChild
    have canonical := (reachable_iff proper.nonempty item).mp reachable
    rcases problem.mem_successors.mp isChild with ⟨_, inRange, _, pick, _⟩
    have entry := congrArg (fun pick => pick.getD problem.tree.root.last 0) pick
    simp only [getD_set _ (canonical.valid.length_eq ▸ inRange), if_true] at entry
    have zero : problem.tree.root.pick.getD problem.tree.root.last 0 = 0 := by
      simp only [tree, rootItem, List.getD_eq_getElem?_getD, List.getElem?_replicate]
      split <;> rfl
    rw [zero] at entry
    cases entry
  lower_le_child := by
    intro parent child reachable isChild
    have canonical := (reachable_iff proper.nonempty parent).mp reachable
    simp only [tree, canonical.lower, (canonical.successor isChild).lower]
    exact lowerOf_le_successor proper canonical isChild
  lower_le_cost := by
    intro item route reachable answered
    have canonical := (reachable_iff proper.nonempty item).mp reachable
    simp only [tree] at answered
    split at answered
    · rename_i found
      cases answered
      simp only [tree, canonical.lower, lowerOf_eq]
      exact proper.bound _ (problem.picked_mem_sections canonical.valid) found
    · cases answered

/-! ## The loop -/

variable (problem) in
/-- The routes of all combinations. -/
def validRoutes : List (ShortestPath R) :=
  (problem.segments.sections.map fun parts =>
    problem.stitchParts (parts.map ShortestPath.vertices)).filter fun route => route.found

variable (problem) in
/-- The invariant of the loop. -/
structure Enumerating (state : PickState R) (visited : List (PickItem R)) : Prop where
  frontierHeap : problem.heaps.frontier.IsHeap state.frontier
  readyHeap : problem.heaps.ready.IsHeap state.ready
  explored : problem.tree.Explored visited state.frontier state.results state.ready
  count : state.explored = visited.length
  ahead : state.explored < kMaxStitchedPicks -> problem.tree.Ahead state.frontier state.results
  atMost : (state.results.length : Int) ≤ problem.k

omit [Field R] [LinearOrder R] [IsStrictOrderedRing R] in
theorem canExplore_iff (state : PickState R) :
    canExplore state = true ↔ state.frontier ≠ [] ∧ state.explored < kMaxStitchedPicks := by
  rw [canExplore, Bool.and_eq_true, Bool.not_eq_true', List.isEmpty_eq_false_iff, decide_eq_true_eq]

omit [IsStrictOrderedRing R] in
theorem Enumerating.emitRoute {state : PickState R} {visited : List (PickItem R)}
    (holds : problem.Enumerating state visited) (more : (state.results.length : Int) < problem.k)
    (emits : problem.emits state = true) :
    problem.Enumerating (problem.emitRoute state) visited ∧
      (problem.emitRoute state).results.length = state.results.length + 1 ∧
      (problem.emitRoute state).explored = state.explored := by
  unfold PickProblem.emits at emits
  split at emits
  · cases emits
  rename_i route front
  rcases problem.heaps.ready.exists_pop_of_front front with ⟨rest, popped⟩
  have perm := problem.heaps.ready.pop_perm holds.readyHeap popped
  have least := problem.heaps.ready.pop_least holds.readyHeap popped
  have cheap : state.explored < kMaxStitchedPicks ->
      forall item, item ∈ state.frontier -> route.cost ≤ item.lower := by
    intro budget item queued
    have explorable := (canExplore_iff state).mpr ⟨List.ne_nil_of_mem queued, budget⟩
    rw [explorable, Bool.not_true, Bool.false_or] at emits
    split at emits
    · rename_i noFront
      rw [problem.heaps.frontier.front_eq_none holds.frontierHeap noFront] at queued
      cases queued
    · rename_i first frontierFront
      rcases problem.heaps.frontier.exists_pop_of_front frontierFront with ⟨_, frontierPopped⟩
      have before := problem.heaps.frontier.pop_least holds.frontierHeap frontierPopped item queued
      exact (of_decide_eq_true emits).trans (le_of_not_gt before)
  have emitted : problem.emitRoute state =
      { state with results := state.results ++ [route], ready := rest } := by
    rw [PickProblem.emitRoute, popped]
  rw [emitted]
  refine ⟨?_, List.length_append, rfl⟩
  constructor
  · exact holds.frontierHeap
  · exact problem.heaps.ready.pop_isHeap holds.readyHeap popped
  · exact holds.explored.emit perm fun other isReady =>
      ShortestPath.cost_le_of_not_after (least other isReady)
  · exact holds.count
  · intro budget answer member item queued
    rcases List.mem_append.mp member with old | new
    · exact holds.ahead budget answer old item queued
    · rw [List.mem_singleton.mp new]
      exact cheap budget item queued
  · simp only [List.length_append, List.length_singleton]
    omega

theorem Enumerating.explorePick (proper : problem.Proper) {state : PickState R}
    {visited : List (PickItem R)} (holds : problem.Enumerating state visited)
    (explorable : canExplore state = true) :
    (exists visited', problem.Enumerating (problem.explorePick state) visited') ∧
      (problem.explorePick state).results = state.results ∧
      (problem.explorePick state).explored = state.explored + 1 := by
  rcases (canExplore_iff state).mp explorable with ⟨nonempty, budget⟩
  rcases Option.isSome_iff_exists.mp (problem.heaps.frontier.pop_isSome holds.frontierHeap nonempty) with
    ⟨⟨item, rest⟩, popped⟩
  have perm := problem.heaps.frontier.pop_perm holds.frontierHeap popped
  rcases problem.heaps.frontier.foldl_push (problem.successors item)
    (problem.heaps.frontier.pop_isHeap holds.frontierHeap popped) with ⟨frontierHeap, entered⟩
  have joined : (if (problem.stitch item.pick).found then
      problem.heaps.ready.push state.ready (problem.stitch item.pick) else state.ready).Perm
      ((problem.tree.answer item).toList ++ state.ready) := by
    simp only [tree]
    split
    · exact problem.heaps.ready.push_perm _ _
    · exact .refl _
  have readyHeap : problem.heaps.ready.IsHeap (if (problem.stitch item.pick).found then
      problem.heaps.ready.push state.ready (problem.stitch item.pick) else state.ready) := by
    split
    · exact problem.heaps.ready.isHeap_push holds.readyHeap _
    · exact holds.readyHeap
  have step := holds.explored.explore (lawful_tree proper) perm entered (holds.ahead budget) joined
  rw [PickProblem.explorePick, popped]
  refine ⟨⟨visited ++ [item], frontierHeap, readyHeap, step.1, ?_, fun _ => step.2, holds.atMost⟩, rfl, rfl⟩
  rw [List.length_append, List.length_singleton, ← holds.count]

/-- The loop has emitted enough, or nothing is left to emit or to explore. -/
def Finished (problem : PickProblem R) (state : PickState R) : Prop :=
  (state.results.length : Int) = problem.k ∨
    (state.ready = [] ∧ (state.frontier = [] ∨ kMaxStitchedPicks ≤ state.explored))

theorem pickLoop_spec (proper : problem.Proper) (fuel : Nat) {state : PickState R}
    {visited : List (PickItem R)} (holds : problem.Enumerating state visited)
    (enough : (problem.k - state.results.length).toNat + (kMaxStitchedPicks - state.explored) ≤ fuel) :
    (exists visited', problem.Enumerating (problem.pickLoop fuel state) visited') ∧
      problem.Finished (problem.pickLoop fuel state) := by
  induction fuel generalizing state visited with
  | zero =>
      have atMost := holds.atMost
      exact ⟨⟨visited, holds⟩, Or.inl (by simp only [pickLoop]; omega)⟩
  | succ fuel inductionHypothesis =>
      unfold pickLoop
      by_cases more : (state.results.length : Int) < problem.k
      · rw [if_pos more]
        by_cases emits : problem.emits state = true
        · rw [if_pos emits]
          rcases holds.emitRoute more emits with ⟨next, results, explored⟩
          exact inductionHypothesis next (by rw [results, explored]; omega)
        · rw [if_neg emits]
          by_cases explorable : canExplore state = true
          · rw [if_pos explorable]
            have budget := ((canExplore_iff state).mp explorable).2
            rcases holds.explorePick proper explorable with ⟨⟨visited', next⟩, results, explored⟩
            exact inductionHypothesis next (by rw [results, explored]; omega)
          · rw [if_neg explorable]
            refine ⟨⟨visited, holds⟩, Or.inr ⟨?_, ?_⟩⟩
            · unfold PickProblem.emits at emits
              split at emits
              · rename_i noFront
                exact problem.heaps.ready.front_eq_none holds.readyHeap noFront
              · rw [Bool.eq_false_iff.mpr explorable, Bool.not_false, Bool.true_or] at emits
                exact absurd rfl emits
            · rw [canExplore_iff, not_and_or, not_not, not_lt] at explorable
              exact explorable
      · rw [if_neg more]
        exact ⟨⟨visited, holds⟩, Or.inl (le_antisymm holds.atMost (not_lt.mp more))⟩

/-! ## What the enumeration returns -/

variable (problem) in
/-- The picks of the tree, in the order of the combinations. -/
def items : List (PickItem R) :=
  problem.picks.map fun pick =>
    ⟨problem.lowerOf pick, pick, Nat.findGreatest (fun h => 0 < pick.getD h 0) pick.length⟩

section

omit [IsStrictOrderedRing R]

theorem nodup_items : problem.items.Nodup :=
  problem.nodup_picks.map fun _ _ same => congrArg PickItem.pick same

theorem mem_items (proper : problem.Proper) (item : PickItem R) :
    item ∈ problem.items ↔ problem.tree.Reachable item := by
  have canonical : forall pick, problem.Valid pick -> problem.Canonical
      ⟨problem.lowerOf pick, pick, Nat.findGreatest (fun h => 0 < pick.getD h 0) pick.length⟩ := by
    intro pick valid
    refine ⟨valid, rfl, fun h later => ?_, ?_⟩
    · rcases Nat.lt_or_ge pick.length h with outside | inside
      · exact List.getD_eq_default _ _ outside.le
      · exact Nat.eq_zero_of_not_pos
          (Nat.findGreatest_is_greatest (P := fun h => 0 < pick.getD h 0) later inside)
    · by_cases zero : Nat.findGreatest (fun h => 0 < pick.getD h 0) pick.length = 0
      · exact Or.inl zero
      · exact Or.inr (Nat.findGreatest_of_ne_zero (P := fun h => 0 < pick.getD h 0) rfl zero)
  rw [reachable_iff proper.nonempty, items, List.mem_map]
  constructor
  · rintro ⟨pick, listed, rfl⟩
    exact canonical pick ((problem.mem_picks pick).mp listed)
  · intro isCanonical
    exact ⟨item.pick, (problem.mem_picks _).mpr isCanonical.valid,
      (canonical item.pick isCanonical.valid).ext isCanonical rfl⟩

theorem answers_items : problem.items.filterMap problem.tree.answer = problem.validRoutes := by
  unfold items validRoutes
  rw [List.filterMap_map, ← problem.picks_map_picked, List.map_map, List.filter_map,
    ← List.filterMap_eq_map, List.filterMap_filter]
  refine List.filterMap_congr fun pick _ => ?_
  rfl

end

variable (problem) in
/-- What the enumeration returns.  Within the budget it is exactly the cheapest
routes of all combinations. -/
structure Enumerated (results : List (ShortestPath R)) : Prop where
  valid : results.Subperm problem.validRoutes
  atMost : (results.length : Int) ≤ problem.k
  ascending : results.Pairwise fun first second => first.cost ≤ second.cost
  all : problem.segments.sections.length ≤ kMaxStitchedPicks ->
    results.length = min problem.k.toNat problem.validRoutes.length
  least : problem.segments.sections.length ≤ kMaxStitchedPicks -> forall path, path ∈ results ->
    forall other, other ∈ problem.validRoutes -> other ∈ results ∨ path.cost ≤ other.cost

theorem enumerate_spec (proper : problem.Proper) (positive : 0 ≤ problem.k) :
    problem.Enumerated problem.enumerate.results := by
  have start : problem.Enumerating ⟨[], [], [problem.rootItem], 0⟩ [] :=
    ⟨problem.heaps.frontier.isHeap_singleton _, problem.heaps.ready.isHeap_nil, BestFirst.explored_root,
      rfl, fun _ _ member => absurd member List.not_mem_nil, positive⟩
  rcases pickLoop_spec proper (problem.k.toNat + kMaxStitchedPicks) start (by
    simp only [List.length_nil, Nat.cast_zero, sub_zero, Nat.sub_zero]
    exact Nat.le_refl _) with ⟨⟨visited, holds⟩, finished⟩
  change problem.Enumerating problem.enumerate visited at holds
  change problem.Finished problem.enumerate at finished
  have items := mem_items proper
  have answers := holds.explored.answers_subperm items
  rw [answers_items] at answers
  have valid : problem.enumerate.results.Subperm problem.validRoutes :=
    (List.sublist_append_left _ _).subperm.trans answers
  have itemsLength : problem.items.length = problem.segments.sections.length := by
    rw [PickProblem.items, List.length_map, ← problem.picks_map_picked, List.length_map]
  -- Within the budget the frontier runs empty before the budget is spent.
  have within : problem.segments.sections.length ≤ kMaxStitchedPicks ->
      kMaxStitchedPicks ≤ problem.enumerate.explored -> problem.enumerate.frontier = [] := by
    intro small spent
    have entered := holds.explored.length_le items
    have count := holds.count
    rw [List.length_append, itemsLength] at entered
    exact List.eq_nil_of_length_eq_zero (by omega)
  have ahead : problem.segments.sections.length ≤ kMaxStitchedPicks ->
      problem.tree.Ahead problem.enumerate.frontier problem.enumerate.results := by
    intro small
    by_cases budget : problem.enumerate.explored < kMaxStitchedPicks
    · exact holds.ahead budget
    · rw [within small (not_lt.mp budget)]
      exact fun _ _ _ queued => absurd queued List.not_mem_nil
  refine ⟨valid, holds.atMost, holds.explored.ascending, fun small => ?_, fun small path member other isValid => ?_⟩
  · rcases finished with full | ⟨noReady, noMore⟩
    · have bound := valid.length_le
      omega
    · have empty : problem.enumerate.frontier = [] := noMore.elim id (within small)
      have explored := holds.explored
      rw [empty] at explored
      have perm := (explored.answers_perm (lawful_tree proper) nodup_items items).length_eq
      have atMost := holds.atMost
      rw [noReady, List.append_nil, answers_items] at perm
      omega
  · rw [← answers_items, List.mem_filterMap] at isValid
    rcases isValid with ⟨item, listed, answered⟩
    exact (holds.explored.cheapest (lawful_tree proper) (ahead small) ((items item).mp listed)
      answered).imp_right fun dearer => dearer path member

end PickProblem
end BravoFinder
