import BravoFinder.Graph.StitchedCost
import BravoFinder.Graph.YenCost
import BravoFinder.Library.JoinedLists
import BravoFinder.Navdb.PickEnumeration

namespace BravoFinder

/-!
# Routes through forced points

A combination of hop candidates joins to one path through the forced vertices.
Its cost is at least the sum of the hop costs, so the enumeration of picks
applies, and two combinations never join to the same simple path.
-/

variable {R : Type} [Field R] [LinearOrder R] [IsStrictOrderedRing R]

/-! ## Hops -/

/-- The endpoints of each hop: from the sources to the first forced vertex, and
so on to the goals. -/
def hopsFrom (goals : List (SeededEndpoint R)) :
    List (SeededEndpoint R) -> List Int -> List (List (SeededEndpoint R) × List (SeededEndpoint R))
  | sources, [] => [(sources, goals)]
  | sources, next :: rest =>
      (sources, [⟨next, 0, kNoBearing⟩]) :: hopsFrom goals [⟨next, 0, kNoBearing⟩] rest

omit [LinearOrder R] [IsStrictOrderedRing R] in
theorem map_hops (sources goals : List (SeededEndpoint R)) (forced : List Int) :
    (List.range (forced.length + 1)).map
        (fun h => (hopSources sources forced kNoBearing h, hopGoals goals forced h)) =
      hopsFrom goals sources forced := by
  induction forced generalizing sources with
  | nil => rfl
  | cons next rest inductionHypothesis =>
      rw [hopsFrom, ← inductionHypothesis, List.length_cons, List.range_succ_eq_map, List.map_cons,
        List.map_map]
      refine List.cons_eq_cons.mpr ⟨rfl, List.map_congr_left fun h _ => ?_⟩
      refine Prod.ext ?_ ?_
      · cases h <;> rfl
      · simp only [Function.comp_apply, hopGoals, List.length_cons, Nat.succ_eq_add_one,
          Nat.add_right_cancel_iff, List.getD_cons_succ]

omit [IsStrictOrderedRing R] in
/-- The only endpoint of a hop at a forced vertex has no cost ... -/
theorem eq_of_single_buildSeedTable (sentinel : (-1 : R) < 0) {next n : Int} {bearing : R} {v : Int}
    (seeded : 0 ≤ buildSeedTable [(⟨next, 0, bearing⟩ : SeededEndpoint R)] n v) :
    v = next ∧ buildSeedTable [(⟨next, 0, bearing⟩ : SeededEndpoint R)] n v = 0 := by
  rcases exists_of_buildSeedTable sentinel seeded with ⟨endpoint, listed, same⟩
  rcases inRange_of_buildSeedTable sentinel seeded with ⟨lower, upper⟩
  rw [List.mem_singleton.mp listed] at same
  simp only at same
  subst same
  refine ⟨rfl, ?_⟩
  simp only [buildSeedTable, List.foldl_cons, List.foldl_nil, seedTableStep]
  rw [if_neg (by omega), if_pos (Or.inl sentinel), Function.update_self]

omit [IsStrictOrderedRing R] in
/-- ... and no heading. -/
theorem single_buildBearingTable (next n : Int) (v : Int) :
    buildBearingTable [(⟨next, 0, kNoBearing⟩ : SeededEndpoint R)] n v = kNoBearing := by
  simp only [buildBearingTable, List.foldl_cons, List.foldl_nil, bearingTableStep]
  split
  · rfl
  split
  · exact congrFun (Function.update_eq_self next fun _ => (kNoBearing : R)) v
  · rfl

/-- A candidate of a hop. -/
structure HopPath (engine : Engine R) (graph : NavGraph R R) (options : SearchOptions R)
    (hop : List (SeededEndpoint R) × List (SeededEndpoint R)) (path : ShortestPath R) : Prop where
  seeded : SeededPath hop.1 hop.2 path.vertices
  priced : costOfPathMulti engine.earth graph path.vertices
    (buildSeedTable hop.1 graph.vertexCount) (buildSeedTable hop.2 graph.vertexCount)
    (buildBearingTable hop.1 graph.vertexCount) (buildBearingTable hop.2 graph.vertexCount)
    options = some (path.cost, path.distanceNm)

omit [IsStrictOrderedRing R] in
/-- Candidates of all hops meet at the forced vertices. -/
theorem meeting_of_hopPaths {engine : Engine R} {graph : NavGraph R R} {options : SearchOptions R}
    {sources goals : List (SeededEndpoint R)} {forced : List Int} {parts : List (ShortestPath R)}
    (hops : List.Forall₂ (HopPath engine graph options) (hopsFrom goals sources forced) parts) :
    Meeting forced (parts.map ShortestPath.vertices) ∧
      (exists source, source ∈ sources ∧
        (joined (parts.map ShortestPath.vertices)).head? = some source.vertex) ∧
      exists goal, goal ∈ goals ∧
        (joined (parts.map ShortestPath.vertices)).getLast? = some goal.vertex := by
  induction forced generalizing sources parts with
  | nil =>
      rcases hops with _ | ⟨hop, none⟩
      cases none
      have seeded := hop.seeded
      simp only [List.map_cons, List.map_nil, joined, List.flatMap_nil, List.append_nil]
      exact ⟨.single seeded.nonempty, seeded.starts, seeded.ends⟩
  | cons next rest inductionHypothesis =>
      rcases hops with _ | ⟨hop, later⟩
      rename_i part others
      rcases inductionHypothesis later with ⟨meeting, ⟨source, listed, starts⟩, ends⟩
      rw [List.mem_singleton.mp listed] at starts
      have seeded := hop.seeded
      rcases seeded.ends with ⟨goal, isGoal, last⟩
      rw [List.mem_singleton.mp isGoal] at last
      cases others with
      | nil => cases rest <;> cases later
      | cons following others =>
          rw [List.map_cons] at meeting starts ends
          rw [head?_joined meeting.part_ne_nil] at starts
          rw [List.map_cons, List.map_cons]
          refine ⟨.meet last starts meeting, ?_, ?_⟩
          · rw [head?_joined seeded.nonempty]
            exact seeded.starts
          · rw [(Meeting.meet last starts meeting).getLast?_joined, List.getLast?_cons_cons,
              ← meeting.getLast?_joined]
            exact ends

/-- The hop costs together are no more than the whole path costs, whose turns
include those at the forced vertices. -/
theorem hopPaths_le {engine : Engine R} {graph : NavGraph R R} {options : SearchOptions R}
    {sources goals : List (SeededEndpoint R)} {forced : List Int} {parts : List (ShortestPath R)}
    (hops : List.Forall₂ (HopPath engine graph options) (hopsFrom goals sources forced) parts)
    {front back : Int} (starts : (joined (parts.map ShortestPath.vertices)).head? = some front)
    (ends : (joined (parts.map ShortestPath.vertices)).getLast? = some back) {cost distance : R}
    (edges : edgeCosts graph options (joined (parts.map ShortestPath.vertices)) (0, 0) =
      some (cost, distance)) :
    (parts.map ShortestPath.cost).sum ≤ buildSeedTable sources graph.vertexCount front +
      (cost + turnSum options.turnPenalty (buildBearingTable sources graph.vertexCount front ::
        edgeBearings engine.earth graph (joined (parts.map ShortestPath.vertices)) ++
          [buildBearingTable goals graph.vertexCount back])) +
      buildSeedTable goals graph.vertexCount back := by
  induction forced generalizing sources parts front cost distance with
  | nil =>
      rcases hops with _ | ⟨hop, none⟩
      cases none
      rename_i part
      simp only [List.map_cons, List.map_nil, joined, List.flatMap_nil, List.append_nil] at starts ends edges ⊢
      rcases costOfPathMulti_eq_some hop.priced with
        ⟨front', back', cost', _, starts', ends', _, _, edges', total, _⟩
      rw [starts] at starts'
      rw [ends] at ends'
      rw [edges] at edges'
      cases starts'
      cases ends'
      cases edges'
      rw [List.sum_singleton, total]
  | cons next rest inductionHypothesis =>
      rcases hops with _ | ⟨hop, later⟩
      rename_i part others
      cases others with
      | nil => cases rest <;> cases later
      | cons following others =>
          rcases meeting_of_hopPaths later with ⟨meeting, ⟨source, listed, laterStarts⟩, _⟩
          rw [List.mem_singleton.mp listed] at laterStarts
          rcases costOfPathMulti_eq_some hop.priced with
            ⟨front', back', partCost, partDistance, starts', ends', _, goalSeeded, partEdges, total, _⟩
          rcases eq_of_single_buildSeedTable engine.sentinel_neg goalSeeded with ⟨atNext, free⟩
          subst atNext
          have followingStarts := laterStarts
          rw [List.map_cons] at meeting followingStarts
          rw [head?_joined meeting.part_ne_nil] at followingStarts
          have split := joined_cons (others.map ShortestPath.vertices) ends' followingStarts
          rcases List.head?_eq_some_iff.mp laterStarts with ⟨tail, whole⟩
          rw [List.map_cons] at whole
          rw [List.map_cons, List.map_cons, head?_joined hop.seeded.nonempty, starts'] at starts
          cases starts
          rw [List.map_cons, List.map_cons, split, whole] at ends edges
          rw [List.getLast?_append_of_ne_nil _ (List.cons_ne_nil _ _)] at ends
          rw [eq_dropLast_append ends'] at partEdges
          rcases edgeCosts_split edges partEdges with ⟨laterCost, _, laterEdges, sum⟩
          have bound := inductionHypothesis later laterStarts (by rw [List.map_cons, whole]; exact ends)
            (by rw [List.map_cons, whole]; exact laterEdges)
          have unknown : (kNoBearing : R) < 0 := engine.sentinel_neg
          have turns := turnSum_split_le options.turnPenalty unknown
            (buildBearingTable sources graph.vertexCount front)
            (buildBearingTable goals graph.vertexCount back)
            (edgeBearings engine.earth graph part.vertices) (edgeBearings engine.earth graph (back' :: tail))
          have headings := edgeBearings_append engine.earth graph part.vertices.dropLast back' tail
          rw [← eq_dropLast_append ends'] at headings
          simp only [single_buildBearingTable, free, add_zero, zero_add, List.map_cons, List.sum_cons,
            whole] at total bound
          simp only [List.map_cons, List.sum_cons]
          rw [split, whole, headings, total, sum]
          linarith only [bound, turns]

/-! ## Candidates -/

/-- The candidates of a hop are in order, and none comes twice. -/
structure HopCandidates (engine : Engine R) (graph : NavGraph R R) (options : SearchOptions R)
    (hop : List (SeededEndpoint R) × List (SeededEndpoint R)) (segment : List (ShortestPath R)) :
    Prop where
  nonempty : segment ≠ []
  ascending : segment.Pairwise fun first second => first.cost ≤ second.cost
  distinct : (segment.map ShortestPath.vertices).Nodup
  each : forall path, path ∈ segment -> HopPath engine graph options hop path

theorem forall₂_of_mapM {A B : Type} {f : A -> Option B} {list : List A} {results : List B}
    (mapped : list.mapM f = some results) : List.Forall₂ (fun a b => f a = some b) list results := by
  induction list generalizing results with
  | nil =>
      rw [List.mapM_nil] at mapped
      cases mapped
      exact .nil
  | cons a rest inductionHypothesis =>
      rw [List.mapM_cons] at mapped
      rcases Option.bind_eq_some_iff.mp mapped with ⟨b, first, mapped⟩
      rcases Option.bind_eq_some_iff.mp mapped with ⟨others, later, whole⟩
      cases whole
      exact .cons first (inductionHypothesis later)

theorem hopCandidates_of_hopSegment {engine : Engine R} {graph : NavGraph R R}
    {sources goals : List (SeededEndpoint R)} {forced : List Int} {k : Int} {options : SearchOptions R}
    (nonneg : forall source, source ∈ sources -> 0 ≤ source.cost) {h : Nat}
    {segment : List (ShortestPath R)}
    (candidates : hopSegment engine graph sources goals forced k options h = some segment) :
    HopCandidates engine graph options
      (hopSources sources forced kNoBearing h, hopGoals goals forced h) segment := by
  have hopNonneg : forall source, source ∈ hopSources sources forced kNoBearing h -> 0 ≤ source.cost := by
    intro source listed
    unfold hopSources at listed
    split at listed
    · exact nonneg source listed
    · rw [List.mem_singleton.mp listed]
  have routes := findKShortestPathsMulti_routes engine graph (hopSources sources forced kNoBearing h)
    (hopGoals goals forced h) hopNonneg k options
  unfold hopSegment at candidates
  simp only at candidates
  split at candidates
  · cases candidates
  rename_i someCandidate
  cases candidates
  have perm := List.perm_insertionSort (fun first second : ShortestPath R => first.cost ≤ second.cost)
    (findKShortestPathsMulti engine graph (hopSources sources forced kNoBearing h)
      (hopGoals goals forced h) k options)
  have total : Std.Total fun first second : ShortestPath R => first.cost ≤ second.cost :=
    ⟨fun first second => le_total first.cost second.cost⟩
  have trans : IsTrans (ShortestPath R) fun first second => first.cost ≤ second.cost :=
    ⟨fun _ _ _ => le_trans⟩
  constructor
  · intro none
    rw [none] at perm
    exact someCandidate (List.isEmpty_iff.mpr perm.symm.eq_nil)
  · exact List.pairwise_insertionSort _ _
  · exact (perm.map ShortestPath.vertices).nodup_iff.mpr routes.distinct
  · intro path member
    have listed := perm.mem_iff.mp member
    exact ⟨.of_route (routes.route path listed), routes.priced path listed⟩

theorem hopCandidates_of_hopSegments {engine : Engine R} {graph : NavGraph R R}
    {sources goals : List (SeededEndpoint R)} {forced : List Int} {k : Int} {options : SearchOptions R}
    (nonneg : forall source, source ∈ sources -> 0 ≤ source.cost)
    {segments : List (List (ShortestPath R))}
    (candidates : hopSegments engine graph sources goals forced k options = some segments) :
    List.Forall₂ (HopCandidates engine graph options) (hopsFrom goals sources forced) segments := by
  rw [← map_hops, List.forall₂_map_left_iff]
  exact (forall₂_of_mapM candidates).imp fun _ _ hop => hopCandidates_of_hopSegment nonneg hop

variable {engine : Engine R} {graph : NavGraph R R} {options : SearchOptions R}
  {hops : List (List (SeededEndpoint R) × List (SeededEndpoint R))}
  {segments : List (List (ShortestPath R))}

section

omit [IsStrictOrderedRing R]

theorem exists_hop_of_mem
    (candidates : List.Forall₂ (HopCandidates engine graph options) hops segments)
    {segment : List (ShortestPath R)} (listed : segment ∈ segments) :
    exists hop, HopCandidates engine graph options hop segment := by
  induction candidates with
  | nil => cases listed
  | cons hop _ inductionHypothesis =>
      rcases List.mem_cons.mp listed with rfl | later
      · exact ⟨_, hop⟩
      · exact inductionHypothesis later

theorem hopPaths_of_mem_sections
    (candidates : List.Forall₂ (HopCandidates engine graph options) hops segments)
    {parts : List (ShortestPath R)} (chosen : parts ∈ segments.sections) :
    List.Forall₂ (HopPath engine graph options) hops parts := by
  have choice := List.mem_sections.mp chosen
  clear chosen
  induction candidates generalizing parts with
  | nil =>
      cases choice
      exact .nil
  | cons hop _ inductionHypothesis =>
      cases choice with
      | cons isPart others => exact .cons (hop.each _ isPart) (inductionHypothesis others)

/-- The vertices of its paths determine a combination. -/
theorem eq_of_mem_sections
    (candidates : List.Forall₂ (HopCandidates engine graph options) hops segments)
    {parts others : List (ShortestPath R)} (chosen : parts ∈ segments.sections)
    (otherChosen : others ∈ segments.sections)
    (same : parts.map ShortestPath.vertices = others.map ShortestPath.vertices) : parts = others := by
  have choice := List.mem_sections.mp chosen
  have otherChoice := List.mem_sections.mp otherChosen
  clear chosen otherChosen
  induction candidates generalizing parts others with
  | nil =>
      cases choice
      cases otherChoice
      rfl
  | cons hop _ inductionHypothesis =>
      cases choice with
      | cons isPart later =>
          cases otherChoice with
          | cons isOther otherLater =>
              rw [List.map_cons, List.map_cons, List.cons.injEq] at same
              rw [List.inj_on_of_nodup_map hop.distinct isPart isOther same.1,
                inductionHypothesis same.2 later otherLater]

end

/-! ## Stitching -/

theorem getLast?_append_of_meet {A : Type} {path : List A} {seam : A} (ends : path.getLast? = some seam)
    (tail : List A) : (path ++ tail).getLast? = (seam :: tail).getLast? := by
  rw [List.getLast?_append, List.getLast?_cons, ends]
  cases tail.getLast? <;> rfl

theorem foldlM_stitchStep {seams : List Int} {part : List Int} {rest : List (List Int)}
    (meeting : Meeting seams (part :: rest)) {path : List Int} (nonempty : path ≠ [])
    (ends : path.getLast? = part.getLast?) :
    rest.foldlM stitchStep path = some (path ++ rest.flatMap List.tail) := by
  induction rest generalizing seams part path with
  | nil => rw [List.foldlM_nil, List.flatMap_nil, List.append_nil, Option.pure_def]
  | cons following rest inductionHypothesis =>
      cases meeting with
      | @meet seam _ _ _ _ partEnds starts later =>
          rcases List.head?_eq_some_iff.mp starts with ⟨tail, rfl⟩
          rw [partEnds] at ends
          have step : stitchStep path (seam :: tail) = some (path ++ tail) := by
            unfold stitchStep
            rw [if_neg (by rw [List.isEmpty_cons]; exact Bool.false_ne_true),
              if_neg (by rw [List.isEmpty_iff]; exact nonempty),
              if_neg (by rw [ends, List.head?_cons, not_not])]
            rfl
          have nextEnds := getLast?_append_of_meet ends tail
          rw [List.foldlM_cons, step, Option.bind_eq_bind, Option.bind_some,
            inductionHypothesis later (List.append_ne_nil_of_left_ne_nil nonempty tail) nextEnds,
            List.flatMap_cons, List.append_assoc]
          rfl

theorem foldlM_stitchStep_eq_joined {seams : List Int} {parts : List (List Int)}
    (meeting : Meeting seams parts) : parts.foldlM stitchStep [] = some (joined parts) := by
  cases parts with
  | nil => cases meeting
  | cons part rest =>
      have nonempty := meeting.part_ne_nil
      have first : stitchStep [] part = some part := by
        unfold stitchStep
        rw [if_neg (by rw [List.isEmpty_iff]; exact nonempty)]
        exact if_pos rfl
      rw [List.foldlM_cons, first, Option.bind_eq_bind, Option.bind_some,
        foldlM_stitchStep meeting nonempty rfl, joined]

/-- What a stitched route is. -/
structure Stitched (engine : Engine R) (graph : NavGraph R R) (sources goals : List (SeededEndpoint R))
    (options : SearchOptions R) (path : List Int) (route : ShortestPath R) : Prop where
  vertices : route.vertices = path
  nodup : path.Nodup
  priced : costOfPathMulti engine.earth graph path (buildSeedTable sources graph.vertexCount)
    (buildSeedTable goals graph.vertexCount) (buildBearingTable sources graph.vertexCount)
    (buildBearingTable goals graph.vertexCount) options = some (route.cost, route.distanceNm)

omit [IsStrictOrderedRing R] in
theorem stitched_of_found {sources goals : List (SeededEndpoint R)} {seams : List Int}
    {parts : List (List Int)} (meeting : Meeting seams parts)
    (found : (stitchRoute engine graph sources goals options parts).found = true) :
    Stitched engine graph sources goals options (joined parts)
      (stitchRoute engine graph sources goals options parts) := by
  unfold stitchRoute stitchAndCost at found ⊢
  simp only [foldlM_stitchStep_eq_joined meeting] at found ⊢
  split at found
  · rename_i nodup
    rw [if_pos nodup]
    split at found
    · cases found
    · rename_i priced
      exact ⟨by simp only, nodup, by simp only [priced]⟩
  · cases found

/-- The picks of a call are properly bounded. -/
theorem proper_pickProblem {heaps : PickHeaps R} {sources goals : List (SeededEndpoint R)}
    {forced : List Int} {k : Int}
    (candidates : List.Forall₂ (HopCandidates engine graph options) (hopsFrom goals sources forced) segments) :
    (pickProblem engine heaps graph sources goals k options segments).Proper where
  nonempty := fun _ listed => (exists_hop_of_mem candidates listed).elim fun _ hop => hop.nonempty
  ascending := fun _ listed => (exists_hop_of_mem candidates listed).elim fun _ hop => hop.ascending
  bound := fun parts chosen found => by
    have paths := hopPaths_of_mem_sections candidates chosen
    rcases meeting_of_hopPaths paths with ⟨meeting, _, _⟩
    have stitched := stitched_of_found meeting found
    rcases costOfPathMulti_eq_some stitched.priced with
      ⟨front, back, cost, _, starts, ends, _, _, edges, total, _⟩
    exact (hopPaths_le paths starts ends edges).trans total.symm.le

/-! ## The fallback -/

/-- The route of the fallback after hop `h`. -/
structure Begun (sources goals : List (SeededEndpoint R)) (forced : List Int) (h : Nat)
    (path : List Int) : Prop where
  starts : exists source, source ∈ sources ∧ path.head? = some source.vertex
  ends : exists goal, goal ∈ hopGoals goals forced h ∧ path.getLast? = some goal.vertex
  order : (forced.take (h + 1)).Sublist path

section

omit [IsStrictOrderedRing R]

theorem seededPath_of_greedyHop {sources goals : List (SeededEndpoint R)} {forced path next : List Int}
    {h : Nat} (taken : greedyHop engine graph sources goals forced options path h = some next) :
    exists hop, SeededPath (hopSources sources forced (arrivalAt engine graph path) h)
      (hopGoals goals forced h) hop ∧ next = path ++ if path.isEmpty then hop else hop.tail := by
  unfold greedyHop at taken
  simp only at taken
  split at taken
  · cases taken
  rename_i found
  cases taken
  rw [Bool.or_eq_true, not_or, Bool.not_eq_true', Bool.not_eq_false] at found
  exact ⟨_, .of_route (SearchSetup.isRoute_of_found (searchSetup engine graph _ _ _) _
    SearchWorkspace.stamped_empty found.1), rfl⟩

theorem begun_first {sources goals : List (SeededEndpoint R)} {forced next : List Int}
    (taken : greedyHop engine graph sources goals forced options [] 0 = some next) :
    Begun sources goals forced 0 next := by
  rcases seededPath_of_greedyHop taken with ⟨hop, seeded, same⟩
  rw [List.isEmpty_nil, if_pos rfl, List.nil_append] at same
  subst same
  refine ⟨seeded.starts, seeded.ends, ?_⟩
  cases forced with
  | nil => exact List.nil_sublist _
  | cons first rest =>
      rcases seeded.ends with ⟨goal, isGoal, last⟩
      have atFirst : goal.vertex = first := by
        unfold hopGoals at isGoal
        rw [if_neg (by rw [List.length_cons]; omega), List.mem_singleton] at isGoal
        rw [isGoal]
        rfl
      rw [atFirst] at last
      exact List.singleton_sublist.mpr (List.mem_of_getLast? last)

theorem Begun.hop {sources goals : List (SeededEndpoint R)} {forced path next : List Int} {h : Nat}
    (begun : Begun sources goals forced h path) (distinct : forced.Nodup) (more : h < forced.length)
    (taken : greedyHop engine graph sources goals forced options path (h + 1) = some next) :
    Begun sources goals forced (h + 1) next := by
  rcases seededPath_of_greedyHop taken with ⟨hop, seeded, same⟩
  rcases begun.ends with ⟨seam, isSeam, ends⟩
  have seamVertex : seam.vertex = forced[h] := by
    unfold hopGoals at isSeam
    rw [if_neg (by omega), List.mem_singleton] at isSeam
    rw [isSeam, List.getD_eq_getElem _ _ more]
  rw [seamVertex] at ends
  have nonempty : path ≠ [] := fun none => by
    rw [none] at ends
    cases ends
  rcases seeded.starts with ⟨source, isSource, starts⟩
  have sourceVertex : source.vertex = forced[h] := by
    unfold hopSources at isSource
    rw [if_neg (Nat.succ_ne_zero h), List.mem_singleton] at isSource
    rw [isSource]
    exact List.getD_eq_getElem _ _ more
  rw [sourceVertex] at starts
  rcases List.head?_eq_some_iff.mp starts with ⟨tail, rfl⟩
  rw [if_neg (by rw [List.isEmpty_iff]; exact nonempty), List.tail_cons] at same
  subst same
  refine ⟨?_, ?_, ?_⟩
  · rw [List.head?_append_of_ne_nil _ nonempty]
    exact begun.starts
  · rw [getLast?_append_of_meet ends]
    exact seeded.ends
  · by_cases last : h + 1 < forced.length
    · rcases seeded.ends with ⟨goal, isGoal, goalLast⟩
      unfold hopGoals at isGoal
      rw [if_neg (by omega), List.mem_singleton] at isGoal
      rw [isGoal, List.getD_eq_getElem _ _ last] at goalLast
      -- The next forced vertex is another one, so the hop has a step to it.
      have other : forced[h + 1] ≠ forced[h] := fun same =>
        absurd ((distinct.getElem_inj_iff).mp same) (Nat.succ_ne_self h)
      have inTail : forced[h + 1] ∈ tail :=
        (List.mem_cons.mp (List.mem_of_getLast? goalLast)).resolve_left other
      rw [List.take_succ_eq_append_getElem last]
      exact begun.order.append (List.singleton_sublist.mpr inTail)
    · rw [List.take_of_length_le (by omega), ← List.take_of_length_le (i := h + 1) (not_lt.mp last)]
      exact begun.order.trans (List.sublist_append_left _ _)

theorem begun_foldlM {sources goals : List (SeededEndpoint R)} {forced path : List Int}
    (distinct : forced.Nodup) {h : Nat} (within : h ≤ forced.length)
    (taken : (List.range (h + 1)).foldlM (greedyHop engine graph sources goals forced options) [] =
      some path) : Begun sources goals forced h path := by
  induction h generalizing path with
  | zero =>
      rw [List.range_one, List.foldlM_cons, Option.bind_eq_bind] at taken
      rcases Option.bind_eq_some_iff.mp taken with ⟨next, first, rest⟩
      rw [List.foldlM_nil] at rest
      cases rest
      exact begun_first first
  | succ h inductionHypothesis =>
      rw [List.range_succ, List.foldlM_append, Option.bind_eq_bind] at taken
      rcases Option.bind_eq_some_iff.mp taken with ⟨before, front, rest⟩
      rw [List.foldlM_cons, Option.bind_eq_bind] at rest
      rcases Option.bind_eq_some_iff.mp rest with ⟨next, hop, rest⟩
      rw [List.foldlM_nil] at rest
      cases rest
      exact (inductionHypothesis (Nat.le_of_succ_le within) front).hop distinct within hop

end

/-! ## What the router returns -/

/-- A simple path between the endpoints through the forced vertices, with the
cost of the whole. -/
structure ForcedRoute (engine : Engine R) (graph : NavGraph R R) (sources goals : List (SeededEndpoint R))
    (forced : List Int) (options : SearchOptions R) (route : ShortestPath R) : Prop where
  simple : SeededPath sources goals route.vertices
  order : forced.Sublist route.vertices
  priced : costOfPathMulti engine.earth graph route.vertices
    (buildSeedTable sources graph.vertexCount) (buildSeedTable goals graph.vertexCount)
    (buildBearingTable sources graph.vertexCount) (buildBearingTable goals graph.vertexCount)
    options = some (route.cost, route.distanceNm)

/-- The routes of all combinations of hop candidates. -/
def combinations (engine : Engine R) (graph : NavGraph R R) (sources goals : List (SeededEndpoint R))
    (options : SearchOptions R) (segments : List (List (ShortestPath R))) : List (ShortestPath R) :=
  (segments.sections.map fun parts =>
    stitchRoute engine graph sources goals options (parts.map ShortestPath.vertices)).filter
      fun route => route.found

omit [IsStrictOrderedRing R] in
theorem Stitched.forcedRoute {sources goals : List (SeededEndpoint R)} {forced path : List Int}
    {route : ShortestPath R} (stitched : Stitched engine graph sources goals options path route)
    (starts : exists source, source ∈ sources ∧ path.head? = some source.vertex)
    (ends : exists goal, goal ∈ goals ∧ path.getLast? = some goal.vertex)
    (order : forced.Sublist path) : ForcedRoute engine graph sources goals forced options route := by
  have nonempty : path ≠ [] := by
    rintro rfl
    rcases starts with ⟨_, _, none⟩
    cases none
  have same := stitched.vertices
  exact ⟨same ▸ ⟨nonempty, stitched.nodup, starts, ends⟩, same ▸ order, same ▸ stitched.priced⟩

section Combinations

variable {sources goals : List (SeededEndpoint R)} {forced : List Int}
  (candidates : List.Forall₂ (HopCandidates engine graph options) (hopsFrom goals sources forced) segments)
  (distinct : forced.Nodup)
include candidates

include distinct in
omit [IsStrictOrderedRing R] in
theorem forcedRoute_of_mem_combinations {route : ShortestPath R}
    (listed : route ∈ combinations engine graph sources goals options segments) :
    ForcedRoute engine graph sources goals forced options route := by
  rcases List.mem_filter.mp listed with ⟨listed, found⟩
  rcases List.mem_map.mp listed with ⟨parts, chosen, rfl⟩
  rcases meeting_of_hopPaths (hopPaths_of_mem_sections candidates chosen) with ⟨meeting, starts, ends⟩
  exact (stitched_of_found meeting found).forcedRoute starts ends (meeting.sublist_joined distinct)

omit [IsStrictOrderedRing R] in
/-- No two combinations make the same route. -/
theorem nodup_combinations :
    ((combinations engine graph sources goals options segments).map ShortestPath.vertices).Nodup := by
  unfold combinations
  rw [List.filter_map, List.map_map]
  have sections : segments.sections.Nodup := PickProblem.nodup_sections fun segment listed =>
    (exists_hop_of_mem candidates listed).elim fun _ hop => hop.distinct.of_map _
  refine (sections.filter _).map_on fun parts isCombination others otherCombination same => ?_
  rcases List.mem_filter.mp isCombination with ⟨chosen, found⟩
  rcases List.mem_filter.mp otherCombination with ⟨otherChosen, otherFound⟩
  rcases meeting_of_hopPaths (hopPaths_of_mem_sections candidates chosen) with ⟨meeting, _, _⟩
  rcases meeting_of_hopPaths (hopPaths_of_mem_sections candidates otherChosen) with ⟨otherMeeting, _, _⟩
  have stitched := stitched_of_found meeting found
  have otherStitched := stitched_of_found otherMeeting otherFound
  have paths := (stitched.vertices.symm.trans same).trans otherStitched.vertices
  exact eq_of_mem_sections candidates chosen otherChosen
    (meeting.joined_injective otherMeeting stitched.nodup paths)

end Combinations

omit [IsStrictOrderedRing R] in
theorem forcedRoute_of_fallback {sources goals : List (SeededEndpoint R)} {forced path : List Int}
    (distinct : forced.Nodup)
    (fallback : (List.range (forced.length + 1)).foldlM
      (greedyHop engine graph sources goals forced options) [] = some path)
    (found : (stitchRoute engine graph sources goals options [path]).found = true) :
    ForcedRoute engine graph sources goals forced options
      (stitchRoute engine graph sources goals options [path]) := by
  have begun := begun_foldlM distinct (Nat.le_refl _) fallback
  have ends := begun.ends
  have order := begun.order
  rw [hopGoals, if_pos rfl] at ends
  rw [List.take_of_length_le (Nat.le_succ _)] at order
  have nonempty : path ≠ [] := by
    rintro rfl
    rcases begun.starts with ⟨_, _, none⟩
    cases none
  have stitched := stitched_of_found (.single nonempty) found
  simp only [joined, List.flatMap_nil, List.append_nil] at stitched
  exact stitched.forcedRoute begun.starts ends order

/-- Every path the router returns is such a route. -/
theorem forcedRoute_of_mem_findPaths {heaps : PickHeaps R} {sources goals : List (SeededEndpoint R)}
    (nonneg : forall source, source ∈ sources -> 0 ≤ source.cost) {forced : List Int} (distinct : forced.Nodup)
    {k : Int} {route : ShortestPath R}
    (listed : route ∈ findPaths engine heaps graph sources goals forced k options) :
    ForcedRoute engine graph sources goals forced options route := by
  unfold findPaths at listed
  split at listed
  · cases listed
  rename_i asked
  rw [not_or, not_le] at asked
  split at listed
  · cases listed
  rename_i segments routable
  have candidates := hopCandidates_of_hopSegments nonneg routable
  have proper : (pickProblem engine heaps graph sources goals k options segments).Proper :=
    proper_pickProblem candidates
  have enumerated := PickProblem.enumerate_spec proper asked.1.le
  simp only at listed
  split at listed
  · exact forcedRoute_of_mem_combinations candidates distinct (enumerated.valid.subset listed)
  split at listed
  · cases listed
  rename_i path fallback
  split at listed
  · rename_i found
    rw [List.mem_singleton.mp listed]
    exact forcedRoute_of_fallback distinct fallback found
  · cases listed

/-- The `k` cheapest of some routes, or all of them when there are fewer. -/
structure CheapestOf (k : Int) (routes results : List (ShortestPath R)) : Prop where
  length : results.length = min k.toNat routes.length
  chosen : forall path, path ∈ results -> path ∈ routes
  least : forall path, path ∈ results -> forall other, other ∈ routes ->
    other ∈ results ∨ path.cost ≤ other.cost

/-- What routing through forced vertices returns. -/
structure ForcedPaths (engine : Engine R) (graph : NavGraph R R) (sources goals : List (SeededEndpoint R))
    (forced : List Int) (k : Int) (options : SearchOptions R) (results : List (ShortestPath R)) :
    Prop where
  routes : forall path, path ∈ results -> ForcedRoute engine graph sources goals forced options path
  distinct : (results.map ShortestPath.vertices).Nodup
  atMost : results.length ≤ k.toNat
  ascending : results.Pairwise fun first second => first.cost ≤ second.cost
  best : forced ≠ [] -> forall segments,
    hopSegments engine graph sources goals forced k options = some segments ->
    segments.sections.length ≤ kMaxStitchedPicks ->
    combinations engine graph sources goals options segments ≠ [] ->
    CheapestOf k (combinations engine graph sources goals options segments) results

omit [IsStrictOrderedRing R] in
theorem forcedPaths_nil {sources goals : List (SeededEndpoint R)} {forced : List Int} {k : Int}
    (best : forced ≠ [] -> forall segments,
      hopSegments engine graph sources goals forced k options = some segments ->
      segments.sections.length ≤ kMaxStitchedPicks ->
      combinations engine graph sources goals options segments ≠ [] ->
      CheapestOf k (combinations engine graph sources goals options segments) []) :
    ForcedPaths engine graph sources goals forced k options [] :=
  ⟨fun _ member => absurd member List.not_mem_nil, .nil, Nat.zero_le _, .nil, best⟩

/-- Routing through forced vertices returns the best stitched combinations. -/
theorem findPaths_forcedPaths (engine : Engine R) (heaps : PickHeaps R) (graph : NavGraph R R)
    (sources goals : List (SeededEndpoint R)) (nonneg : forall source, source ∈ sources -> 0 ≤ source.cost)
    (forced : List Int) (distinct : forced.Nodup) (k : Int) (options : SearchOptions R) :
    ForcedPaths engine graph sources goals forced k options
      (findPaths engine heaps graph sources goals forced k options) := by
  unfold findPaths
  by_cases nothing : k ≤ 0 ∨ forced.isEmpty = true
  · rw [if_pos nothing]
    refine forcedPaths_nil fun someForced segments _ _ _ => ?_
    have noneAsked : k.toNat = 0 := by
      rcases nothing with noK | noForced
      · exact Int.toNat_of_nonpos noK
      · exact absurd (List.isEmpty_iff.mp noForced) someForced
    exact ⟨by rw [noneAsked, Nat.zero_min, List.length_nil], fun _ member => absurd member List.not_mem_nil,
      fun _ member => absurd member List.not_mem_nil⟩
  rw [if_neg nothing]
  rw [not_or, not_le] at nothing
  split
  · rename_i unroutable
    refine forcedPaths_nil fun _ segments routable => ?_
    rw [unroutable] at routable
    cases routable
  rename_i segments routable
  have candidates := hopCandidates_of_hopSegments nonneg routable
  have proper : (pickProblem engine heaps graph sources goals k options segments).Proper :=
    proper_pickProblem candidates
  have enumerated := PickProblem.enumerate_spec proper nothing.1.le
  generalize (pickProblem engine heaps graph sources goals k options segments).enumerate.results = results
    at enumerated
  have routes : (pickProblem engine heaps graph sources goals k options segments).validRoutes =
      combinations engine graph sources goals options segments := rfl
  simp only
  split
  · have atMost := enumerated.atMost
    simp only [pickProblem] at atMost
    refine ⟨fun path member => ?_, ?_, by omega, enumerated.ascending, fun _ others isSegments small _ => ?_⟩
    · exact forcedRoute_of_mem_combinations candidates distinct (enumerated.valid.subset member)
    · rcases enumerated.valid with ⟨listed, perm, sublist⟩
      rw [← (perm.map ShortestPath.vertices).nodup_iff]
      exact (nodup_combinations candidates).sublist (sublist.map _)
    · rw [routable] at isSegments
      cases isSegments
      exact ⟨enumerated.all small, fun path member => enumerated.valid.subset member,
        enumerated.least small⟩
  · -- Without a result there is no combination, so nothing is promised of the fallback's cost.
    rename_i noResult
    rw [Bool.not_eq_true', Bool.not_eq_false, List.isEmpty_iff] at noResult
    have best : forall others,
        hopSegments engine graph sources goals forced k options = some others ->
        others.sections.length ≤ kMaxStitchedPicks ->
        combinations engine graph sources goals options others = [] := by
      intro others isSegments small
      rw [routable] at isSegments
      cases isSegments
      have all := enumerated.all small
      rw [noResult, List.length_nil, routes] at all
      simp only [pickProblem] at all
      exact List.eq_nil_of_length_eq_zero (by omega)
    split
    · exact forcedPaths_nil fun _ others isSegments small someRoute =>
        absurd (best others isSegments small) someRoute
    rename_i path fallback
    split
    · rename_i found
      refine ⟨fun route member => ?_, List.nodup_singleton _, by
          rw [List.length_singleton]
          omega, List.pairwise_singleton _ _,
        fun _ others isSegments small someRoute => absurd (best others isSegments small) someRoute⟩
      rw [List.mem_singleton.mp member]
      exact forcedRoute_of_fallback distinct fallback found
    · exact forcedPaths_nil fun _ others isSegments small someRoute =>
        absurd (best others isSegments small) someRoute

/-- Heaps that keep their elements in order. -/
def sortedPickHeaps : PickHeaps ℚ where
  frontier := StdHeap.sorted PickItem.lower fun _ _ comes => comes
  ready := StdHeap.sorted (fun route => toLex (route.cost, route.vertices)) fun first second comes => by
    rw [Prod.Lex.toLex_lt_toLex]
    unfold ShortestPath.after at comes
    split at comes
    · exact Or.inl comes
    · rename_i same
      exact Or.inr ⟨(not_not.mp same).symm, comes⟩

/-- Turning back at 1 makes the cheaper first hop, from 2, the dearer route. -/
theorem findPaths_forcedPaths_line :
    (findPaths lineEngine sortedPickHeaps lineGraph [lineEndpoint 0, lineEndpoint 2] [lineEndpoint 3] [1] 2
      (lineOptions true)).map ShortestPath.vertices = [[0, 1, 3], [2, 1, 3]] ∧
    ForcedPaths lineEngine lineGraph [lineEndpoint 0, lineEndpoint 2] [lineEndpoint 3] [1] 2
      (lineOptions true)
      (findPaths lineEngine sortedPickHeaps lineGraph [lineEndpoint 0, lineEndpoint 2] [lineEndpoint 3] [1]
        2 (lineOptions true)) :=
  ⟨by decide +kernel, findPaths_forcedPaths _ _ _ _ _ (by decide) _ (by decide) _ _⟩

end BravoFinder
