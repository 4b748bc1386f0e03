import BravoFinder.Graph.WorkspaceArrays
import BravoFinder.Graph.YenCost

namespace BravoFinder

/-!
# Searches that share a workspace

The search on the stored workspace, and what a history of searches on one
workspace returns.  Whatever the sizes of the graphs, every search returns what
it would return with a workspace of its own.
-/

namespace SearchSetup

variable {R : Type} [LinearOrder R] [NatCast R] [Zero R] [One R] [Neg R] [Add R] [Sub R] [Mul R]
  [Div R] (setup : SearchSetup R)

/-! ## The search on the arrays -/

namespace Stored

def relaxAndPush (ws : WorkspaceArrays R) (vertex : Int) (g : WithTop R) (geo : R) (prev : Int) (inbound : R) :
    WorkspaceArrays R :=
  (ws.relax vertex g geo prev inbound).withHeap
    (setup.engine.openSet.push ws.heap ⟨g + setup.heuristic vertex, vertex⟩)

def seedSource (ws : WorkspaceArrays R) (source : SeededEndpoint R) : WorkspaceArrays R :=
  if source.vertex < 0 ∨ setup.graph.vertexCount ≤ source.vertex then ws
  else if setup.options.nodeFilter.blocks source.vertex then ws
  else if (source.cost : WithTop R) < ws.gOf source.vertex then
    relaxAndPush setup ws source.vertex source.cost source.cost kNoVertex (setup.tables.sourceBearing source.vertex)
  else ws

def tentative (ws : WorkspaceArrays R) (u : Int) (inbound : R) (edge : GraphEdge R) (extraCost : R) : WithTop R :=
  ws.gOf u + edge.distanceNm + extraCost + setup.turnOnto inbound u edge.toVertex

def relaxEdge (u : Int) (inbound : R) (ws : WorkspaceArrays R) (edge : GraphEdge R) : WorkspaceArrays R :=
  if ws.closed edge.toVertex then ws
  else if setup.options.nodeFilter.blocks edge.toVertex then ws
  else if setup.options.edgeFilter.blocks u edge.toVertex then ws
  else match edgeAllowed setup.options setup.graph edge u with
    | none => ws
    | some extraCost =>
        if tentative setup ws u inbound edge extraCost < ws.gOf edge.toVertex then
          relaxAndPush setup ws edge.toVertex (tentative setup ws u inbound edge extraCost)
            (ws.geoOf u + edge.distanceNm) u (setup.outboundBearing u edge.toVertex)
        else ws

def inboundAt (ws : WorkspaceArrays R) (u : Int) : R :=
  if setup.options.turnPenalty.enabled then ws.inboundOf u else kNoBearing

def expand (u : Int) (ws : WorkspaceArrays R) : WorkspaceArrays R :=
  (setup.graph.edgesFrom u).foldl (relaxEdge setup u (inboundAt setup ws u)) ws

def totalAt (ws : WorkspaceArrays R) (u : Int) : WithTop R :=
  let total : WithTop R := ws.gOf u + setup.tables.goalSeed u
  if setup.options.turnPenalty.enabled then
    if 0 ≤ ws.inboundOf u ∧ 0 ≤ setup.tables.goalBearing u then
      total +
        setup.options.turnPenalty.cost (turnAngleDeg (ws.inboundOf u) (setup.tables.goalBearing u))
    else total
  else total

/-- The state of the main loop. -/
structure State (R : Type) where
  ws : WorkspaceArrays R
  bestTotal : WithTop R
  bestGoal : Int

def finishAt (u : Int) (state : State R) : State R :=
  if 0 ≤ setup.tables.goalSeed u then
    if totalAt setup state.ws u < state.bestTotal then
      { state with bestTotal := totalAt setup state.ws u, bestGoal := u }
    else state
  else state

def visit (u : Int) (state : State R) : State R :=
  let finished := finishAt setup u { state with ws := state.ws.markClosed u }
  { finished with ws := expand setup u finished.ws }

def searchLoop : Nat -> State R -> State R
  | 0, state => state
  | fuel + 1, state =>
      match setup.engine.openSet.pop state.ws.heap with
      | none => state
      | some (top, rest) =>
          let popped := { state with ws := state.ws.withHeap rest }
          if state.ws.closed top.vertex then searchLoop fuel popped
          else if state.bestTotal ≤ top.f then popped
          else searchLoop fuel (visit setup top.vertex popped)

def searchInit (sources : List (SeededEndpoint R)) (ws : WorkspaceArrays R) : State R where
  ws := sources.foldl (seedSource setup) (ws.start setup.graph.coords.length)
  bestTotal := ⊤
  bestGoal := kNoVertex

def walkBack (ws : WorkspaceArrays R) : Nat -> Int -> List Int
  | 0, _ => []
  | fuel + 1, vertex => if vertex = kNoVertex then [] else vertex :: walkBack ws fuel (ws.prevOf vertex)

def searchResult (state : State R) : ShortestPath R :=
  if state.bestGoal < 0 then .unreachable
  else
    { vertices := (walkBack state.ws (setup.graph.coords.length + 1) state.bestGoal).reverse
      distanceNm := state.ws.geoOf state.bestGoal + setup.tables.goalSeed state.bestGoal
      cost := state.bestTotal.untopD 0
      found := true }

/-- `FindShortestPathMulti` on the stored workspace. -/
def findShortestPathMulti (sources : List (SeededEndpoint R)) (ws : WorkspaceArrays R) :
    ShortestPath R × WorkspaceArrays R :=
  if sources.isEmpty then (.unreachable, ws)
  else
    let final := searchLoop setup (setup.searchFuel sources) (searchInit setup sources ws)
    (searchResult setup final, final.ws)

/-! ## It follows the search on total maps -/

/-- Stored arrays that read like labels on total maps. -/
structure Shows (size : Nat) (generation : Nat) (arrays : WorkspaceArrays R) (labels : SearchWorkspace R) : Prop where
  sized : arrays.Stored size
  fits : setup.graph.coords.length ≤ size
  generation : arrays.generation.toNat = generation
  g : forall vertex, arrays.gOf vertex = labels.gOf vertex
  geo : forall vertex, arrays.geoOf vertex = labels.geoOf vertex
  prev : forall vertex, arrays.prevOf vertex = labels.prevOf vertex
  inbound : forall vertex, arrays.inboundOf vertex = labels.inboundOf vertex
  closed : forall vertex, arrays.closed vertex = labels.closed vertex
  heap : arrays.heap = labels.heap

variable {setup} {size generation : Nat} {arrays : WorkspaceArrays R} {labels : SearchWorkspace R}

omit [NatCast R] [Add R] [Sub R] [Mul R] [Div R] in
/-- A vertex of the graph has a slot. -/
theorem Shows.inside (shows : Shows setup size generation arrays labels) {vertex : Int}
    (inRange : setup.graph.InRange vertex) : 0 ≤ vertex ∧ vertex.toNat < size := by
  have below : vertex < setup.graph.coords.length := inRange.2
  have fits := shows.fits
  have nonneg := inRange.1
  exact ⟨nonneg, by omega⟩

omit [NatCast R] [Add R] [Sub R] [Mul R] [Div R] in
theorem Shows.withHeap (shows : Shows setup size generation arrays labels) (heap : List (QueueNode R)) :
    Shows setup size generation (arrays.withHeap heap) (labels.withHeap heap) :=
  ⟨shows.sized.withHeap heap, shows.fits, shows.generation, shows.g, shows.geo, shows.prev, shows.inbound,
    shows.closed, rfl⟩

omit [NatCast R] [Sub R] [Mul R] [Div R] in
theorem Shows.relaxAndPush (shows : Shows setup size generation arrays labels) {vertex : Int}
    (inRange : setup.graph.InRange vertex) (g : WithTop R) (geo : R) (prev : Int) (inbound : R) :
    Shows setup size generation (relaxAndPush setup arrays vertex g geo prev inbound)
      (setup.relaxAndPush labels vertex g geo prev inbound) := by
  have inside := shows.inside inRange
  rcases shows.sized.relax inside g geo prev inbound with ⟨kept, same⟩
  have read := shows.sized.relaxed inside g geo prev inbound
  rw [Stored.relaxAndPush, SearchSetup.relaxAndPush, shows.heap]
  refine Shows.withHeap ⟨kept, shows.fits, (congrArg UInt32.toNat same).trans shows.generation, fun other => ?_,
    fun other => ?_, fun other => ?_, fun other => ?_, fun other => ?_, ?_⟩ _
  · rw [read.g, SearchWorkspace.gOf_relax, shows.g]
  · rw [read.geo, SearchWorkspace.geoOf_relax, shows.geo]
  · rw [read.prev, SearchWorkspace.prevOf_relax, shows.prev]
  · rw [read.inbound, SearchWorkspace.inboundOf_relax, shows.inbound]
  · rw [read.closed, SearchWorkspace.closed_relax, shows.closed]
  · rw [read.heap, SearchWorkspace.heap_relax, shows.heap]

omit [NatCast R] [Add R] [Sub R] [Mul R] [Div R] in
theorem Shows.markClosed (shows : Shows setup size generation arrays labels) {vertex : Int}
    (inRange : setup.graph.InRange vertex) :
    Shows setup size generation (arrays.markClosed vertex) (labels.markClosed vertex) :=
  ⟨shows.sized.markClosed (shows.inside inRange), shows.fits, shows.generation, shows.g, shows.geo, shows.prev,
    shows.inbound, fun other => by
      rw [shows.sized.closed_markClosed (shows.inside inRange), SearchWorkspace.closed_markClosed, shows.closed],
    shows.heap⟩

omit [NatCast R] [Sub R] [Mul R] [Div R] in
theorem Shows.seedSource (shows : Shows setup size generation arrays labels) (source : SeededEndpoint R) :
    Shows setup size generation (seedSource setup arrays source) (setup.seedSource labels source) := by
  rw [Stored.seedSource, SearchSetup.seedSource, shows.g]
  split_ifs with outside
  · exact shows
  · exact shows
  · rw [not_or, not_lt, not_le] at outside
    exact shows.relaxAndPush outside _ _ _ _
  · exact shows

theorem Shows.relaxEdge (shows : Shows setup size generation arrays labels) {u : Int} (inbound : R)
    {edge : GraphEdge R} (listed : edge ∈ setup.graph.edgesFrom u) :
    Shows setup size generation (relaxEdge setup u inbound arrays edge) (setup.relaxEdge u inbound labels edge) := by
  have same : forall extraCost, tentative setup arrays u inbound edge extraCost =
      setup.tentative labels u inbound edge extraCost := by
    intro extraCost
    rw [tentative, SearchSetup.tentative, shows.g]
  rw [Stored.relaxEdge, SearchSetup.relaxEdge, shows.closed, shows.g, shows.geo]
  split_ifs
  · exact shows
  · exact shows
  · exact shows
  rcases edgeAllowed setup.options setup.graph edge u with _ | extraCost
  · exact shows
  · simp only [same]
    split_ifs
    · exact shows.relaxAndPush (setup.graph.inRange_toVertex listed) _ _ _ _
    · exact shows

theorem Shows.expand (shows : Shows setup size generation arrays labels) (u : Int) :
    Shows setup size generation (expand setup u arrays) (setup.expand u labels) := by
  have run : forall (edges : List (GraphEdge R)), (forall edge, edge ∈ edges -> edge ∈ setup.graph.edgesFrom u) ->
      forall (inbound : R) {arrays : WorkspaceArrays R} {labels : SearchWorkspace R},
        Shows setup size generation arrays labels ->
          Shows setup size generation (edges.foldl (Stored.relaxEdge setup u inbound) arrays)
            (edges.foldl (setup.relaxEdge u inbound) labels) := by
    intro edges
    induction edges with
    | nil => exact fun _ _ _ _ shows => shows
    | cons edge rest inductionHypothesis =>
        intro listed inbound arrays labels shows
        exact inductionHypothesis (fun other member => listed other (List.mem_cons_of_mem _ member)) inbound
          (shows.relaxEdge inbound (listed edge List.mem_cons_self))
  rw [Stored.expand, SearchSetup.expand, Stored.inboundAt, SearchSetup.inboundAt, shows.inbound]
  exact run _ (fun _ member => member) _ shows

/-- Two states of the loop, one on stored arrays and one on total maps. -/
structure Follows (setup : SearchSetup R) (size generation : Nat) (state : State R) (abstract : SearchState R) :
    Prop where
  shows : Shows setup size generation state.ws abstract.ws
  bestTotal : state.bestTotal = abstract.bestTotal
  bestGoal : state.bestGoal = abstract.bestGoal

theorem Shows.totalAt (shows : Shows setup size generation arrays labels) (u : Int) :
    totalAt setup arrays u = setup.totalAt labels u := by
  rw [Stored.totalAt, SearchSetup.totalAt, shows.g, shows.inbound]

theorem Follows.visit {state : State R} {abstract : SearchState R}
    (follows : Follows setup size generation state abstract) {u : Int} (inRange : setup.graph.InRange u) :
    Follows setup size generation (visit setup u state) (setup.visit u abstract) := by
  rcases state with ⟨arrays, bestTotal, bestGoal⟩
  rcases abstract with ⟨labels, _, _⟩
  rcases follows with ⟨shows, rfl, rfl⟩
  have closed := shows.markClosed inRange
  have total := closed.totalAt u
  simp only [Stored.visit, SearchSetup.visit, Stored.finishAt, SearchSetup.finishAt, total]
  split_ifs
  · exact ⟨closed.expand u, rfl, rfl⟩
  · exact ⟨closed.expand u, rfl, rfl⟩
  · exact ⟨closed.expand u, rfl, rfl⟩

theorem Follows.searchLoop (fuel : Nat) {state : State R} {abstract : SearchState R}
    (follows : Follows setup size generation state abstract) (queued : setup.Queued abstract.ws) :
    Follows setup size generation (searchLoop setup fuel state) (setup.searchLoop fuel abstract) := by
  induction fuel generalizing state abstract with
  | zero => exact follows
  | succ fuel inductionHypothesis =>
      rcases state with ⟨arrays, bestTotal, bestGoal⟩
      rcases abstract with ⟨labels, _, _⟩
      rcases follows with ⟨shows, rfl, rfl⟩
      change Shows setup size generation arrays labels at shows
      simp only [Stored.searchLoop, SearchSetup.searchLoop, shows.heap]
      rcases taken : setup.engine.openSet.pop labels.heap with _ | ⟨top, rest⟩
      · exact ⟨shows, rfl, rfl⟩
      · have popped : Follows setup size generation ⟨arrays.withHeap rest, bestTotal, bestGoal⟩
            ⟨labels.withHeap rest, bestTotal, bestGoal⟩ := ⟨shows.withHeap rest, rfl, rfl⟩
        have queuedRest : setup.Queued (labels.withHeap rest) := queued.rest taken
        have inRange := queued.inRange top (((queued.popped taken).remaining top).mpr (Or.inl rfl))
        simp only [shows.closed top.vertex]
        split_ifs
        · exact inductionHypothesis popped queuedRest
        · exact popped
        · refine inductionHypothesis (popped.visit inRange) ?_
          rw [visit_ws]
          have closed : setup.Queued ((labels.withHeap rest).markClosed top.vertex) :=
            ⟨queuedRest.isHeap, queuedRest.inRange⟩
          exact closed.expand top.vertex

omit [NatCast R] [Sub R] [Mul R] [Div R] in
/-- A search starts on stored arrays as it does on labels that were never used. -/
theorem follows_searchInit (sources : List (SeededEndpoint R)) (isStored : arrays.Stored size)
    (fresh : arrays.generation.toNat + 1 < 2 ^ 32) :
    Follows setup (max size setup.graph.coords.length) (arrays.generation.toNat + 1)
      (searchInit setup sources arrays) (setup.searchInit sources .empty) := by
  rcases isStored.start setup.graph.coords.length fresh with ⟨grown, generation, clean⟩
  have dead := SearchWorkspace.stamped_empty (R := R) |>.not_live_nextGeneration
  have start : Shows setup (max size setup.graph.coords.length) (arrays.generation.toNat + 1)
      (arrays.start setup.graph.coords.length) ((SearchWorkspace.empty : SearchWorkspace R).nextGeneration.withHeap []) :=
    ⟨grown, le_max_right _ _, generation, fun vertex => (clean.g vertex).trans (if_neg (dead vertex)).symm,
      fun vertex => (clean.geo vertex).trans (if_neg (dead vertex)).symm,
      fun vertex => (clean.prev vertex).trans (if_neg (dead vertex)).symm,
      fun vertex => (clean.inbound vertex).trans (if_neg (dead vertex)).symm,
      fun vertex => (clean.closed vertex).trans
        (SearchWorkspace.stamped_empty.closed_nextGeneration vertex).symm, clean.heap⟩
  refine ⟨?_, rfl, rfl⟩
  rw [Stored.searchInit, SearchSetup.searchInit]
  simp only
  generalize arrays.start setup.graph.coords.length = left at start
  generalize (SearchWorkspace.empty : SearchWorkspace R).nextGeneration.withHeap [] = right at start
  clear isStored fresh grown generation clean dead
  induction sources generalizing left right with
  | nil => exact start
  | cons source rest inductionHypothesis => exact inductionHypothesis _ _ (start.seedSource source)

omit [NatCast R] [Add R] [Sub R] [Mul R] [Div R] in
theorem Shows.walkBack (shows : Shows setup size generation arrays labels) (fuel : Nat) (vertex : Int) :
    walkBack arrays fuel vertex = SearchSetup.walkBack labels fuel vertex := by
  induction fuel generalizing vertex with
  | zero => rfl
  | succ fuel inductionHypothesis =>
      rw [Stored.walkBack, SearchSetup.walkBack, shows.prev, inductionHypothesis]

/-- A search on stored arrays returns what the search returns on labels of its
own, and moves the generation by one at most. -/
theorem findShortestPathMulti_spec (sources : List (SeededEndpoint R)) (isStored : arrays.Stored size)
    (fresh : arrays.generation.toNat + 1 < 2 ^ 32) :
    (findShortestPathMulti setup sources arrays).1 = (setup.findShortestPathMulti sources .empty).1 ∧
      (exists grown, (findShortestPathMulti setup sources arrays).2.Stored grown) ∧
      (findShortestPathMulti setup sources arrays).2.generation.toNat ≤ arrays.generation.toNat + 1 := by
  rw [Stored.findShortestPathMulti, SearchSetup.findShortestPathMulti]
  split_ifs
  · exact ⟨rfl, ⟨size, isStored⟩, Nat.le_succ _⟩
  · have follows := (follows_searchInit sources isStored fresh).searchLoop (setup.searchFuel sources)
      (setup.queued_searchInit sources .empty)
    simp only
    generalize searchLoop setup _ _ = final at follows ⊢
    generalize setup.searchLoop _ _ = abstract at follows ⊢
    refine ⟨?_, ⟨_, follows.shows.sized⟩, follows.shows.generation.le⟩
    rw [Stored.searchResult, SearchSetup.searchResult, follows.bestGoal, follows.bestTotal, follows.shows.walkBack,
      follows.shows.geo]

end Stored
end SearchSetup

/-! ## Histories -/

section History

variable {R : Type} [LinearOrder R] [NatCast R] [Zero R] [One R] [Neg R] [Add R] [Sub R] [Mul R]
  [Div R]

/-- A search, with its graph, its bans and its sources. -/
structure SearchCall (R : Type) [LinearOrder R] [Zero R] [One R] [Neg R] where
  setup : SearchSetup R
  sources : List (SeededEndpoint R)

/-- What a search returns with a freshly constructed workspace. -/
def SearchCall.fresh (call : SearchCall R) : ShortestPath R :=
  (SearchSetup.Stored.findShortestPathMulti call.setup call.sources .empty).1

/-- The results of searches that share a workspace, and what they leave it as. -/
def shareWorkspace : List (SearchCall R) -> WorkspaceArrays R -> List (ShortestPath R) × WorkspaceArrays R
  | [], ws => ([], ws)
  | call :: calls, ws =>
      let (path, used) := SearchSetup.Stored.findShortestPathMulti call.setup call.sources ws
      let (paths, last) := shareWorkspace calls used
      (path :: paths, last)

omit [LinearOrder R] [NatCast R] [Zero R] [One R] [Neg R] [Add R] [Sub R] [Mul R] [Div R] in
/-- The generation of a new workspace is far from its end. -/
theorem generation_empty : (WorkspaceArrays.empty : WorkspaceArrays R).generation.toNat + 1 < 2 ^ 32 := by
  change 0 + 1 < 2 ^ 32
  decide

theorem SearchCall.stored_spec (call : SearchCall R) {ws : WorkspaceArrays R} {size : Nat} (stored : ws.Stored size)
    (fresh : ws.generation.toNat + 1 < 2 ^ 32) :
    (SearchSetup.Stored.findShortestPathMulti call.setup call.sources ws).1 =
        (call.setup.findShortestPathMulti call.sources .empty).1 ∧
      (exists grown, (SearchSetup.Stored.findShortestPathMulti call.setup call.sources ws).2.Stored grown) ∧
      (SearchSetup.Stored.findShortestPathMulti call.setup call.sources ws).2.generation.toNat ≤
        ws.generation.toNat + 1 :=
  SearchSetup.Stored.findShortestPathMulti_spec call.sources stored fresh

theorem fresh_eq (call : SearchCall R) :
    call.fresh = (call.setup.findShortestPathMulti call.sources .empty).1 :=
  (call.stored_spec WorkspaceArrays.stored_empty generation_empty).1

/-- Searches on one workspace, before its generation wraps. -/
theorem shareWorkspace_spec (calls : List (SearchCall R)) :
    forall (ws : WorkspaceArrays R), (exists size, ws.Stored size) -> ws.generation.toNat + calls.length < 2 ^ 32 ->
      (shareWorkspace calls ws).1 = calls.map SearchCall.fresh ∧
        (exists size, (shareWorkspace calls ws).2.Stored size) ∧
        (shareWorkspace calls ws).2.generation.toNat ≤ ws.generation.toNat + calls.length := by
  induction calls with
  | nil => exact fun ws stored _ => ⟨rfl, stored, Nat.le_refl _⟩
  | cons call calls inductionHypothesis =>
      rintro ws ⟨size, stored⟩ few
      rw [List.length_cons] at few ⊢
      have first := call.stored_spec stored (by omega)
      rcases first with ⟨same, kept, moved⟩
      rcases inductionHypothesis _ kept (by omega) with ⟨others, last, further⟩
      refine ⟨?_, last, further.trans (by omega)⟩
      rw [shareWorkspace, List.map_cons, fresh_eq, ← same, ← others]

/-- Whatever ran on a workspace before, each search returns what it returns with
a workspace of its own, and starts with nothing of an earlier search to read. -/
theorem shareWorkspace_eq_fresh (calls : List (SearchCall R)) (few : calls.length < 2 ^ 32 - 1) :
    (shareWorkspace calls .empty).1 = calls.map SearchCall.fresh ∧
      forall before after, calls = before ++ after -> forall n,
        ((shareWorkspace before (.empty : WorkspaceArrays R)).2.start n).Clean := by
  refine ⟨(shareWorkspace_spec calls .empty ⟨0, WorkspaceArrays.stored_empty⟩ ?_).1, fun before after split n => ?_⟩
  · change 0 + calls.length < 2 ^ 32
    omega
  · have fewer : before.length < 2 ^ 32 - 1 := by
      rw [split, List.length_append] at few
      omega
    have bound : (WorkspaceArrays.empty : WorkspaceArrays R).generation.toNat + before.length < 2 ^ 32 := by
      change 0 + before.length < 2 ^ 32
      omega
    rcases shareWorkspace_spec before .empty ⟨0, WorkspaceArrays.stored_empty⟩ bound with ⟨-, ⟨size, stored⟩, moved⟩
    refine (stored.start n ?_).2.2
    change _ ≤ 0 + before.length at moved
    omega

end History

/-- On the line from 0 to 3, and then from 2 to 1. -/
def lineCalls : List (SearchCall ℚ) :=
  [⟨searchSetup lineEngine lineGraph [lineEndpoint 0] [lineEndpoint 3] (lineOptions true), [lineEndpoint 0]⟩,
    ⟨searchSetup lineEngine lineGraph [lineEndpoint 2] [lineEndpoint 1] (lineOptions false), [lineEndpoint 2]⟩]

theorem shareWorkspace_eq_fresh_line :
    (shareWorkspace lineCalls .empty).1 = lineCalls.map SearchCall.fresh ∧
      forall before after, lineCalls = before ++ after -> forall n,
        ((shareWorkspace before (.empty : WorkspaceArrays ℚ)).2.start n).Clean :=
  shareWorkspace_eq_fresh lineCalls (by decide)

end BravoFinder
