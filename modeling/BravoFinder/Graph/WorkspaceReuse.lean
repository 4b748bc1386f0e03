import BravoFinder.Graph.SearchTrail

namespace BravoFinder

/-!
# Reusing a workspace changes nothing

A run of the loop reads its workspace only through the stamped accessors.  Two
workspaces that agree on those are taken to two that agree again, step for
step, so the result of a search does not depend on what the workspace was used
for before.
-/

namespace SearchSetup

variable {R : Type} [LinearOrder R] [NatCast R] [Zero R] [One R] [Neg R] [Add R] [Sub R] [Mul R]
  [Div R] (setup : SearchSetup R)

open SearchWorkspace

variable {first second : SearchWorkspace R}

omit [NatCast R] [Sub R] [Mul R] [Div R] in
theorem agree_relaxAndPush (agree : Agree first second) (vertex : Int) (g : WithTop R) (geo : R)
    (prev : Int) (inbound : R) :
    Agree (setup.relaxAndPush first vertex g geo prev inbound)
      (setup.relaxAndPush second vertex g geo prev inbound) := by
  unfold relaxAndPush
  rw [agree.heap]
  exact (agree.relax vertex g geo prev inbound).withHeap _

omit [NatCast R] [Sub R] [Mul R] [Div R] in
theorem agree_seedSource (agree : Agree first second) (source : SeededEndpoint R) :
    Agree (setup.seedSource first source) (setup.seedSource second source) := by
  unfold seedSource
  rw [(agree.label source.vertex).g]
  split
  · exact agree
  split
  · exact agree
  split
  · exact setup.agree_relaxAndPush agree _ _ _ _ _
  · exact agree

theorem agree_relaxEdge (agree : Agree first second) (u : Int) (inbound : R) (edge : GraphEdge R) :
    Agree (setup.relaxEdge u inbound first edge) (setup.relaxEdge u inbound second edge) := by
  have tentative : forall extraCost, setup.tentative first u inbound edge extraCost =
      setup.tentative second u inbound edge extraCost := by
    intro extraCost
    simp only [SearchSetup.tentative, (agree.label u).g]
  unfold relaxEdge
  rw [agree.closed edge.toVertex, (agree.label edge.toVertex).g, (agree.label u).geo]
  split
  · exact agree
  split
  · exact agree
  split
  · exact agree
  cases edgeAllowed setup.options setup.graph edge u with
  | none => exact agree
  | some extraCost =>
      simp only [tentative extraCost]
      split
      · exact setup.agree_relaxAndPush agree _ _ _ _ _
      · exact agree

theorem agree_expand (agree : Agree first second) (u : Int) :
    Agree (setup.expand u first) (setup.expand u second) := by
  unfold expand inboundAt
  rw [(agree.label u).inbound]
  generalize (if setup.options.turnPenalty.enabled = true then second.inboundOf u else kNoBearing) =
    inbound
  induction setup.graph.edgesFrom u generalizing first second with
  | nil => exact agree
  | cons edge rest inductionHypothesis =>
      exact inductionHypothesis (setup.agree_relaxEdge agree u inbound edge)

/-- Two states of the loop that differ at most in unread slots. -/
structure SameState (first second : SearchState R) : Prop where
  ws : Agree first.ws second.ws
  bestTotal : first.bestTotal = second.bestTotal
  bestGoal : first.bestGoal = second.bestGoal

theorem sameState_visit {left right : SearchState R} (same : SameState left right) (u : Int) :
    SameState (setup.visit u left) (setup.visit u right) := by
  rcases left with ⟨left, bestTotal, bestGoal⟩
  rcases right with ⟨right, _, _⟩
  rcases same with ⟨agree, rfl, rfl⟩
  have closed := agree.markClosed u
  have total := setup.totalAt_congr (closed.label u)
  refine ⟨?_, ?_, ?_⟩
  · rw [visit_ws, visit_ws]
    exact setup.agree_expand closed u
  all_goals
    simp only [visit, finishAt, total]
    split
    · split <;> rfl
    · rfl

theorem sameState_searchLoop (fuel : Nat) {left right : SearchState R} (same : SameState left right) :
    SameState (setup.searchLoop fuel left) (setup.searchLoop fuel right) := by
  induction fuel generalizing left right with
  | zero => exact same
  | succ fuel inductionHypothesis =>
      rcases left with ⟨left, bestTotal, bestGoal⟩
      rcases right with ⟨right, _, _⟩
      rcases same with ⟨agree, rfl, rfl⟩
      change Agree left right at agree
      simp only [searchLoop, agree.heap]
      cases setup.engine.openSet.pop right.heap with
      | none => exact ⟨agree, rfl, rfl⟩
      | some result =>
          rcases result with ⟨top, rest⟩
          have popped : SameState ⟨left.withHeap rest, bestTotal, bestGoal⟩
              ⟨right.withHeap rest, bestTotal, bestGoal⟩ := ⟨agree.withHeap rest, rfl, rfl⟩
          simp only [agree.closed top.vertex]
          split
          · exact inductionHypothesis popped
          split
          · exact popped
          · exact inductionHypothesis (setup.sameState_visit popped top.vertex)

omit [NatCast R] [Sub R] [Mul R] [Div R] in
theorem sameState_searchInit (sources : List (SeededEndpoint R)) (firstStamped : first.Stamped)
    (secondStamped : second.Stamped) :
    SameState (setup.searchInit sources first) (setup.searchInit sources second) := by
  refine ⟨?_, rfl, rfl⟩
  have fresh := Agree.of_nextGeneration firstStamped secondStamped []
  unfold searchInit
  generalize first.nextGeneration.withHeap [] = left at fresh
  generalize second.nextGeneration.withHeap [] = right at fresh
  induction sources generalizing left right with
  | nil => exact fresh
  | cons source rest inductionHypothesis =>
      exact inductionHypothesis _ _ (setup.agree_seedSource fresh source)

/-- The result of a search does not depend on what its workspace was used for
before. -/
theorem findShortestPathMulti_reuse (sources : List (SeededEndpoint R))
    (firstStamped : first.Stamped) (secondStamped : second.Stamped) :
    (setup.findShortestPathMulti sources first).1 =
      (setup.findShortestPathMulti sources second).1 := by
  have same := setup.sameState_searchLoop (setup.searchFuel sources)
    (setup.sameState_searchInit sources firstStamped secondStamped)
  have path := walkBack_congr _ _ fun v => (same.ws.label v).prev
  rw [findShortestPathMulti_fst, findShortestPathMulti_fst]
  simp only [searchResult, path, same.bestGoal, same.bestTotal, (same.ws.label _).geo]

end SearchSetup
end BravoFinder
