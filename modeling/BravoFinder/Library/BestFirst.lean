import Mathlib.Order.Lattice
import Mathlib.Data.List.Perm.Subperm
import Mathlib.Data.List.Pairwise
import Mathlib.Data.List.Nodup
import Mathlib.Data.List.Perm.Basic

namespace BravoFinder

/-!
# Emitting the answers of a tree in ascending order

The nodes of a tree carry a lower bound on the cost of every answer at or below
them.  An enumeration keeps a frontier of unexplored nodes and the answers that
wait to be emitted.  It explores a least node, or emits a least waiting answer
once no unexplored node can undercut it.

`Explored` is what any order of such steps keeps.  Each node enters the frontier
once, because it has one parent, so no visited set is needed.  An emitted answer
is then never dearer than a later one (`Explored.explore`), and the emitted
answers are the cheapest of all (`Explored.cheapest`).
-/

/-- A tree whose nodes may carry an answer. -/
structure BestFirst (P A C : Type) where
  root : P
  children : P -> List P
  lower : P -> C
  answer : P -> Option A
  cost : A -> C

namespace BestFirst

variable {P A C : Type} [LinearOrder C] (problem : BestFirst P A C)

inductive Reachable : P -> Prop
  | root : Reachable problem.root
  | child {parent node : P} : Reachable parent -> node ∈ problem.children parent -> Reachable node

/-- A tree with bounds that never decrease on the way to an answer. -/
structure Lawful : Prop where
  children_nodup : forall {node}, problem.Reachable node -> (problem.children node).Nodup
  parent_unique : forall {first second node}, problem.Reachable first -> problem.Reachable second ->
    node ∈ problem.children first -> node ∈ problem.children second -> first = second
  root_not_child : forall {node}, problem.Reachable node -> problem.root ∉ problem.children node
  lower_le_child : forall {parent node}, problem.Reachable parent -> node ∈ problem.children parent ->
    problem.lower parent ≤ problem.lower node
  lower_le_cost : forall {node answer}, problem.Reachable node -> problem.answer node = some answer ->
    problem.lower node ≤ problem.cost answer

/-- What holds after some steps: the nodes explored so far, those on the
frontier, the answers emitted and those that wait. -/
structure Explored (visited frontier : List P) (emitted ready : List A) : Prop where
  reachable : forall node, node ∈ visited ++ frontier -> problem.Reachable node
  nodup : (visited ++ frontier).Nodup
  rooted : problem.root ∈ visited ++ frontier
  parents : forall node, node ∈ visited ++ frontier -> node = problem.root ∨
    exists parent, parent ∈ visited ∧ node ∈ problem.children parent
  closed : forall parent, parent ∈ visited -> forall node, node ∈ problem.children parent ->
    node ∈ visited ++ frontier
  answers : (emitted ++ ready).Perm (visited.filterMap problem.answer)
  ascending : emitted.Pairwise fun first second => problem.cost first ≤ problem.cost second
  waiting : forall first, first ∈ emitted -> forall second, second ∈ ready ->
    problem.cost first ≤ problem.cost second

/-- No unexplored node can undercut an emitted answer. -/
def Ahead (frontier : List P) (emitted : List A) : Prop :=
  forall answer, answer ∈ emitted -> forall node, node ∈ frontier ->
    problem.cost answer ≤ problem.lower node

variable {problem}

theorem explored_root : problem.Explored [] [problem.root] [] [] where
  reachable node member := by
    rw [List.mem_singleton.mp member]
    exact .root
  nodup := List.nodup_singleton _
  rooted := List.mem_singleton.mpr rfl
  parents node member := Or.inl (List.mem_singleton.mp member)
  closed parent member := absurd member List.not_mem_nil
  answers := .nil
  ascending := .nil
  waiting answer member := absurd member List.not_mem_nil

namespace Explored

variable {visited frontier : List P} {emitted ready : List A}

/-- Emitting a least waiting answer. -/
theorem emit (explored : problem.Explored visited frontier emitted ready) {answer : A} {rest : List A}
    (split : ready.Perm (answer :: rest))
    (least : forall other, other ∈ ready -> problem.cost answer ≤ problem.cost other) :
    problem.Explored visited frontier (emitted ++ [answer]) rest where
  reachable := explored.reachable
  nodup := explored.nodup
  rooted := explored.rooted
  parents := explored.parents
  closed := explored.closed
  answers := by
    rw [List.append_assoc, List.singleton_append]
    exact (split.symm.append_left emitted).trans explored.answers
  ascending := by
    refine List.pairwise_append.mpr ⟨explored.ascending, List.pairwise_singleton _ _, ?_⟩
    intro first member second same
    rw [List.mem_singleton.mp same]
    exact explored.waiting first member answer (split.mem_iff.mpr List.mem_cons_self)
  waiting := by
    intro first member second isReady
    have wasReady := split.mem_iff.mpr (List.mem_cons_of_mem answer isReady)
    rcases List.mem_append.mp member with old | new
    · exact explored.waiting first old second wasReady
    · rw [List.mem_singleton.mp new]
      exact least second wasReady

/-- Exploring a node: it leaves the frontier, its children enter it, and its
answer waits. -/
theorem explore (lawful : problem.Lawful) (explored : problem.Explored visited frontier emitted ready)
    {node : P} {rest following : List P} {waiting : List A} (split : frontier.Perm (node :: rest))
    (entered : following.Perm (problem.children node ++ rest))
    (ahead : problem.Ahead frontier emitted)
    (joined : waiting.Perm ((problem.answer node).toList ++ ready)) :
    problem.Explored (visited ++ [node]) following emitted waiting ∧
      problem.Ahead following emitted := by
  have nodeQueued : node ∈ frontier := split.mem_iff.mpr List.mem_cons_self
  have nodeReachable := explored.reachable node (List.mem_append_right _ nodeQueued)
  have whole : (visited ++ [node] ++ following).Perm
      (problem.children node ++ (visited ++ frontier)) := by
    have back : (visited ++ [node] ++ rest).Perm (visited ++ frontier) := by
      rw [List.append_assoc, List.singleton_append]
      exact split.symm.append_left visited
    exact ((entered.append_left _).trans (List.perm_append_comm_assoc _ _ _)).trans
      (back.append_left _)
  have members : forall other, other ∈ visited ++ [node] ++ following ↔
      other ∈ problem.children node ∨ other ∈ visited ++ frontier := fun other => by
    rw [whole.mem_iff, List.mem_append]
  -- A child is new: its only parent was not explored before.
  have unexplored : node ∉ visited := fun seen =>
    (List.nodup_append.mp explored.nodup).2.2 node seen node nodeQueued rfl
  have fresh : forall child, child ∈ problem.children node -> child ∉ visited ++ frontier := by
    intro child isChild seen
    rcases explored.parents child seen with same | ⟨parent, parentSeen, fromParent⟩
    · exact lawful.root_not_child nodeReachable (same ▸ isChild)
    · have parentReachable := explored.reachable parent (List.mem_append_left _ parentSeen)
      exact unexplored (lawful.parent_unique nodeReachable parentReachable isChild fromParent ▸ parentSeen)
  have childrenReachable : forall child, child ∈ problem.children node -> problem.Reachable child :=
    fun child isChild => .child nodeReachable isChild
  refine ⟨?_, ?_⟩
  · constructor
    · intro other member
      rcases (members other).mp member with isChild | old
      · exact childrenReachable other isChild
      · exact explored.reachable other old
    · rw [whole.nodup_iff]
      refine List.nodup_append.mpr ⟨lawful.children_nodup nodeReachable, explored.nodup, ?_⟩
      intro child isChild other old same
      exact fresh child isChild (same ▸ old)
    · exact (members _).mpr (Or.inr explored.rooted)
    · intro other member
      rcases (members other).mp member with isChild | old
      · exact Or.inr ⟨node, List.mem_append_right _ (List.mem_singleton.mpr rfl), isChild⟩
      · exact (explored.parents other old).imp_right fun ⟨parent, seen, fromParent⟩ =>
          ⟨parent, List.mem_append_left _ seen, fromParent⟩
    · intro parent seen child isChild
      rcases List.mem_append.mp seen with old | new
      · exact (members child).mpr (Or.inr (explored.closed parent old child isChild))
      · rw [List.mem_singleton.mp new] at isChild
        exact (members child).mpr (Or.inl isChild)
    · have found : [node].filterMap problem.answer = (problem.answer node).toList := by
        cases known : problem.answer node with
        | none => rw [List.filterMap_cons_none known, List.filterMap_nil, Option.toList_none]
        | some answer => rw [List.filterMap_cons_some known, List.filterMap_nil, Option.toList_some]
      rw [List.filterMap_append, found]
      refine (joined.append_left emitted).trans ((List.perm_append_comm_assoc _ _ _).trans ?_)
      exact (explored.answers.append_left _).trans List.perm_append_comm
    · exact explored.ascending
    · intro first member second isReady
      rcases List.mem_append.mp (joined.mem_iff.mp isReady) with new | old
      · have known : problem.answer node = some second := Option.mem_toList.mp new
        exact (ahead first member node nodeQueued).trans (lawful.lower_le_cost nodeReachable known)
      · exact explored.waiting first member second old
  · intro answer member other queued
    rcases List.mem_append.mp (entered.mem_iff.mp queued) with isChild | old
    · exact (ahead answer member node nodeQueued).trans
        (lawful.lower_le_child nodeReachable isChild)
    · exact ahead answer member other (split.mem_iff.mpr (List.mem_cons_of_mem _ old))

/-- Every node is explored or lies below a node of the frontier. -/
theorem exists_frontier (lawful : problem.Lawful)
    (explored : problem.Explored visited frontier emitted ready) {node : P}
    (reachable : problem.Reachable node) :
    node ∈ visited ∨ exists queued, queued ∈ frontier ∧ problem.lower queued ≤ problem.lower node := by
  induction reachable with
  | root => exact (List.mem_append.mp explored.rooted).imp_right fun queued => ⟨_, queued, le_rfl⟩
  | @child parent node reachable isChild inductionHypothesis =>
      rcases inductionHypothesis with seen | ⟨queued, member, below⟩
      · exact (List.mem_append.mp (explored.closed parent seen node isChild)).imp_right
          fun queued => ⟨node, queued, le_rfl⟩
      · exact Or.inr ⟨queued, member, below.trans (lawful.lower_le_child reachable isChild)⟩

/-- The emitted answers are the cheapest of all. -/
theorem cheapest (lawful : problem.Lawful) (explored : problem.Explored visited frontier emitted ready)
    (ahead : problem.Ahead frontier emitted) {node : P} (reachable : problem.Reachable node) {answer : A}
    (known : problem.answer node = some answer) :
    answer ∈ emitted ∨ forall first, first ∈ emitted -> problem.cost first ≤ problem.cost answer := by
  rcases explored.exists_frontier lawful reachable with seen | ⟨queued, member, below⟩
  · have produced := explored.answers.mem_iff.mpr (List.mem_filterMap.mpr ⟨node, seen, known⟩)
    exact (List.mem_append.mp produced).imp_right fun isReady first emittedFirst =>
      explored.waiting first emittedFirst answer isReady
  · exact Or.inr fun first emittedFirst => ((ahead first emittedFirst queued member).trans below).trans
      (lawful.lower_le_cost reachable known)

section Nodes

variable {nodes : List P}

/-- No node enters the frontier twice. -/
theorem length_le (explored : problem.Explored visited frontier emitted ready)
    (all : forall node, node ∈ nodes ↔ problem.Reachable node) :
    (visited ++ frontier).length ≤ nodes.length :=
  (List.subperm_of_subset explored.nodup fun node member =>
    (all node).mpr (explored.reachable node member)).length_le

/-- Every answer is produced once at most ... -/
theorem answers_subperm (explored : problem.Explored visited frontier emitted ready)
    (all : forall node, node ∈ nodes ↔ problem.Reachable node) :
    (emitted ++ ready).Subperm (nodes.filterMap problem.answer) := by
  have distinct : visited.Nodup := (List.nodup_append.mp explored.nodup).1
  rcases List.subperm_of_subset distinct fun node member =>
    (all node).mpr (explored.reachable node (List.mem_append_left _ member)) with
    ⟨ordered, perm, sublist⟩
  exact ⟨ordered.filterMap problem.answer, (perm.filterMap _).trans explored.answers.symm,
    sublist.filterMap _⟩

/-- ... and exactly once when the frontier is empty. -/
theorem answers_perm (lawful : problem.Lawful) (explored : problem.Explored visited [] emitted ready)
    (distinct : nodes.Nodup) (all : forall node, node ∈ nodes ↔ problem.Reachable node) :
    (emitted ++ ready).Perm (nodes.filterMap problem.answer) := by
  have same : visited.Perm nodes := by
    refine (List.perm_ext_iff_of_nodup ?_ distinct).mpr fun node => ?_
    · exact (List.append_nil visited) ▸ explored.nodup
    · rw [all]
      constructor
      · exact fun seen => explored.reachable node (List.mem_append_left _ seen)
      · intro reachable
        rcases explored.exists_frontier lawful reachable with seen | ⟨_, impossible, _⟩
        · exact seen
        · cases impossible
  exact explored.answers.trans (same.filterMap _)

end Nodes

end Explored
end BestFirst
end BravoFinder
