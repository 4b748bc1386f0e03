import BravoFinder.Library.StdSet
import Mathlib.Data.Prod.Lex
import Mathlib.Data.List.Lex
import Mathlib.Data.List.Infix
import Mathlib.Data.List.Nodup
import Mathlib.Data.Set.Card

namespace BravoFinder

/-!
# Enumerating paths by deviation

A path problem is given only through its spur search.  For a root and the steps
already taken after it, the search answers with some path that continues the
root by another step, or with none.  The enumeration accepts a first path and
then, round by round, spurs at the roots of the path accepted last, keeps every
answer in a persistent ordered set and accepts the least of it.

Spurring may start at the depth where the last path left its parent.  At a
shorter root the steps taken have not changed since the parent was spurred, so
the answer is already pending: `Sound.round_start`.

`Sound` is the invariant, and nothing in it says what makes an answer good.  With
an exact spur search the accepted paths are the cheapest ones and come in
ascending order, `rounds_exact`.
-/

namespace Deviation

section Steps

variable {V : Type} [DecidableEq V]

/-- The step a path takes after a root, `none` when it ends there. -/
def next (root path : List V) : Option V :=
  path[root.length]?

/-- The steps accepted paths take after a root they share. -/
def banned (accepted : List (List V)) (root : List V) : List (Option V) :=
  (accepted.filter fun path => decide (root <+: path)).map (next root)

theorem mem_banned (accepted : List (List V)) (root : List V) (step : Option V) :
    step ∈ banned accepted root ↔
      exists path, path ∈ accepted ∧ root <+: path ∧ next root path = step := by
  simp only [banned, List.mem_map, List.mem_filter, decide_eq_true_eq, and_assoc]

/-- A path that does not share the root bans nothing after it. -/
theorem mem_banned_append_of_apart (accepted : List (List V)) {root path : List V}
    (apart : ¬ root <+: path) (step : Option V) :
    step ∈ banned (accepted ++ [path]) root ↔ step ∈ banned accepted root := by
  simp only [mem_banned, List.mem_append, List.mem_singleton]
  constructor
  · rintro ⟨other, member | same, shares, taken⟩
    · exact ⟨other, member, shares, taken⟩
    · exact absurd (same ▸ shares) apart
  · rintro ⟨other, member, shares, taken⟩
    exact ⟨other, Or.inl member, shares, taken⟩

/-- Nor does a path whose step after the root is banned already. -/
theorem mem_banned_append_of_mem (accepted : List (List V)) {root path : List V}
    (already : next root path ∈ banned accepted root) (step : Option V) :
    step ∈ banned (accepted ++ [path]) root ↔ step ∈ banned accepted root := by
  constructor
  · intro member
    rcases (mem_banned _ _ _).mp member with ⟨other, listed, shares, taken⟩
    rcases List.mem_append.mp listed with old | new
    · exact (mem_banned _ _ _).mpr ⟨other, old, shares, taken⟩
    · rw [← taken, List.mem_singleton.mp new]
      exact already
  · intro member
    rcases (mem_banned _ _ _).mp member with ⟨other, listed, shares, taken⟩
    exact (mem_banned _ _ _).mpr ⟨other, List.mem_append_left _ listed, shares, taken⟩

omit [DecidableEq V] in
/-- Two paths that agree up to a depth take the same step after every shorter
root. -/
theorem next_eq_of_take_eq {root first second : List V} {depth : Nat}
    (agree : first.take depth = second.take depth) (short : root.length < depth) :
    next root first = next root second := by
  have firstStep := List.getElem?_take_of_lt (l := first) short
  have secondStep := List.getElem?_take_of_lt (l := second) short
  rw [next, next, ← firstStep, ← secondStep, agree]

omit [DecidableEq V] in
/-- A prefix of one of two paths that agree up to a depth, and no longer than
it, is a prefix of the other. -/
theorem prefix_of_take_eq {root first second : List V} {depth : Nat}
    (agree : first.take depth = second.take depth) (short : root.length ≤ depth)
    (shares : root <+: first) : root <+: second := by
  have inTake : root <+: first.take depth := by
    rw [List.prefix_take_iff]
    exact ⟨shares, short⟩
  rw [agree] at inTake
  exact inTake.trans (List.take_prefix depth second)

end Steps

/-- A path problem, given by its spur search and the price of a path. -/
structure Problem (V L C : Type) where
  spur : List V -> List (Option V) -> Option (List V)
  label : List V -> L
  price : L -> C
  spur_congr : forall root {first second}, (forall step, step ∈ first ↔ step ∈ second) ->
    spur root first = spur root second
  prefix_of_spur : forall {root taken path}, spur root taken = some path -> root <+: path
  next_of_spur : forall {root taken path}, spur root taken = some path -> next root path ∉ taken

namespace Problem

variable {V L C : Type} [DecidableEq V] [LinearOrder V] [LinearOrder C] (problem : Problem V L C)

/-- Pending paths are ordered by price, then by their vertices. -/
def rank (candidate : List V × Nat) : C ×ₗ List V :=
  toLex (problem.price (problem.label candidate.1), candidate.1)

omit [DecidableEq V] [LinearOrder V] [LinearOrder C] in
theorem path_eq_of_rank_eq {first second : List V × Nat}
    (same : problem.rank first = problem.rank second) : first.1 = second.1 :=
  congrArg Prod.snd (toLex.injective same)

omit [DecidableEq V] in
theorem price_le_of_rank_le {first second : List V × Nat}
    (le : problem.rank first ≤ problem.rank second) :
    problem.price (problem.label first.1) ≤ problem.price (problem.label second.1) := by
  rcases Prod.Lex.toLex_le_toLex.mp le with less | ⟨same, _⟩
  · exact less.le
  · exact same.le

/-- Between two rounds: the accepted paths in order, the last of them, the
depth at which that one left its parent, and the pending paths with theirs. -/
structure State (problem : Problem V L C) where
  accepted : List (List V × L)
  last : List V × L
  depth : Nat
  pending : StdSet (List V × Nat) problem.rank

variable {problem}

def State.paths (state : State problem) : List (List V) :=
  state.accepted.map Prod.fst

variable (problem)

/-- Spur at one depth of the last path. -/
def spurAt (paths : List (List V)) (last : List V) (pending : StdSet (List V × Nat) problem.rank)
    (depth : Nat) : StdSet (List V × Nat) problem.rank :=
  match problem.spur (last.take depth) (banned paths (last.take depth)) with
  | none => pending
  | some path => pending.insert (path, depth)

/-- The pending paths once the last path is spurred from a depth on. -/
def spurs (state : State problem) (start : Nat) : StdSet (List V × Nat) problem.rank :=
  (List.range' start (state.last.1.length + 1 - start)).foldl
    (problem.spurAt state.paths state.last.1) state.pending

/-- One round.  `start` says from which depth to spur, given the depth at which
the last path left its parent. -/
def round (start : Nat -> Nat) (state : State problem) : Option (State problem) :=
  match (problem.spurs state (start state.depth)).popBegin with
  | none => none
  | some ((path, depth), rest) =>
      some
        { accepted := state.accepted ++ [(path, problem.label path)]
          last := (path, problem.label path)
          depth := depth
          pending := rest }

/-- Rounds until none is left or no path is pending. -/
def rounds (start : Nat -> Nat) : Nat -> State problem -> State problem
  | 0, state => state
  | count + 1, state =>
      match problem.round start state with
      | none => state
      | some following => rounds start count following

/-- The state after the first path is accepted. -/
def initial (first : List V × L) : State problem :=
  ⟨[first], first, 0, .empty⟩

/-! ## The invariant -/

/-- The answer at a root, if there is one, is pending. -/
def Covered (paths : List (List V)) (pending : StdSet (List V × Nat) problem.rank) (root : List V) :
    Prop :=
  forall path, problem.spur root (banned paths root) = some path ->
    exists candidate, candidate ∈ pending ∧ candidate.1 = path

/-- What holds between two rounds.  Each root of an accepted path is covered,
except those at which the last path is still to be spurred. -/
structure Sound (state : State problem) : Prop where
  last_eq : state.accepted.getLast? = some state.last
  depth_le : state.depth ≤ state.last.1.length
  nodup : state.paths.Nodup
  fresh : forall candidate, candidate ∈ state.pending -> candidate.1 ∉ state.paths
  parent : forall candidate, candidate ∈ state.pending -> candidate.2 ≤ candidate.1.length ∧
    exists path, path ∈ state.paths ∧ candidate.1.take candidate.2 = path.take candidate.2
  covered : forall root, (exists path, path ∈ state.paths ∧ root <+: path) ->
    problem.Covered state.paths state.pending root ∨
      (state.depth ≤ root.length ∧ root <+: state.last.1)

theorem sound_initial (first : List V × L) : Sound problem (problem.initial first) where
  last_eq := rfl
  depth_le := Nat.zero_le _
  nodup := List.nodup_singleton _
  fresh candidate member := absurd member (StdSet.not_mem_empty candidate)
  parent candidate member := absurd member (StdSet.not_mem_empty candidate)
  covered := by
    rintro root ⟨path, member, shares⟩
    rw [List.mem_singleton.mp member] at shares
    exact Or.inr ⟨Nat.zero_le _, shares⟩

variable {problem}

theorem Sound.last_path {state : State problem} (sound : Sound problem state) :
    state.last.1 ∈ state.paths :=
  List.mem_map_of_mem (List.mem_of_getLast? sound.last_eq)

/-! ## One spur -/

/-- A spur adds nothing, or its answer with the depth. -/
theorem mem_of_mem_spurAt {paths : List (List V)} {last : List V}
    {pending : StdSet (List V × Nat) problem.rank} {depth : Nat} {candidate : List V × Nat}
    (member : candidate ∈ problem.spurAt paths last pending depth) :
    candidate ∈ pending ∨
      (candidate.2 = depth ∧
        problem.spur (last.take depth) (banned paths (last.take depth)) = some candidate.1) := by
  unfold spurAt at member
  cases answer : problem.spur (last.take depth) (banned paths (last.take depth)) with
  | none =>
      rw [answer] at member
      exact Or.inl member
  | some path =>
      rw [answer] at member
      rcases StdSet.mem_of_mem_insert member with same | old
      · rw [same]
        exact Or.inr ⟨rfl, rfl⟩
      · exact Or.inl old

theorem mem_spurAt_of_mem {paths : List (List V)} {last : List V}
    {pending : StdSet (List V × Nat) problem.rank} {candidate : List V × Nat}
    (member : candidate ∈ pending) (depth : Nat) :
    candidate ∈ problem.spurAt paths last pending depth := by
  unfold spurAt
  split
  · exact member
  · exact StdSet.mem_insert_of_mem _ member

variable (problem) in
theorem covered_spurAt (paths : List (List V)) (last : List V)
    (pending : StdSet (List V × Nat) problem.rank) (depth : Nat) :
    problem.Covered paths (problem.spurAt paths last pending depth) (last.take depth) := by
  intro path answer
  unfold spurAt
  rw [answer]
  rcases StdSet.exists_key_insert (path, depth) pending with ⟨candidate, member, same⟩
  exact ⟨candidate, member, problem.path_eq_of_rank_eq same⟩

/-- Spurring at a covered root changes nothing. -/
theorem spurAt_of_covered {paths : List (List V)} {last : List V}
    {pending : StdSet (List V × Nat) problem.rank} {depth : Nat}
    (covered : problem.Covered paths pending (last.take depth)) :
    problem.spurAt paths last pending depth = pending := by
  unfold spurAt
  cases answer : problem.spur (last.take depth) (banned paths (last.take depth)) with
  | none => rfl
  | some path =>
      rcases covered path answer with ⟨candidate, member, same⟩
      refine StdSet.insert_of_key_mem ⟨candidate, member, ?_⟩
      simp only [rank, same]

/-! ## The spurs of one round -/

theorem mem_foldl_spurAt_of_mem {paths : List (List V)} {last : List V}
    {pending : StdSet (List V × Nat) problem.rank} {candidate : List V × Nat}
    (member : candidate ∈ pending) (depths : List Nat) :
    candidate ∈ depths.foldl (problem.spurAt paths last) pending :=
  List.foldlRecOn depths (problem.spurAt paths last)
    (motive := fun current => candidate ∈ current) member
    (fun _ member depth _ => mem_spurAt_of_mem member depth)

variable (problem) in
theorem covered_foldl_spurAt (paths : List (List V)) (last : List V) {depths : List Nat}
    (pending : StdSet (List V × Nat) problem.rank) {depth : Nat} (member : depth ∈ depths) :
    problem.Covered paths (depths.foldl (problem.spurAt paths last) pending) (last.take depth) := by
  induction depths generalizing pending with
  | nil => cases member
  | cons first rest inductionHypothesis =>
      rcases List.mem_cons.mp member with same | later
      · subst same
        intro path answer
        rcases problem.covered_spurAt paths last pending depth path answer with ⟨candidate, pendingNow, same⟩
        exact ⟨candidate, mem_foldl_spurAt_of_mem pendingNow rest, same⟩
      · exact inductionHypothesis (problem.spurAt paths last pending first) later

/-- A pending path was pending before the round or answers one of its spurs. -/
theorem mem_of_mem_spurs {state : State problem} {start : Nat} {candidate : List V × Nat}
    (member : candidate ∈ problem.spurs state start) :
    candidate ∈ state.pending ∨
      (start ≤ candidate.2 ∧ candidate.2 ≤ state.last.1.length ∧
        problem.spur (state.last.1.take candidate.2)
          (banned state.paths (state.last.1.take candidate.2)) = some candidate.1) := by
  have each := List.foldlRecOn (List.range' start (state.last.1.length + 1 - start))
    (problem.spurAt state.paths state.last.1) (b := state.pending)
    (motive := fun current => forall candidate, candidate ∈ current -> candidate ∈ state.pending ∨
      (start ≤ candidate.2 ∧ candidate.2 ≤ state.last.1.length ∧
        problem.spur (state.last.1.take candidate.2)
          (banned state.paths (state.last.1.take candidate.2)) = some candidate.1))
    (fun _ pending => Or.inl pending) (by
      intro current holds depth inRange candidate pending
      rcases mem_of_mem_spurAt pending with old | ⟨same, answer⟩
      · exact holds candidate old
      · rw [List.mem_range'_1] at inRange
        subst same
        exact Or.inr ⟨inRange.1, by omega, answer⟩)
  exact each candidate member

theorem mem_spurs_of_mem {state : State problem} (start : Nat) {candidate : List V × Nat}
    (member : candidate ∈ state.pending) : candidate ∈ problem.spurs state start :=
  mem_foldl_spurAt_of_mem member _

theorem covered_spurs {state : State problem} (start : Nat) {root : List V}
    (shares : root <+: state.last.1) (deep : start ≤ root.length) :
    problem.Covered state.paths (problem.spurs state start) root := by
  have bound := shares.length_le
  have inRange : root.length ∈ List.range' start (state.last.1.length + 1 - start) := by
    rw [List.mem_range'_1]
    omega
  have covered := problem.covered_foldl_spurAt state.paths state.last.1 state.pending inRange
  rw [← List.prefix_iff_eq_take.mp shares] at covered
  exact covered

/-- Spurring earlier than where the last path left its parent changes nothing. -/
theorem Sound.spurs_start {state : State problem} (sound : Sound problem state) {start : Nat}
    (early : start ≤ state.depth) :
    problem.spurs state start = problem.spurs state state.depth := by
  have depthBound := sound.depth_le
  have split : List.range' start (state.last.1.length + 1 - start) =
      List.range' start (state.depth - start) ++
        List.range' state.depth (state.last.1.length + 1 - state.depth) := by
    have joined := List.range'_append_1 (s := start) (m := state.depth - start)
      (n := state.last.1.length + 1 - state.depth)
    rw [Nat.add_sub_cancel' early] at joined
    rw [joined]
    congr 1
    omega
  have idle : (List.range' start (state.depth - start)).foldl
      (problem.spurAt state.paths state.last.1) state.pending = state.pending := by
    refine List.foldlRecOn (List.range' start (state.depth - start)) _
      (motive := fun current => current = state.pending) rfl ?_
    intro current same depth inRange
    rw [List.mem_range'_1] at inRange
    have short : depth < state.depth := by omega
    have shares := List.take_prefix depth state.last.1
    have length : (state.last.1.take depth).length = depth :=
      List.length_take_of_le (by omega)
    rw [same]
    rcases sound.covered _ ⟨state.last.1, sound.last_path, shares⟩ with covered | ⟨deep, _⟩
    · exact spurAt_of_covered covered
    · omega
  unfold spurs
  rw [split, List.foldl_append, idle]

/-! ## One round -/

/-- Once the last path is spurred every root of an accepted path is covered. -/
theorem Sound.covered_spurs {state : State problem} (sound : Sound problem state) {root path : List V}
    (member : path ∈ state.paths) (shares : root <+: path) :
    problem.Covered state.paths (problem.spurs state state.depth) root := by
  rcases sound.covered root ⟨path, member, shares⟩ with covered | ⟨deep, ofLast⟩
  · intro answer found
    rcases covered answer found with ⟨candidate, pending, same⟩
    exact ⟨candidate, mem_spurs_of_mem state.depth pending, same⟩
  · exact Problem.covered_spurs _ ofLast deep

/-- No spurred path is accepted already. -/
theorem Sound.fresh_spurs {state : State problem} (sound : Sound problem state) {start : Nat}
    {candidate : List V × Nat} (member : candidate ∈ problem.spurs state start) :
    candidate.1 ∉ state.paths := by
  rcases mem_of_mem_spurs member with old | ⟨_, _, answer⟩
  · exact sound.fresh candidate old
  · intro accepted
    exact problem.next_of_spur answer ((mem_banned _ _ _).mpr
      ⟨candidate.1, accepted, problem.prefix_of_spur answer, rfl⟩)

/-- Every spurred path follows an accepted one up to its depth. -/
theorem Sound.parent_spurs {state : State problem} (sound : Sound problem state) {start : Nat}
    {candidate : List V × Nat} (member : candidate ∈ problem.spurs state start) :
    candidate.2 ≤ candidate.1.length ∧
      exists path, path ∈ state.paths ∧ candidate.1.take candidate.2 = path.take candidate.2 := by
  rcases mem_of_mem_spurs member with old | ⟨_, bound, answer⟩
  · exact sound.parent candidate old
  · have shares := problem.prefix_of_spur answer
    have length : (state.last.1.take candidate.2).length = candidate.2 := List.length_take_of_le bound
    have long := shares.length_le
    rw [length] at long
    have equal := List.prefix_iff_eq_take.mp shares
    rw [length] at equal
    exact ⟨long, state.last.1, sound.last_path, equal.symm⟩

variable (problem) in
/-- What one round does, when it accepts a path. -/
theorem round_eq_some {start : Nat -> Nat} {state following : State problem}
    (step : problem.round start state = some following) :
    exists path depth, (problem.spurs state (start state.depth)).popBegin =
        some ((path, depth), following.pending) ∧
      following.accepted = state.accepted ++ [(path, problem.label path)] ∧
      following.last = (path, problem.label path) ∧ following.depth = depth := by
  unfold round at step
  cases popped : (problem.spurs state (start state.depth)).popBegin with
  | none =>
      rw [popped] at step
      cases step
  | some result =>
      rcases result with ⟨⟨path, depth⟩, rest⟩
      rw [popped] at step
      cases step
      exact ⟨path, depth, rfl, rfl, rfl, rfl⟩

/-- A round that spurs from where the last path left its parent keeps the
invariant. -/
theorem Sound.round {state following : State problem} (sound : Sound problem state)
    (step : problem.round id state = some following) : Sound problem following := by
  rcases round_eq_some problem step with ⟨path, depth, popped, accepted, last, depthEq⟩
  have members := StdSet.mem_of_popBegin popped
  have spurred : (path, depth) ∈ problem.spurs state state.depth := (members _).mpr (Or.inl rfl)
  have pathFresh := sound.fresh_spurs spurred
  rcases sound.parent_spurs spurred with ⟨depthBound, parent, parentMember, agree⟩
  have paths : following.paths = state.paths ++ [path] := by
    rw [State.paths, accepted, List.map_append]
    rfl
  -- The accepted path leaves the pending set, so no pending path equals it.
  have others : forall candidate, candidate ∈ following.pending -> candidate.1 ≠ path := by
    intro candidate pending same
    have less := StdSet.key_lt_of_popBegin popped pending
    have equal : problem.rank candidate = problem.rank (path, depth) := by
      simp only [rank, same]
    exact absurd equal less.ne'
  constructor
  · rw [last, accepted, List.getLast?_concat]
  · rw [last, depthEq]
    exact depthBound
  · rw [paths]
    refine List.nodup_append.mpr ⟨sound.nodup, List.nodup_singleton _, ?_⟩
    intro first member second single same
    rw [same, List.mem_singleton.mp single] at member
    exact pathFresh member
  · intro candidate pending
    rw [paths, List.mem_append, not_or]
    exact ⟨sound.fresh_spurs ((members candidate).mpr (Or.inr pending)), fun single =>
      others candidate pending (List.mem_singleton.mp single)⟩
  · intro candidate pending
    rcases sound.parent_spurs ((members candidate).mpr (Or.inr pending)) with
      ⟨bound, source, member, same⟩
    refine ⟨bound, source, ?_, same⟩
    rw [paths]
    exact List.mem_append_left _ member
  · rintro root ⟨source, member, shares⟩
    rw [paths] at member ⊢
    rw [last, depthEq]
    -- A root outside the new path keeps its bans; one inside it, and shorter
    -- than its depth, is a root of the parent, which took the same step.
    have keeps : forall old, old ∈ state.paths -> root <+: old ->
        (forall step, step ∈ banned (state.paths ++ [path]) root ↔ step ∈ banned state.paths root) ->
        (forall answer, problem.spur root (banned state.paths root) = some answer -> answer ≠ path) ->
        problem.Covered (state.paths ++ [path]) following.pending root := by
      intro old oldMember oldShares sameBans differs answer found
      rw [problem.spur_congr root sameBans] at found
      rcases sound.covered_spurs oldMember oldShares answer found with ⟨candidate, pending, same⟩
      rcases (members candidate).mp pending with isHead | rest
      · rw [isHead] at same
        exact absurd same.symm (differs answer found)
      · exact ⟨candidate, rest, same⟩
    by_cases inPath : root <+: path
    · by_cases deep : depth ≤ root.length
      · exact Or.inr ⟨deep, inPath⟩
      · have short : root.length < depth := Nat.lt_of_not_le deep
        have parentShares := prefix_of_take_eq agree short.le inPath
        have already : next root path ∈ banned state.paths root :=
          (mem_banned _ _ _).mpr
            ⟨parent, parentMember, parentShares, (next_eq_of_take_eq agree short).symm⟩
        refine Or.inl (keeps parent parentMember parentShares
          (mem_banned_append_of_mem state.paths already) fun answer found same => ?_)
        rw [same] at found
        exact problem.next_of_spur found already
    · have oldMember : source ∈ state.paths := by
        rcases List.mem_append.mp member with old | new
        · exact old
        · rw [List.mem_singleton.mp new] at shares
          exact absurd shares inPath
      refine Or.inl (keeps source oldMember shares
        (mem_banned_append_of_apart state.paths inPath) fun answer found same => ?_)
      rw [same] at found
      exact inPath (problem.prefix_of_spur found)

/-! ## Where spurring starts is irrelevant -/

/-- A round may spur from any depth up to the one where the last path left its
parent. -/
theorem Sound.round_start {state : State problem} (sound : Sound problem state) {start : Nat -> Nat}
    (early : forall depth, start depth ≤ depth) :
    problem.round start state = problem.round id state := by
  unfold Problem.round
  rw [sound.spurs_start (early state.depth)]
  rfl

/-- An invariant kept by every round of a sound state holds after any number. -/
theorem rounds_induction (Inv : State problem -> Prop) (count : Nat) {state : State problem}
    (sound : Sound problem state) (start : Inv state)
    (step : forall current following, Sound problem current -> Inv current ->
      problem.round id current = some following -> Inv following) :
    Sound problem (problem.rounds id count state) ∧ Inv (problem.rounds id count state) := by
  induction count generalizing state with
  | zero => exact ⟨sound, start⟩
  | succ count inductionHypothesis =>
      unfold rounds
      cases taken : problem.round id state with
      | none => exact ⟨sound, start⟩
      | some following =>
          exact inductionHypothesis (sound.round taken) (step state following sound start taken)

theorem rounds_succ {count : Nat} {state following : State problem}
    (step : problem.round id state = some following) :
    problem.rounds id (count + 1) state = problem.rounds id count following := by
  rw [rounds, step]

theorem rounds_stopped {state : State problem} (stopped : problem.round id state = none)
    (count : Nat) : problem.rounds id count state = state := by
  cases count with
  | zero => rfl
  | succ count => rw [rounds, stopped]

/-- A run stops only when no spur has an answer and nothing is pending. -/
theorem not_mem_spurs_of_stopped {state : State problem} (stopped : problem.round id state = none)
    (candidate : List V × Nat) : candidate ∉ problem.spurs state state.depth := by
  unfold Problem.round at stopped
  cases popped : (problem.spurs state (id state.depth)).popBegin with
  | none => exact StdSet.popBegin_eq_none popped candidate
  | some result =>
      rw [popped] at stopped
      cases stopped

/-! ## Exact spur searches -/

section Exact

variable (problem) (Feasible : List V -> Prop)

/-- A spur search that answers with the cheapest feasible continuation.  It is
asked only at roots of feasible paths, with steps feasible paths take. -/
structure Exact : Prop where
  feasible : forall {root taken path source}, Feasible source -> root <+: source ->
    problem.spur root taken = some path -> Feasible path
  least : forall {root taken source other}, Feasible source -> root <+: source ->
    (forall step, step ∈ taken -> exists path, Feasible path ∧ next root path = step) ->
    Feasible other -> root <+: other -> next root other ∉ taken ->
    exists path, problem.spur root taken = some path ∧
      problem.price (problem.label path) ≤ problem.price (problem.label other)

/-- The accepted paths are feasible, in ascending order, and no dearer than any
feasible path left. -/
structure Cheapest (state : State problem) : Prop where
  feasible : forall path, path ∈ state.paths -> Feasible path
  ascending : state.accepted.Pairwise fun first second =>
    problem.price first.2 ≤ problem.price second.2
  least : forall entry, entry ∈ state.accepted -> forall path, Feasible path -> path ∉ state.paths ->
    problem.price entry.2 ≤ problem.price (problem.label path)

variable {problem Feasible}

omit [LinearOrder V] in
/-- Every feasible path that is not accepted continues some root of an accepted
path by a step no accepted path takes there. -/
theorem exists_open_root {paths : List (List V)} {path source : List V} (fresh : path ∉ paths)
    (member : source ∈ paths) :
    exists root owner, owner ∈ paths ∧ root <+: owner ∧ root <+: path ∧
      next root path ∉ banned paths root := by
  -- Induction on how much of the path a shared root leaves uncovered.
  have search : forall rest root, root ++ rest = path ->
      (exists owner, owner ∈ paths ∧ root <+: owner) ->
      exists root owner, owner ∈ paths ∧ root <+: owner ∧ root <+: path ∧
        next root path ∉ banned paths root := by
    intro rest
    induction rest with
    | nil =>
        rintro root whole ⟨owner, ownerMember, shares⟩
        rw [List.append_nil] at whole
        refine ⟨root, owner, ownerMember, shares, by rw [whole], ?_⟩
        rw [mem_banned]
        rintro ⟨other, otherMember, ⟨tail, split⟩, taken⟩
        have ends : next root path = none := by
          rw [next, whole]
          exact List.getElem?_eq_none (Nat.le_refl _)
        rw [ends, next, ← split, List.getElem?_append_right (Nat.le_refl _), Nat.sub_self] at taken
        have noTail : tail = [] := by
          cases tail with
          | nil => rfl
          | cons _ _ => cases taken
        rw [noTail, List.append_nil, whole] at split
        exact fresh (split ▸ otherMember)
    | cons step rest inductionHypothesis =>
        rintro root whole ⟨owner, ownerMember, shares⟩
        have stepEq : next root path = some step := by
          rw [next, ← whole, List.getElem?_append_right (Nat.le_refl _), Nat.sub_self]
          rfl
        by_cases already : next root path ∈ banned paths root
        · rcases (mem_banned _ _ _).mp already with ⟨other, otherMember, ⟨tail, split⟩, taken⟩
          rw [stepEq, next, ← split, List.getElem?_append_right (Nat.le_refl _), Nat.sub_self] at taken
          cases tail with
          | nil => cases taken
          | cons first tail =>
              cases taken
              refine inductionHypothesis (root ++ [step]) (by rw [← whole, List.append_assoc]; rfl)
                ⟨other, otherMember, tail, ?_⟩
              rw [← split, List.append_assoc]
              rfl
        · exact ⟨root, owner, ownerMember, shares, ⟨step :: rest, whole⟩, already⟩
  exact search path [] rfl ⟨source, member, List.nil_prefix⟩

/-- With an exact spur search some pending path is as cheap as any feasible path
not accepted yet. -/
theorem Sound.exists_pending (exact : Exact problem Feasible) {state : State problem}
    (sound : Sound problem state) (feasible : forall path, path ∈ state.paths -> Feasible path)
    {path : List V} (isFeasible : Feasible path) (fresh : path ∉ state.paths) :
    exists candidate, candidate ∈ problem.spurs state state.depth ∧
      problem.price (problem.label candidate.1) ≤ problem.price (problem.label path) := by
  rcases exists_open_root fresh sound.last_path with
    ⟨root, owner, ownerMember, ownerShares, shares, isOpen⟩
  have taken : forall step, step ∈ banned state.paths root ->
      exists path, Feasible path ∧ next root path = step := by
    intro step member
    rcases (mem_banned _ _ _).mp member with ⟨other, otherMember, _, same⟩
    exact ⟨other, feasible other otherMember, same⟩
  rcases exact.least (feasible owner ownerMember) ownerShares taken isFeasible shares isOpen with
    ⟨answer, found, cheap⟩
  rcases sound.covered_spurs ownerMember ownerShares answer found with ⟨candidate, pending, same⟩
  exact ⟨candidate, pending, same ▸ cheap⟩

theorem Sound.feasible_spurs (exact : Exact problem Feasible) {state : State problem}
    (sound : Sound problem state) (feasible : forall path, path ∈ state.paths -> Feasible path)
    (pendingFeasible : forall candidate, candidate ∈ state.pending -> Feasible candidate.1)
    {candidate : List V × Nat} (member : candidate ∈ problem.spurs state state.depth) :
    Feasible candidate.1 := by
  rcases mem_of_mem_spurs member with old | ⟨_, _, answer⟩
  · exact pendingFeasible candidate old
  · exact exact.feasible (feasible _ sound.last_path) (List.take_prefix _ _) answer

theorem Cheapest.round (exact : Exact problem Feasible) {state following : State problem}
    (sound : Sound problem state) (cheapest : Cheapest problem Feasible state)
    (pendingFeasible : forall candidate, candidate ∈ state.pending -> Feasible candidate.1)
    (step : problem.round id state = some following) :
    Cheapest problem Feasible following ∧
      forall candidate, candidate ∈ following.pending -> Feasible candidate.1 := by
  rcases round_eq_some problem step with ⟨path, depth, popped, accepted, _, _⟩
  have members := StdSet.mem_of_popBegin popped
  have spurred : (path, depth) ∈ problem.spurs state state.depth := (members _).mpr (Or.inl rfl)
  have pathFeasible := sound.feasible_spurs exact cheapest.feasible pendingFeasible spurred
  have pathFresh := sound.fresh_spurs spurred
  have paths : following.paths = state.paths ++ [path] := by
    rw [State.paths, accepted, List.map_append]
    rfl
  refine ⟨⟨?_, ?_, ?_⟩, fun candidate pending => sound.feasible_spurs exact cheapest.feasible
    pendingFeasible ((members candidate).mpr (Or.inr pending))⟩
  · intro other member
    rw [paths] at member
    rcases List.mem_append.mp member with old | new
    · exact cheapest.feasible other old
    · rw [List.mem_singleton.mp new]
      exact pathFeasible
  · rw [accepted]
    refine List.pairwise_append.mpr ⟨cheapest.ascending, List.pairwise_singleton _ _, ?_⟩
    intro entry member single isSingle
    rw [List.mem_singleton.mp isSingle]
    exact cheapest.least entry member path pathFeasible pathFresh
  · intro entry member other otherFeasible otherFresh
    rw [paths, List.mem_append, not_or] at otherFresh
    rw [accepted] at member
    rcases List.mem_append.mp member with old | new
    · exact cheapest.least entry old other otherFeasible otherFresh.1
    · rw [List.mem_singleton.mp new]
      rcases sound.exists_pending exact cheapest.feasible otherFeasible otherFresh.1 with
        ⟨candidate, pending, cheap⟩
      exact (problem.price_le_of_rank_le (StdSet.key_le_of_popBegin popped pending)).trans cheap

/-- A run has accepted a path in each round, or every feasible path. -/
theorem length_rounds (exact : Exact problem Feasible) (count : Nat) {state : State problem}
    (sound : Sound problem state) (cheapest : Cheapest problem Feasible state)
    (pendingFeasible : forall candidate, candidate ∈ state.pending -> Feasible candidate.1) :
    (problem.rounds id count state).accepted.length ≤ state.accepted.length + count ∧
      ((problem.rounds id count state).accepted.length = state.accepted.length + count ∨
        forall path, Feasible path -> path ∈ (problem.rounds id count state).paths) := by
  induction count generalizing state with
  | zero => exact ⟨Nat.le_refl _, Or.inl rfl⟩
  | succ count inductionHypothesis =>
      cases step : problem.round id state with
      | none =>
          rw [rounds_stopped step]
          refine ⟨Nat.le_add_right _ _, Or.inr fun path isFeasible => ?_⟩
          by_contra fresh
          rcases sound.exists_pending exact cheapest.feasible isFeasible fresh with
            ⟨candidate, pending, _⟩
          exact not_mem_spurs_of_stopped step candidate pending
      | some following =>
          rcases cheapest.round exact sound pendingFeasible step with ⟨cheapest', pendingFeasible'⟩
          have rest := inductionHypothesis (sound.round step) cheapest' pendingFeasible'
          rcases round_eq_some problem step with ⟨_, _, _, accepted, _, _⟩
          rw [accepted, List.length_append, List.length_singleton] at rest
          rw [rounds_succ step]
          rw [Nat.add_assoc, Nat.add_comm 1 count] at rest
          exact rest

omit [DecidableEq V] in
theorem cheapest_initial {first : List V × L} (firstFeasible : Feasible first.1)
    (firstLeast : forall path, Feasible path -> problem.price first.2 ≤ problem.price (problem.label path)) :
    Cheapest problem Feasible (problem.initial first) := by
  refine ⟨?_, List.pairwise_singleton _ _, ?_⟩
  · intro path member
    rw [List.mem_singleton.mp member]
    exact firstFeasible
  · intro entry member path isFeasible _
    rw [List.mem_singleton.mp member]
    exact firstLeast path isFeasible

/-- With an exact spur search a run from a cheapest path accepts cheapest paths
only. -/
theorem rounds_cheapest (exact : Exact problem Feasible) {first : List V × L}
    (cheapest : Cheapest problem Feasible (problem.initial first)) (count : Nat) :
    Cheapest problem Feasible (problem.rounds id count (problem.initial first)) := by
  have run := rounds_induction
    (fun state => Cheapest problem Feasible state ∧
      forall candidate, candidate ∈ state.pending -> Feasible candidate.1)
    count (sound_initial problem first)
    ⟨cheapest, fun candidate member => absurd member (StdSet.not_mem_empty candidate)⟩
    (fun _ _ sound holds step => holds.1.round exact sound holds.2 step)
  exact run.2.1

/-- With an exact spur search and a cheapest first path, a run accepts the
cheapest feasible paths, as many as it has rounds for. -/
theorem rounds_exact (exact : Exact problem Feasible) (finite : {path | Feasible path}.Finite)
    {first : List V × L} (cheapest : Cheapest problem Feasible (problem.initial first)) (count : Nat) :
    Cheapest problem Feasible (problem.rounds id count (problem.initial first)) ∧
      (problem.rounds id count (problem.initial first)).paths.Nodup ∧
      (problem.rounds id count (problem.initial first)).accepted.length =
        min (count + 1) {path | Feasible path}.ncard := by
  have cheapestFinal := rounds_cheapest exact cheapest count
  have sound := (rounds_induction (fun _ => True) count (sound_initial problem first) trivial
    fun _ _ _ _ _ => trivial).1
  have lengths := length_rounds exact count (sound_initial problem first) cheapest
    fun candidate member => absurd member (StdSet.not_mem_empty candidate)
  generalize problem.rounds id count (problem.initial first) = final at *
  refine ⟨cheapestFinal, sound.nodup, ?_⟩
  have card : {path | path ∈ final.paths}.ncard = final.accepted.length := by
    have distinct := List.toFinset_card_of_nodup sound.nodup
    rw [State.paths, List.length_map] at distinct
    rw [← distinct, ← Set.ncard_coe_finset]
    congr 1
    ext path
    simp only [State.paths, Set.mem_ofPred_eq, Finset.mem_coe, List.mem_toFinset]
  have included : {path | path ∈ final.paths} ⊆ {path | Feasible path} := cheapestFinal.feasible
  have atMost := Set.ncard_le_ncard included finite
  have initialLength : (problem.initial first).accepted.length = 1 := rfl
  rcases lengths with ⟨upper, reached | all⟩
  · omega
  · have equal : {path | path ∈ final.paths} = {path | Feasible path} :=
      Set.Subset.antisymm included all
    rw [equal] at card
    omega

end Exact

end Problem
end Deviation
end BravoFinder
