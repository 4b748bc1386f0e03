import BravoFinder.Library.SortedIndex
import Mathlib.Data.List.Induction

namespace BravoFinder

/-!
# Scans that flush when a key changes

Rows are taken in while they have one key.  When the key changes, and at the end,
what was taken in is put out under the key, if there is anything.  When the rows
are sorted by key, each key is put out once, with all its rows, in order.
-/

/-- How rows are taken in, and what a flush puts out. -/
structure FlushScan (Row K S B : Type) where
  key : Row -> K
  start : S
  take : S -> Row -> S
  emit : S -> Option B
  emit_start : emit start = none

namespace FlushScan

variable {Row K S B : Type} (scan : FlushScan Row K S B)

/-- The key whose rows are being taken in, what they made so far, and the output. -/
structure State (K S B : Type) where
  current : K
  taken : S
  out : List (K × B)

def flush (state : State K S B) : List (K × B) :=
  state.out ++ (scan.emit state.taken).toList.map fun made => (state.current, made)

variable [DecidableEq K]

def step (state : State K S B) (row : Row) : State K S B :=
  if scan.key row = state.current then { state with taken := scan.take state.taken row }
  else ⟨scan.key row, scan.take scan.start row, scan.flush state⟩

/-- The scan; `first` is the key before any row. -/
def run (first : K) (rows : List Row) : List (K × B) :=
  scan.flush (rows.foldl scan.step ⟨first, scan.start, []⟩)

/-- What the rows of a key make. -/
def made (key : K) (rows : List Row) : S :=
  (rows.filter fun row => scan.key row = key).foldl scan.take scan.start

variable {scan}

theorem made_append_of_eq {key : K} {row : Row} (here : scan.key row = key) (rows : List Row) :
    scan.made key (rows ++ [row]) = scan.take (scan.made key rows) row := by
  rw [made, List.filter_append, List.filter_singleton, decide_eq_true here, List.foldl_append]
  rfl

theorem made_append_of_ne {key : K} {row : Row} (other : scan.key row ≠ key) (rows : List Row) :
    scan.made key (rows ++ [row]) = scan.made key rows := by
  rw [made, List.filter_append, List.filter_singleton, decide_eq_false other, cond_false, List.append_nil]
  rfl

/-- Something is put out only for a key of some row. -/
theorem exists_of_emit_made {key : K} {rows : List Row} {value : B}
    (emitted : scan.emit (scan.made key rows) = some value) : exists row, row ∈ rows ∧ scan.key row = key := by
  by_contra absent
  have empty : (rows.filter fun row => scan.key row = key) = [] :=
    List.filter_eq_nil_iff.mpr fun row member same => absent ⟨row, member, of_decide_eq_true same⟩
  rw [made, empty, List.foldl_nil, scan.emit_start] at emitted
  exact Option.noConfusion rfl (heq_of_eq emitted)

theorem made_eq_start {key : K} {rows : List Row} (absent : forall row, row ∈ rows -> scan.key row ≠ key) :
    scan.made key rows = scan.start := by
  rw [made, List.filter_eq_nil_iff.mpr fun row member same => absent row member (of_decide_eq_true same)]
  rfl

variable {before : K -> K -> Prop}

variable (scan before) in
/-- The state after some rows: the keys that are done have all their rows. -/
structure Taken (rows : List Row) (state : State K S B) : Prop where
  taken : state.taken = scan.made state.current rows
  seen : rows ≠ [] -> exists row, row ∈ rows ∧ scan.key row = state.current
  last : forall row, row ∈ rows -> ¬ before state.current (scan.key row)
  out : forall key value, (key, value) ∈ state.out ↔ key ≠ state.current ∧ scan.emit (scan.made key rows) = some value
  sorted : (state.out.map Prod.fst).Pairwise before

section Order

variable [order : IsStrictTotalOrder K before]
include order

omit order in
/-- A flush puts out what every key has made. -/
theorem Taken.mem_flush {rows : List Row} {state : State K S B} (taken : Taken scan before rows state) (key : K)
    (value : B) : (key, value) ∈ scan.flush state ↔ scan.emit (scan.made key rows) = some value := by
  rw [flush, List.mem_append, taken.out, taken.taken]
  constructor
  · rintro (⟨_, emitted⟩ | current)
    · exact emitted
    · rcases List.mem_map.mp current with ⟨made, listed, same⟩
      cases same
      exact Option.mem_toList.mp listed
  · intro emitted
    by_cases here : key = state.current
    · subst here
      exact Or.inr (List.mem_map.mpr ⟨value, Option.mem_toList.mpr emitted, rfl⟩)
    · exact Or.inl ⟨here, emitted⟩

theorem Taken.sorted_flush {rows : List Row} {state : State K S B} (taken : Taken scan before rows state) :
    ((scan.flush state).map Prod.fst).Pairwise before := by
  rw [flush, List.map_append, List.pairwise_append]
  refine ⟨taken.sorted, ?_, fun key member last isLast => ?_⟩
  · cases scan.emit state.taken
    · exact List.Pairwise.nil
    · exact List.pairwise_singleton _ _
  · rcases List.mem_map.mp member with ⟨entry, listed, rfl⟩
    rcases (taken.out entry.1 entry.2).mp listed with ⟨other, emitted⟩
    rcases exists_of_emit_made emitted with ⟨row, inRows, hasKey⟩
    rw [List.map_map, List.mem_map] at isLast
    rcases isLast with ⟨_, _, rfl⟩
    by_contra notBefore
    exact other (SortedIndex.eq_of_not_before notBefore (hasKey ▸ taken.last row inRows))

/-- One row. -/
theorem Taken.step {rows : List Row} {state : State K S B} {row : Row} (taken : Taken scan before rows state)
    (above : forall earlier, earlier ∈ rows -> ¬ before (scan.key row) (scan.key earlier)) :
    Taken scan before (rows ++ [row]) (scan.step state row) := by
  rw [FlushScan.step]
  split_ifs with here
  · refine ⟨?_, fun _ => ⟨row, List.mem_append_right _ List.mem_cons_self, here⟩, fun earlier member => ?_,
      fun key value => ?_, taken.sorted⟩
    · rw [made_append_of_eq here, ← taken.taken]
    · rcases List.mem_append.mp member with inRows | isRow
      · exact taken.last earlier inRows
      · rw [List.mem_singleton.mp isRow, here]
        exact SortedIndex.irrefl _
    · rw [taken.out]
      refine and_congr_right fun other => ?_
      rw [made_append_of_ne (fun same => other (same.symm.trans here))]
  · -- The new key is above all that have come: none of its rows has been seen.
    have unseen : forall earlier, earlier ∈ rows -> scan.key earlier ≠ scan.key row := by
      intro earlier member same
      rcases taken.seen (List.ne_nil_of_mem member) with ⟨current, inRows, isCurrent⟩
      have notBelow := above current inRows
      rw [isCurrent] at notBelow
      exact here (SortedIndex.eq_of_not_before notBelow (same ▸ taken.last earlier member))
    refine ⟨?_, fun _ => ⟨row, List.mem_append_right _ List.mem_cons_self, rfl⟩, fun earlier member => ?_,
      fun key value => ?_, taken.sorted_flush⟩
    · rw [made_append_of_eq rfl, made_eq_start unseen]
    · rcases List.mem_append.mp member with inRows | isRow
      · exact above earlier inRows
      · rw [List.mem_singleton.mp isRow]
        exact SortedIndex.irrefl _
    · rw [taken.mem_flush]
      by_cases isNew : key = scan.key row
      · rw [isNew, made_eq_start unseen, scan.emit_start]
        exact iff_of_false (by simp) fun both => both.1 rfl
      · rw [made_append_of_ne (Ne.symm isNew), and_iff_right isNew]

/-- All rows. -/
theorem taken_foldl {first : K} {rows : List Row}
    (sorted : SortedIndex.Sorted scan.key before rows) :
    Taken scan before rows (rows.foldl scan.step ⟨first, scan.start, []⟩) := by
  induction rows using List.reverseRecOn with
  | nil => exact ⟨rfl, fun filled => absurd rfl filled, fun row member => absurd member List.not_mem_nil,
      fun key value => iff_of_false List.not_mem_nil (by
        rintro ⟨_, emitted⟩
        rcases exists_of_emit_made emitted with ⟨row, member, _⟩
        exact List.not_mem_nil member), List.Pairwise.nil⟩
  | append_singleton rows row inductionHypothesis =>
      rcases List.pairwise_append.mp sorted with ⟨sortedRows, _, above⟩
      rw [List.foldl_append]
      exact (inductionHypothesis sortedRows).step fun earlier member => above earlier member row List.mem_cons_self

/-- What is put out for sorted rows. -/
theorem mem_run {first : K} {rows : List Row} (sorted : SortedIndex.Sorted scan.key before rows) (key : K) (value : B) :
    (key, value) ∈ scan.run first rows ↔ scan.emit (scan.made key rows) = some value :=
  (taken_foldl sorted).mem_flush key value

theorem pairwise_run {first : K} {rows : List Row} (sorted : SortedIndex.Sorted scan.key before rows) :
    ((scan.run first rows).map Prod.fst).Pairwise before :=
  (taken_foldl sorted).sorted_flush

end Order

end FlushScan
end BravoFinder
