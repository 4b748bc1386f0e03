import Mathlib.Data.List.Basic

namespace BravoFinder

/-!
# Greedy splits

A list is cut into consecutive blocks, each of a kind that every non-empty part
of a block is of again.  Taking the longest block each time gives a split with
the fewest blocks: wherever another split cuts, its next cut is not ahead of
the greedy one.
-/

variable {A : Type}

/-- A kind of block that cutting elements off either end preserves. -/
structure CutClosed (Block : List A -> Prop) : Prop where
  front : forall {block rest}, block ≠ [] -> Block (block ++ rest) -> Block block
  back : forall {block rest}, rest ≠ [] -> Block (block ++ rest) -> Block rest

/-- Every block takes all it can: it stops at the end of the list, or where one
more element does not fit. -/
inductive GreedySplit (Block : List A -> Prop) : List (List A) -> Prop
  | nil : GreedySplit Block []
  | cons {block : List A} {blocks : List (List A)} (nonempty : block ≠ [])
      (full : forall next rest, blocks.flatten = next :: rest -> ¬ Block (block ++ [next]))
      (later : GreedySplit Block blocks) : GreedySplit Block (block :: blocks)

namespace GreedySplit

variable {Block : List A -> Prop}

/-- A block that starts where a full one starts ends within it. -/
theorem length_le_of_full (closed : CutClosed Block) {block other rest otherRest : List A}
    (full : forall next later, rest = next :: later -> ¬ Block (block ++ [next]))
    (good : Block other) (same : other ++ otherRest = block ++ rest) : other.length ≤ block.length := by
  by_contra longer
  rcases List.append_eq_append_iff.mp same with ⟨extra, whole, _⟩ | ⟨extra, whole, after⟩
  · rw [whole, List.length_append] at longer
    omega
  · cases extra with
    | nil =>
        rw [whole, List.append_nil] at longer
        omega
    | cons next extra =>
        rw [List.cons_append] at after
        refine full next (extra ++ otherRest) after ?_
        rw [whole, List.append_cons] at good
        exact closed.front (List.append_ne_nil_of_right_ne_nil _ (List.cons_ne_nil _ _)) good

/-- No split into blocks, even of a list that starts earlier, has fewer. -/
theorem length_le (closed : CutClosed Block) {others : List (List A)} :
    forall {blocks : List (List A)} {before : List A}, GreedySplit Block blocks ->
      (forall other, other ∈ others -> Block other) ->
      others.flatten = before ++ blocks.flatten -> blocks.length ≤ others.length := by
  induction others with
  | nil =>
      intro blocks before greedy _ same
      cases greedy with
      | nil => exact Nat.le_refl _
      | cons nonempty _ _ =>
          have empty := (List.append_eq_nil_iff.mp same.symm).2
          rw [List.flatten_cons] at empty
          exact absurd (List.append_eq_nil_iff.mp empty).1 nonempty
  | cons other others inductionHypothesis =>
      intro blocks before greedy good same
      have goodLater : forall later, later ∈ others -> Block later :=
        fun later member => good later (List.mem_cons_of_mem _ member)
      rw [List.flatten_cons] at same
      rcases List.append_eq_append_iff.mp same with ⟨middle, _, after⟩ | ⟨taken, whole, after⟩
      · -- The other block ends before the first greedy one starts.
        exact Nat.le_trans (inductionHypothesis greedy goodLater after) (Nat.le_succ _)
      · cases greedy with
        | nil => exact Nat.zero_le _
        | @cons block blocks nonempty full later =>
            have within : taken.length ≤ block.length := by
              by_cases empty : taken = []
              · rw [empty]
                exact Nat.zero_le _
              · have goodOther := good other List.mem_cons_self
                rw [whole] at goodOther
                rw [List.flatten_cons] at after
                exact length_le_of_full closed full (closed.back empty goodOther) after.symm
            -- So the later blocks of the other split still cover the later greedy ones.
            rw [List.flatten_cons] at after
            rcases List.append_eq_append_iff.mp after with ⟨extra, longer, between⟩ | ⟨extra, front, between⟩
            · have none : extra = [] := by
                rw [longer, List.length_append] at within
                exact List.eq_nil_of_length_eq_zero (by omega)
              rw [none, List.nil_append] at between
              have covered : others.flatten = [] ++ blocks.flatten := between.symm
              exact Nat.succ_le_succ (inductionHypothesis later goodLater covered)
            · exact Nat.succ_le_succ (inductionHypothesis later goodLater between)

end GreedySplit
end BravoFinder
