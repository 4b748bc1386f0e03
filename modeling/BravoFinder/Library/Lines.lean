import Mathlib.Data.List.Basic

namespace BravoFinder

/-!
# Lines and the first blank line

Lists are split at a pair of separators, and joined by it.  Lines that do not
contain the first separator are split apart again, and when none of them is
empty the first doubled separator is the one that ends them.
-/

variable {A : Type}

/-- Lines joined by a separator. -/
def joinLines (separator : List A) : List (List A) -> List A
  | [] => []
  | [line] => line
  | line :: next :: rest => line ++ separator ++ joinLines separator (next :: rest)

theorem joinLines_cons_cons (separator line next : List A) (rest : List (List A)) :
    joinLines separator (line :: next :: rest) = line ++ separator ++ joinLines separator (next :: rest) := rfl

theorem joinLines_cons (separator line : List A) (rest : List (List A)) :
    joinLines separator (line :: rest) = line ++ rest.flatMap fun next => separator ++ next := by
  induction rest generalizing line with
  | nil => rw [List.flatMap_nil, List.append_nil, joinLines]
  | cons next more inductionHypothesis =>
      rw [joinLines_cons_cons, inductionHypothesis, List.flatMap_cons, List.append_assoc, List.append_assoc]

variable [DecidableEq A]

/-- Where a pattern first occurs. -/
def findSub (pattern : List A) : List A -> Option Nat
  | [] => if pattern = [] then some 0 else none
  | first :: rest =>
      if pattern.isPrefixOf (first :: rest) then some 0 else (findSub pattern rest).map (· + 1)

/-- Split at every occurrence of the pair. -/
def splitLines (cr lf : A) : List A -> List (List A)
  | [] => [[]]
  | [last] => [[last]]
  | first :: second :: rest =>
      if first = cr ∧ second = lf then [] :: splitLines cr lf rest
      else match splitLines cr lf (second :: rest) with
        | [] => [[first]]
        | line :: lines => (first :: line) :: lines

theorem splitLines_line {cr lf : A} {line : List A} (clean : cr ∉ line) : splitLines cr lf line = [line] := by
  induction line with
  | nil => rfl
  | cons first rest inductionHypothesis =>
      cases rest with
      | nil => rfl
      | cons second more =>
          have different : first ≠ cr := fun same => clean (same ▸ List.mem_cons_self)
          have after := inductionHypothesis fun member => clean (List.mem_cons_of_mem _ member)
          rw [splitLines, if_neg fun both => different both.1, after]

theorem splitLines_append {cr lf : A} {line : List A} (clean : cr ∉ line) (rest : List A) :
    splitLines cr lf (line ++ [cr, lf] ++ rest) = line :: splitLines cr lf rest := by
  induction line with
  | nil => rw [List.nil_append, List.cons_append, List.cons_append, splitLines, if_pos ⟨rfl, rfl⟩,
      List.nil_append]
  | cons first others inductionHypothesis =>
      have different : first ≠ cr := fun same => clean (same ▸ List.mem_cons_self)
      have after := inductionHypothesis fun member => clean (List.mem_cons_of_mem _ member)
      cases others with
      | nil =>
          simp only [List.nil_append, List.cons_append] at after ⊢
          rw [splitLines, if_neg fun both => different both.1, after]
      | cons second more =>
          simp only [List.cons_append] at after ⊢
          rw [splitLines, if_neg fun both => different both.1, after]

/-- Clean lines are split apart again. -/
theorem splitLines_joinLines {cr lf : A} {lines : List (List A)} (nonempty : lines ≠ [])
    (clean : forall line, line ∈ lines -> cr ∉ line) :
    splitLines cr lf (joinLines [cr, lf] lines) = lines := by
  induction lines with
  | nil => exact absurd rfl nonempty
  | cons line rest inductionHypothesis =>
      have lineClean := clean line List.mem_cons_self
      cases rest with
      | nil => exact splitLines_line lineClean
      | cons next more =>
          rw [joinLines_cons_cons, splitLines_append lineClean,
            inductionHypothesis (List.cons_ne_nil _ _) fun other member =>
              clean other (List.mem_cons_of_mem _ member)]

/-- A pattern is not found where its first element is missing. -/
theorem findSub_append {cr : A} {pattern line : List A} (clean : cr ∉ line) (rest : List A) :
    findSub (cr :: pattern) (line ++ rest) = (findSub (cr :: pattern) rest).map (· + line.length) := by
  induction line with
  | nil =>
      rw [List.nil_append, List.length_nil]
      cases findSub (cr :: pattern) rest <;> rfl
  | cons first others inductionHypothesis =>
      have different : cr ≠ first := fun same => clean (same ▸ List.mem_cons_self)
      have after := inductionHypothesis fun member => clean (List.mem_cons_of_mem _ member)
      have notHere : (cr :: pattern).isPrefixOf (first :: (others ++ rest)) = false := by
        rw [List.isPrefixOf_cons_cons, beq_false_of_ne different, Bool.false_and]
      rw [List.cons_append, findSub, notHere, if_neg Bool.false_ne_true, after, List.length_cons,
        Option.map_map]
      rfl

theorem findSub_of_prefix {pattern text : List A} (starts : pattern <+: text) : findSub pattern text = some 0 := by
  cases text with
  | nil =>
      rw [List.prefix_nil.mp starts]
      rfl
  | cons first rest => rw [findSub, if_pos (List.isPrefixOf_iff_prefix.mpr starts)]

/-- The first doubled separator ends the lines. -/
theorem findSub_joinLines {cr lf : A} (different : cr ≠ lf) {lines : List (List A)} (nonempty : lines ≠ [])
    (clean : forall line, line ∈ lines -> cr ∉ line) (filled : forall line, line ∈ lines -> line ≠ [])
    (rest : List A) :
    findSub [cr, lf, cr, lf] (joinLines [cr, lf] lines ++ [cr, lf, cr, lf] ++ rest) =
      some (joinLines [cr, lf] lines).length := by
  induction lines with
  | nil => exact absurd rfl nonempty
  | cons line others inductionHypothesis =>
      have lineClean := clean line List.mem_cons_self
      cases others with
      | nil =>
          rw [joinLines, List.append_assoc, findSub_append lineClean,
            findSub_of_prefix (List.prefix_append _ _), Option.map_some, Nat.zero_add]
      | cons next more =>
          have after := inductionHypothesis (List.cons_ne_nil _ _)
            (fun other member => clean other (List.mem_cons_of_mem _ member))
            fun other member => filled other (List.mem_cons_of_mem _ member)
          have nextFilled := filled next (List.mem_cons_of_mem _ List.mem_cons_self)
          have nextClean := clean next (List.mem_cons_of_mem _ List.mem_cons_self)
          -- The line after the separator starts with something else.
          rcases List.exists_cons_of_ne_nil nextFilled with ⟨first, nextRest, rfl⟩
          have firstDifferent : cr ≠ first := fun same => nextClean (same ▸ List.mem_cons_self)
          have starts : exists tail, joinLines [cr, lf] ((first :: nextRest) :: more) = first :: tail := by
            cases more with
            | nil => exact ⟨nextRest, rfl⟩
            | cons other others => exact ⟨_, rfl⟩
          rcases starts with ⟨tail, joined⟩
          rw [joinLines_cons_cons, List.append_assoc, List.append_assoc, List.append_assoc,
            findSub_append lineClean]
          rw [joined] at after ⊢
          have notHere : [cr, lf, cr, lf].isPrefixOf (cr :: lf :: first :: (tail ++ [cr, lf, cr, lf] ++ rest)) =
              false := by
            rw [List.isPrefixOf_cons_cons, List.isPrefixOf_cons_cons, List.isPrefixOf_cons_cons,
              beq_false_of_ne firstDifferent, Bool.false_and, Bool.and_false, Bool.and_false]
          have notNext : [cr, lf, cr, lf].isPrefixOf (lf :: first :: (tail ++ [cr, lf, cr, lf] ++ rest)) =
              false := by
            rw [List.isPrefixOf_cons_cons, beq_false_of_ne different, Bool.false_and]
          simp only [List.cons_append, List.nil_append, List.append_assoc] at notHere notNext after ⊢
          rw [findSub, notHere, if_neg Bool.false_ne_true, findSub, notNext, if_neg Bool.false_ne_true, after]
          simp only [Option.map_some, List.length_append, List.length_cons, Option.some.injEq]
          omega

end BravoFinder
