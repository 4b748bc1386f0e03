import BravoFinder.Library.Lines

namespace BravoFinder

/-!
# Streams cut into lines

A stream is a list of lines, each ended by a terminator, and a tail without one.
The stream determines both.
-/

section LineFraming

variable {A : Type} [DecidableEq A] {lf : A}

/-- The ended lines of a stream, and what comes after the last terminator. -/
def splitStream (lf : A) : List A -> List (List A) × List A
  | [] => ([], [])
  | first :: rest =>
      match splitStream lf rest with
      | ([], tail) => if first = lf then ([[]], tail) else ([], first :: tail)
      | (line :: more, tail) =>
          if first = lf then ([] :: line :: more, tail) else ((first :: line) :: more, tail)

/-- The stream of the lines, and nothing after the last. -/
def joinStream (lf : A) (lines : List (List A)) : List A :=
  lines.flatMap (· ++ [lf])

theorem splitStream_cons_lf (rest : List A) :
    splitStream lf (lf :: rest) = ([] :: (splitStream lf rest).1, (splitStream lf rest).2) := by
  rw [splitStream]
  rcases splitStream lf rest with ⟨_ | ⟨line, more⟩, tail⟩ <;> simp

theorem splitStream_of_not_mem {tail : List A} (clean : lf ∉ tail) : splitStream lf tail = ([], tail) := by
  induction tail with
  | nil => rfl
  | cons first rest inductionHypothesis =>
      rw [List.mem_cons, not_or] at clean
      rw [splitStream, inductionHypothesis clean.2]
      simp [Ne.symm clean.1]

/-- The first terminator ends the first line. -/
theorem splitStream_append {line : List A} (clean : lf ∉ line) (rest : List A) :
    splitStream lf (line ++ lf :: rest) = (line :: (splitStream lf rest).1, (splitStream lf rest).2) := by
  induction line with
  | nil => exact splitStream_cons_lf rest
  | cons first others inductionHypothesis =>
      rw [List.mem_cons, not_or] at clean
      rw [List.cons_append, splitStream, inductionHypothesis clean.2]
      simp [Ne.symm clean.1]

/-- Clean lines are cut apart again. -/
theorem splitStream_joinStream {lines : List (List A)} (clean : forall line, line ∈ lines -> lf ∉ line) :
    splitStream lf (joinStream lf lines) = (lines, []) := by
  induction lines with
  | nil => rfl
  | cons line rest inductionHypothesis =>
      have after := inductionHypothesis fun other member => clean other (List.mem_cons_of_mem _ member)
      have joined : joinStream lf (line :: rest) = line ++ lf :: joinStream lf rest := by simp [joinStream]
      rw [joined, splitStream_append (clean line List.mem_cons_self), after]

/-- A stream is a clean tail, or a clean line before a stream. -/
theorem stream_induction {P : List A -> Prop} (lf : A) (ofTail : forall tail, lf ∉ tail -> P tail)
    (ofLine : forall line rest, lf ∉ line -> P rest -> P (line ++ lf :: rest)) (stream : List A) : P stream := by
  induction length : stream.length using Nat.strongRecOn generalizing stream with
  | ind size inductionHypothesis =>
      by_cases clean : lf ∈ stream
      · rcases List.eq_append_cons_of_mem clean with ⟨line, rest, same, lineClean⟩
        rw [same]
        apply ofLine line rest lineClean
        apply inductionHypothesis rest.length _ rest rfl
        rw [← length, same, List.length_append, List.length_cons]
        omega
      · exact ofTail stream clean

/-- The lines and the tail of a stream are what it was joined of. -/
theorem joinLines_splitStream (stream : List A) :
    joinLines [lf] ((splitStream lf stream).1 ++ [(splitStream lf stream).2]) = stream := by
  induction stream using stream_induction lf with
  | ofTail tail clean =>
      rw [splitStream_of_not_mem clean]
      rfl
  | ofLine line rest clean inductionHypothesis =>
      rw [splitStream_append clean]
      simp only [List.cons_append]
      rcases split : (splitStream lf rest).1 ++ [(splitStream lf rest).2] with _ | ⟨next, more⟩
      · simp at split
      · rw [joinLines_cons_cons, ← split, inductionHypothesis, List.append_assoc, List.singleton_append]

/-- Neither a line nor the tail holds a terminator. -/
theorem not_mem_of_mem_splitStream (stream : List A) :
    forall line, line ∈ (splitStream lf stream).1 ++ [(splitStream lf stream).2] -> lf ∉ line := by
  induction stream using stream_induction lf with
  | ofTail tail clean =>
      rw [splitStream_of_not_mem clean]
      intro line member
      rw [List.mem_singleton.mp member]
      exact clean
  | ofLine line rest clean inductionHypothesis =>
      rw [splitStream_append clean]
      intro other member
      rcases List.mem_cons.mp member with rfl | later
      · exact clean
      · exact inductionHypothesis other later

end LineFraming

end BravoFinder
