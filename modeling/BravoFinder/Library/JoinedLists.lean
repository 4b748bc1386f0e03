import Mathlib.Data.List.Basic

namespace BravoFinder

/-!
# Lists joined at shared ends

Lists that meet, each starting with the last element of the one before, are
joined by dropping the repeated elements.  When the result repeats nothing, the
meeting points determine the parts.
-/

variable {A : Type}

/-- The parts meet at the given seams, in order. -/
inductive Meeting : List A -> List (List A) -> Prop
  | single {part : List A} (nonempty : part ≠ []) : Meeting [] [part]
  | meet {seam : A} {seams : List A} {part following : List A} {rest : List (List A)}
      (ends : part.getLast? = some seam) (starts : following.head? = some seam)
      (later : Meeting seams (following :: rest)) : Meeting (seam :: seams) (part :: following :: rest)

/-- The parts as one list. -/
def joined : List (List A) -> List A
  | [] => []
  | part :: rest => part ++ rest.flatMap List.tail

theorem eq_dropLast_append {part : List A} {seam : A} (ends : part.getLast? = some seam) :
    part = part.dropLast ++ [seam] := by
  have nonempty : part ≠ [] := fun empty => by
    rw [empty] at ends
    cases ends
  rw [List.getLast?_eq_some_getLast nonempty, Option.some.injEq] at ends
  rw [← ends, List.dropLast_concat_getLast]

theorem joined_cons {seam : A} {part following : List A} (rest : List (List A))
    (ends : part.getLast? = some seam) (starts : following.head? = some seam) :
    joined (part :: following :: rest) = part.dropLast ++ joined (following :: rest) := by
  rcases List.head?_eq_some_iff.mp starts with ⟨tail, rfl⟩
  simp only [joined, List.flatMap_cons, List.tail_cons, List.cons_append]
  conv_lhs => rw [eq_dropLast_append ends]
  rw [List.append_assoc, List.singleton_append]

theorem head?_joined {part : List A} (nonempty : part ≠ []) (rest : List (List A)) :
    (joined (part :: rest)).head? = part.head? := by
  rw [joined, List.head?_append_of_ne_nil _ nonempty]

namespace Meeting

theorem part_ne_nil {seams : List A} {part : List A} {rest : List (List A)}
    (meeting : Meeting seams (part :: rest)) : part ≠ [] := by
  cases meeting with
  | single nonempty => exact nonempty
  | meet ends _ _ =>
      intro empty
      rw [empty] at ends
      cases ends

theorem getLast?_joined {seams : List A} {parts : List (List A)} (meeting : Meeting seams parts) :
    (joined parts).getLast? = parts.getLast?.bind List.getLast? := by
  induction meeting with
  | single _ => simp only [joined, List.flatMap_nil, List.append_nil, List.getLast?_singleton, Option.bind_some]
  | @meet seam seams part following rest ends starts later inductionHypothesis =>
      have nonempty : joined (following :: rest) ≠ [] := by
        intro empty
        have head := head?_joined later.part_ne_nil rest
        rw [empty, starts] at head
        cases head
      rw [joined_cons rest ends starts, List.getLast?_append_of_ne_nil _ nonempty, inductionHypothesis,
        List.getLast?_cons_cons]

/-- The joined list passes the seams in order. -/
theorem sublist_joined {seams : List A} {parts : List (List A)} (meeting : Meeting seams parts)
    (distinct : seams.Nodup) : seams.Sublist (joined parts) := by
  induction meeting with
  | single _ => exact List.nil_sublist _
  | @meet seam seams part following rest ends starts later inductionHypothesis =>
      rw [joined_cons rest ends starts]
      have inside := inductionHypothesis distinct.of_cons
      refine .trans ?_ (List.sublist_append_right _ _)
      have head := head?_joined later.part_ne_nil rest
      rw [starts] at head
      rcases List.head?_eq_some_iff.mp head with ⟨tail, whole⟩
      rw [whole] at inside ⊢
      -- The seam itself is not among the later ones, so they lie behind it.
      rcases List.sublist_cons_iff.mp inside with behind | ⟨others, same, _⟩
      · exact behind.cons_cons seam
      · rw [same] at distinct
        exact absurd List.mem_cons_self (List.nodup_cons.mp distinct).1

/-- Parts that join to one list without repetition are the same. -/
theorem joined_injective {seams : List A} {parts others : List (List A)} (meeting : Meeting seams parts)
    (otherMeeting : Meeting seams others) (distinct : (joined parts).Nodup)
    (same : joined parts = joined others) : parts = others := by
  induction meeting generalizing others with
  | single _ =>
      cases otherMeeting with
      | single _ =>
          simp only [joined, List.flatMap_nil, List.append_nil] at same
          rw [same]
  | @meet seam seams part following rest ends starts later inductionHypothesis =>
      cases otherMeeting with
      | @meet _ _ otherPart otherFollowing otherRest otherEnds otherStarts otherLater =>
          rw [joined_cons rest ends starts] at distinct same
          rw [joined_cons otherRest otherEnds otherStarts] at same
          have head := head?_joined later.part_ne_nil rest
          have otherHead := head?_joined otherLater.part_ne_nil otherRest
          rw [starts] at head
          rw [otherStarts] at otherHead
          rcases List.head?_eq_some_iff.mp head with ⟨tail, whole⟩
          rcases List.head?_eq_some_iff.mp otherHead with ⟨otherTail, otherWhole⟩
          have backs : part.dropLast = otherPart.dropLast ∧ tail = otherTail := by
            rw [whole] at distinct same
            rw [otherWhole] at same
            have once : seam ∉ part.dropLast ∧ seam ∉ tail :=
              ⟨fun member => (List.nodup_append.mp distinct).2.2 _ member _ List.mem_cons_self rfl,
                (List.nodup_cons.mp (List.nodup_append.mp distinct).2.1).1⟩
            rcases (List.append_cons_inj_of_notMem once.1 once.2).mp same with ⟨front, _, back⟩
            exact ⟨front, back⟩
          have laterSame := inductionHypothesis otherLater (List.nodup_append.mp distinct).2.1
            (by rw [whole, otherWhole, backs.2])
          rw [eq_dropLast_append ends, eq_dropLast_append otherEnds, backs.1, laterSame]

end Meeting
/-! ## Neighbours -/

/-- Each element with the one after it. -/
def neighbours (items : List A) : List (A × A) :=
  items.zip items.tail

/-- The neighbours of joined lists are those of the parts. -/
theorem neighbours_append (front : List A) (seam : A) (back : List A) :
    neighbours (front ++ seam :: back) = neighbours (front ++ [seam]) ++ neighbours (seam :: back) := by
  induction front with
  | nil => rfl
  | cons first rest inductionHypothesis =>
      cases rest with
      | nil => rfl
      | cons second rest => exact congrArg ((first, second) :: ·) inductionHypothesis

theorem getElem?_neighbours {items : List A} {i : Nat} {pair : A × A} (listed : (neighbours items)[i]? = some pair) :
    items[i]? = some pair.1 ∧ items[i + 1]? = some pair.2 := by
  rw [neighbours, List.getElem?_zip_eq_some, List.getElem?_tail] at listed
  exact listed

theorem length_neighbours {items : List A} (nonempty : items ≠ []) : (neighbours items).length + 1 = items.length := by
  rw [neighbours, List.length_zip, List.length_tail]
  have positive := List.length_pos_of_ne_nil nonempty
  omega

end BravoFinder
