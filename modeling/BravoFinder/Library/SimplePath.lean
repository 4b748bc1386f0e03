import Mathlib.Data.List.Chain
import Mathlib.Data.List.Nodup
import Mathlib.Logic.Relation

namespace BravoFinder

/-!
# Paths that repeat nothing

Where one place leads to another, it does so along a path that repeats no
place.  A place that nothing leads to can only stand first on a path, and a
place that leads nowhere only last.
-/

variable {A : Type} {step : A -> A -> Prop}

/-- The rest of a path from one of its places on. -/
theorem isChain_from {before after : List A} {place : A} (chain : (before ++ place :: after).IsChain step) :
    (place :: after).IsChain step :=
  (List.isChain_append.mp chain).2.1

/-- A walk can be shortened until it repeats nothing. -/
theorem exists_nodup_chain {first last : A} (leads : Relation.ReflTransGen step first last) :
    exists rest, (first :: rest).Nodup ∧ (first :: rest).IsChain step ∧ (first :: rest).getLast? = some last := by
  induction leads using Relation.ReflTransGen.head_induction_on with
  | refl => exact ⟨[], List.nodup_singleton _, List.isChain_singleton _, rfl⟩
  | @head first second leads _ inductionHypothesis =>
      rcases inductionHypothesis with ⟨rest, nodup, chain, ends⟩
      by_cases member : first ∈ second :: rest
      · -- The walk comes back to where it started: it may start there again.
        rcases List.append_of_mem member with ⟨before, after, split⟩
        rw [split] at nodup chain ends
        refine ⟨after, (List.nodup_append.mp nodup).2.1, isChain_from chain, ?_⟩
        rw [List.getLast?_append_of_ne_nil _ (List.cons_ne_nil _ _)] at ends
        exact ends
      · exact ⟨second :: rest, List.nodup_cons.mpr ⟨member, nodup⟩, List.isChain_cons_cons.mpr ⟨leads, chain⟩,
          List.getLast?_cons_cons.trans ends⟩

/-- The first place of a path leads to the last. -/
theorem leads_of_chain {first last : A} {rest : List A} (chain : (first :: rest).IsChain step)
    (ends : (first :: rest).getLast? = some last) : Relation.ReflTransGen step first last :=
  List.relationReflTransGen_of_exists_isChain_cons rest chain
    (Option.some.inj ((List.getLast?_eq_some_getLast (List.cons_ne_nil first rest)).symm.trans ends))

/-- A place that nothing leads to stands first. -/
theorem head?_of_unentered {path : List A} (chain : path.IsChain step) {place : A} (member : place ∈ path)
    (unentered : forall other, ¬ step other place) : path.head? = some place := by
  rcases List.append_of_mem member with ⟨before, after, split⟩
  rcases List.eq_nil_or_concat' before with rfl | ⟨front, previous, rfl⟩
  · rw [split]
    rfl
  · rw [split, List.append_assoc] at chain
    exact absurd (List.isChain_cons_cons.mp (isChain_from chain)).1 (unentered previous)

/-- A place that leads nowhere stands last. -/
theorem getLast?_of_unleft {path : List A} (chain : path.IsChain step) {place : A} (member : place ∈ path)
    (unleft : forall other, ¬ step place other) : path.getLast? = some place := by
  rcases List.append_of_mem member with ⟨before, after, split⟩
  rcases after with _ | ⟨next, later⟩
  · rw [split, List.getLast?_concat]
  · rw [split] at chain
    exact absurd (List.isChain_cons_cons.mp (isChain_from chain)).1 (unleft next)

end BravoFinder
