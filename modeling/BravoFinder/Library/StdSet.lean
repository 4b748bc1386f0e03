import Mathlib.Order.Lattice
import Mathlib.Data.List.Basic

namespace BravoFinder

/-!
# Ordered sets, as the standard library documents them

`std::set` keeps its elements in the order of a comparison and refuses an
element equivalent to one it holds.  Here the comparison is that of a key, so
two elements are equivalent when their keys are equal.  The order of the
elements is a field, so every set is one that insertions can reach.
-/

/-- A set ordered by `key`. -/
structure StdSet (A : Type) {K : Type} [LinearOrder K] (key : A -> K) where
  elems : List A
  ordered : elems.Pairwise (fun first second => key first < key second)

namespace StdSet

variable {A K : Type} [LinearOrder K] {key : A -> K}

@[ext] theorem ext {first second : StdSet A key} (same : first.elems = second.elems) :
    first = second := by
  cases first
  cases second
  cases same
  rfl

def empty : StdSet A key := ⟨[], .nil⟩

instance : Membership A (StdSet A key) := ⟨fun set value => value ∈ set.elems⟩

@[simp] theorem not_mem_empty (value : A) : value ∉ (empty : StdSet A key) := List.not_mem_nil

/-- Insert in order; an equivalent element stays. -/
def insertElems (key : A -> K) (value : A) : List A -> List A
  | [] => [value]
  | head :: rest =>
      if key value < key head then value :: head :: rest
      else if key head < key value then head :: insertElems key value rest
      else head :: rest

theorem mem_of_mem_insertElems {value other : A} {elems : List A}
    (member : other ∈ insertElems key value elems) : other = value ∨ other ∈ elems := by
  induction elems with
  | nil => exact Or.inl (List.mem_singleton.mp member)
  | cons head rest inductionHypothesis =>
      unfold insertElems at member
      split at member
      · exact List.mem_cons.mp member
      split at member
      · rcases List.mem_cons.mp member with same | later
        · exact Or.inr (List.mem_cons.mpr (Or.inl same))
        · exact (inductionHypothesis later).imp_right (List.mem_cons_of_mem head)
      · exact Or.inr member

theorem mem_insertElems_of_mem {value other : A} {elems : List A} (member : other ∈ elems) :
    other ∈ insertElems key value elems := by
  induction elems with
  | nil => cases member
  | cons head rest inductionHypothesis =>
      unfold insertElems
      split
      · exact List.mem_cons_of_mem value member
      split
      · rcases List.mem_cons.mp member with same | later
        · exact List.mem_cons.mpr (Or.inl same)
        · exact List.mem_cons_of_mem head (inductionHypothesis later)
      · exact member

/-- After an insertion the set holds the element or an equivalent one. -/
theorem exists_key_insertElems (value : A) (elems : List A) :
    exists other, other ∈ insertElems key value elems ∧ key other = key value := by
  induction elems with
  | nil => exact ⟨value, List.mem_singleton.mpr rfl, rfl⟩
  | cons head rest inductionHypothesis =>
      unfold insertElems
      split
      · exact ⟨value, List.mem_cons_self, rfl⟩
      · rename_i notBefore
        split
        · rcases inductionHypothesis with ⟨other, member, same⟩
          exact ⟨other, List.mem_cons_of_mem head member, same⟩
        · rename_i notAfter
          exact ⟨head, List.mem_cons_self,
            le_antisymm (le_of_not_gt notBefore) (le_of_not_gt notAfter)⟩

theorem ordered_insertElems {value : A} {elems : List A}
    (ordered : elems.Pairwise (fun first second => key first < key second)) :
    (insertElems key value elems).Pairwise (fun first second => key first < key second) := by
  induction elems with
  | nil => exact List.pairwise_singleton _ _
  | cons head rest inductionHypothesis =>
      rcases List.pairwise_cons.mp ordered with ⟨before, orderedRest⟩
      unfold insertElems
      split
      · rename_i first
        refine List.pairwise_cons.mpr ⟨fun other member => ?_, ordered⟩
        rcases List.mem_cons.mp member with same | later
        · rw [same]
          exact first
        · exact lt_trans first (before other later)
      split
      · rename_i _ after
        refine List.pairwise_cons.mpr ⟨fun other member => ?_, inductionHypothesis orderedRest⟩
        rcases mem_of_mem_insertElems member with same | later
        · rw [same]
          exact after
        · exact before other later
      · exact ordered

theorem insertElems_of_key_mem {value : A} {elems : List A}
    (ordered : elems.Pairwise (fun first second => key first < key second))
    (present : exists other, other ∈ elems ∧ key other = key value) :
    insertElems key value elems = elems := by
  induction elems with
  | nil =>
      rcases present with ⟨other, member, _⟩
      cases member
  | cons head rest inductionHypothesis =>
      rcases List.pairwise_cons.mp ordered with ⟨before, orderedRest⟩
      rcases present with ⟨other, member, same⟩
      unfold insertElems
      rcases List.mem_cons.mp member with isHead | later
      · rw [isHead] at same
        rw [if_neg (not_lt_of_ge same.le), if_neg (not_lt_of_ge same.ge)]
      · have after : key head < key value := same ▸ before other later
        rw [if_neg (not_lt_of_gt after), if_pos after,
          inductionHypothesis orderedRest ⟨other, later, same⟩]

/-- Insertion commutes with a map that keeps the keys. -/
theorem insertElems_map {B : Type} (key : A -> K) (keyB : B -> K) (f : A -> B) (value : A) {elems : List A}
    (keeps : forall other, other = value ∨ other ∈ elems -> keyB (f other) = key other) :
    insertElems keyB (f value) (elems.map f) = (insertElems key value elems).map f := by
  induction elems with
  | nil => rfl
  | cons head rest inductionHypothesis =>
      have later := inductionHypothesis fun other member =>
        keeps other (member.imp_right (List.mem_cons_of_mem head))
      simp only [List.map_cons, insertElems, keeps value (Or.inl rfl),
        keeps head (Or.inr List.mem_cons_self), later]
      split
      · rfl
      split <;> rfl

def insert (value : A) (set : StdSet A key) : StdSet A key :=
  ⟨insertElems key value set.elems, ordered_insertElems set.ordered⟩

theorem mem_of_mem_insert {value other : A} {set : StdSet A key} (member : other ∈ set.insert value) :
    other = value ∨ other ∈ set :=
  mem_of_mem_insertElems member

theorem mem_insert_of_mem {other : A} {set : StdSet A key} (value : A) (member : other ∈ set) :
    other ∈ set.insert value :=
  mem_insertElems_of_mem member

theorem exists_key_insert (value : A) (set : StdSet A key) :
    exists other, other ∈ set.insert value ∧ key other = key value :=
  exists_key_insertElems value set.elems

/-- An insertion of an equivalent element does nothing. -/
theorem insert_of_key_mem {value : A} {set : StdSet A key}
    (present : exists other, other ∈ set ∧ key other = key value) : set.insert value = set :=
  ext (insertElems_of_key_mem set.ordered present)

/-- `*begin()` with the set that `erase(begin())` leaves, or `none` when the
set is empty. -/
def popBegin (set : StdSet A key) : Option (A × StdSet A key) :=
  match set with
  | ⟨[], _⟩ => none
  | ⟨head :: rest, ordered⟩ => some (head, ⟨rest, (List.pairwise_cons.mp ordered).2⟩)

theorem popBegin_eq_none {set : StdSet A key} (none : set.popBegin = none) (value : A) :
    value ∉ set := by
  rcases set with ⟨_ | ⟨head, rest⟩, ordered⟩
  · exact List.not_mem_nil
  · cases none

theorem mem_of_popBegin {set rest : StdSet A key} {head : A}
    (popped : set.popBegin = some (head, rest)) (value : A) :
    value ∈ set ↔ value = head ∨ value ∈ rest := by
  rcases set with ⟨_ | ⟨first, others⟩, ordered⟩
  · cases popped
  · cases popped
    exact List.mem_cons

theorem key_lt_of_popBegin {set rest : StdSet A key} {head : A}
    (popped : set.popBegin = some (head, rest)) {value : A} (member : value ∈ rest) :
    key head < key value := by
  rcases set with ⟨_ | ⟨first, others⟩, ordered⟩
  · cases popped
  · cases popped
    exact (List.pairwise_cons.mp ordered).1 value member

/-- The element at `begin()` is least. -/
theorem key_le_of_popBegin {set rest : StdSet A key} {head : A}
    (popped : set.popBegin = some (head, rest)) {value : A} (member : value ∈ set) :
    key head ≤ key value := by
  rcases (mem_of_popBegin popped value).mp member with same | later
  · rw [same]
  · exact le_of_lt (key_lt_of_popBegin popped later)

end StdSet
end BravoFinder
