import Mathlib.Data.List.Sort
import Mathlib.Data.Prod.Basic
import Mathlib.Order.Defs.Unbundled

namespace BravoFinder

/-!
# Lookup in a sorted index

An index is a vector of entries sorted by key, in which several entries may share
a key.  `lower_bound` finds where a key would be, and reading on while the key is
the same gives its entries, in the order of the index.
-/

namespace SortedIndex

variable {V K : Type} (key : V -> K) (before : K -> K -> Prop)

/-- No entry comes before an earlier one. -/
def Sorted (entries : List V) : Prop :=
  entries.Pairwise fun first second => ¬ before (key second) (key first)

variable [DecidableRel before]

/-- `sort` by key. -/
def sort (entries : List V) : List V :=
  entries.insertionSort fun first second => ¬ before (key second) (key first)

/-- A sort that need not be stable, such as `std::sort`. -/
structure AnySort where
  sort : List V -> List V
  perm : forall entries, List.Perm (sort entries) entries
  sorted : forall entries, Sorted key before (sort entries)

/-- The entries from `lower_bound` on. -/
def lowerBound (entries : List V) (wanted : K) : List V :=
  entries.dropWhile fun entry => decide (before (key entry) wanted)

variable {key before}

/-- Sorts by comparisons that agree on the entries are the same. -/
theorem sort_congr {L : Type} {other : V -> L} {otherBefore : L -> L -> Prop} [DecidableRel otherBefore]
    {entries : List V} (same : forall first, first ∈ entries -> forall second, second ∈ entries ->
      (before (key first) (key second) ↔ otherBefore (other first) (other second))) :
    sort key before entries = sort other otherBefore entries := by
  have mapped := List.map_insertionSort (fun first second : V => ¬ before (key second) (key first))
    (fun first second : V => ¬ otherBefore (other second) (other first)) id entries
    (fun first firstMember second secondMember => not_congr (same second secondMember first firstMember))
  rwa [List.map_id, List.map_id] at mapped

theorem perm_sort (entries : List V) : List.Perm (sort key before entries) entries :=
  List.perm_insertionSort _ entries

section Order

variable [order : IsStrictTotalOrder K before]
include order

section

omit [DecidableRel before]

theorem eq_of_not_before {first second : K} (forwards : ¬ before first second) (backwards : ¬ before second first) :
    first = second :=
  order.toTrichotomous.trichotomous first second forwards backwards

theorem irrefl (wanted : K) : ¬ before wanted wanted :=
  order.toIsStrictOrder.toIrrefl.irrefl wanted

/-- What comes before a key that is not above another comes before the other. -/
theorem before_of_before_of_not {first second third : K} (step : before first second) (le : ¬ before third second) :
    before first third := by
  by_contra away
  by_cases back : before third first
  · exact le (order.toIsStrictOrder.toIsTrans.trans _ _ _ back step)
  · exact le (eq_of_not_before away back ▸ step)

end

theorem sorted_sort (entries : List V) : Sorted key before (sort key before entries) := by
  have total : Std.Total fun first second : V => ¬ before (key second) (key first) :=
    ⟨fun first second => by
      by_contra both
      rw [not_or, not_not, not_not] at both
      exact irrefl _ (order.toIsStrictOrder.toIsTrans.trans _ _ _ both.1 both.2)⟩
  have trans : IsTrans V fun first second => ¬ before (key second) (key first) :=
    ⟨fun first second third le next back => le (by
      by_contra away
      exact next (before_of_before_of_not back away))⟩
  exact List.pairwise_insertionSort _ entries

/-- The stable sort. -/
def AnySort.stable : AnySort key before := ⟨SortedIndex.sort key before, perm_sort, sorted_sort⟩

omit [DecidableRel before] in
/-- Sorted lists of the same entries have the same keys in the same order. -/
theorem map_key_eq_of_perm {entries others : List V} (sorted : Sorted key before entries)
    (othersSorted : Sorted key before others) (same : List.Perm entries others) :
    entries.map key = others.map key := by
  have agree : forall first second, first ∈ entries.map key -> second ∈ others.map key ->
      ¬ before second first -> ¬ before first second -> first = second :=
    fun _ _ _ _ forwards backwards => eq_of_not_before backwards forwards
  exact List.Perm.eq_of_pairwise agree (List.pairwise_map.mpr sorted) (List.pairwise_map.mpr othersSorted)
    (same.map key)

/-- Inserting into a sorted list and leaving some entries out. -/
theorem filter_orderedInsert {entries : List V} (sorted : Sorted key before entries) (entry : V) (kept : V -> Bool) :
    (entries.orderedInsert (fun first second => ¬ before (key second) (key first)) entry).filter kept =
      if kept entry = true then
        (entries.filter kept).orderedInsert (fun first second => ¬ before (key second) (key first)) entry
      else entries.filter kept := by
  induction entries with
  | nil =>
      rw [List.orderedInsert_nil, List.filter_singleton]
      split_ifs with keeps <;> simp only [keeps] <;> rfl
  | cons first rest inductionHypothesis =>
      rcases List.pairwise_cons.mp sorted with ⟨above, sortedRest⟩
      rw [List.orderedInsert_cons]
      by_cases later : before (key first) (key entry)
      · rw [if_neg (not_not.mpr later), List.filter_cons, inductionHypothesis sortedRest]
        by_cases keeps : kept first = true
        · rw [if_pos keeps, List.filter_cons, if_pos keeps, List.orderedInsert_cons, if_neg (not_not.mpr later)]
          split_ifs <;> rfl
        · rw [if_neg keeps, List.filter_cons, if_neg keeps]
      · rw [if_pos later, List.filter_cons]
        split_ifs with keeps
        · -- Whatever is kept first is no earlier than the entry.
          rcases remaining : (first :: rest).filter kept with _ | ⟨second, others⟩
          · rfl
          · have member : second ∈ first :: rest := List.mem_of_mem_filter (remaining ▸ List.mem_cons_self)
            rw [List.orderedInsert_cons, if_pos]
            rcases List.mem_cons.mp member with rfl | inRest
            · exact later
            · exact fun earlier => above second inRest (before_of_before_of_not earlier later)
        · rfl

/-- A stable sort of some entries is what is left of them in the sorted list. -/
theorem filter_sort (entries : List V) (kept : V -> Bool) :
    (sort key before entries).filter kept = sort key before (entries.filter kept) := by
  induction entries with
  | nil => rfl
  | cons entry rest inductionHypothesis =>
      have inserted : sort key before (entry :: rest) = (sort key before rest).orderedInsert
          (fun first second => ¬ before (key second) (key first)) entry := rfl
      rw [inserted, filter_orderedInsert (sorted_sort rest), inductionHypothesis, List.filter_cons]
      split_ifs <;> rfl

omit order in
/-- Sorting by a strict comparison puts no element after one that it comes before. -/
theorem pairwise_insertionSort {strict : V -> V -> Prop} [DecidableRel strict] [IsTrans V strict] [Std.Irrefl strict]
    (entries : List V) : (entries.insertionSort strict).Pairwise fun first second => ¬ strict second first := by
  induction entries with
  | nil => exact List.Pairwise.nil
  | cons entry rest inductionHypothesis =>
      rw [List.insertionSort_cons]
      generalize rest.insertionSort strict = sorted at inductionHypothesis
      induction sorted with
      | nil => exact List.pairwise_singleton _ _
      | cons first others orderedHypothesis =>
          rcases List.pairwise_cons.mp inductionHypothesis with ⟨above, sortedOthers⟩
          rw [List.orderedInsert_cons]
          split_ifs with earlier
          · refine List.pairwise_cons.mpr ⟨fun other member step => ?_, inductionHypothesis⟩
            rcases List.mem_cons.mp member with rfl | later
            · exact Std.Irrefl.irrefl _ (IsTrans.trans _ _ _ earlier step)
            · exact above other later (IsTrans.trans _ _ _ step earlier)
          · refine List.pairwise_cons.mpr ⟨fun other member => ?_, orderedHypothesis sortedOthers⟩
            rcases List.mem_orderedInsert _ |>.mp member with rfl | later
            · exact earlier
            · exact above other later

variable [BEq K] [LawfulBEq K]

/-- Reading on from `lower_bound` while the key is the same gives the entries of
the key. -/
theorem takeWhile_lowerBound {entries : List V} (sorted : Sorted key before entries) (wanted : K) :
    (lowerBound key before entries wanted).takeWhile (fun entry => key entry == wanted) =
      entries.filter fun entry => key entry == wanted := by
  induction entries with
  | nil => rfl
  | cons first rest inductionHypothesis =>
      rcases List.pairwise_cons.mp sorted with ⟨above, sortedRest⟩
      have following := inductionHypothesis sortedRest
      rw [lowerBound, List.dropWhile_cons]
      by_cases earlier : before (key first) wanted
      · have other : ¬ (key first == wanted) = true := fun same => irrefl wanted (beq_iff_eq.mp same ▸ earlier)
        rw [if_pos (decide_eq_true earlier), List.filter_cons, if_neg other]
        exact following
      · rw [if_neg (by rw [decide_eq_true_eq]; exact earlier)]
        -- The rest starts no lower, so nothing of it is skipped.
        have unskipped : lowerBound key before rest wanted = rest := by
          rcases rest with _ | ⟨second, others⟩
          · rfl
          · rw [lowerBound, List.dropWhile_cons, if_neg]
            exact fun skipped => above second List.mem_cons_self
              (before_of_before_of_not (of_decide_eq_true skipped) earlier)
        by_cases same : key first == wanted
        · rw [List.takeWhile_cons, if_pos same, List.filter_cons, if_pos same, ← following, unskipped]
        · rw [List.takeWhile_cons, if_neg same, List.filter_cons, if_neg same, eq_comm, List.filter_eq_nil_iff]
          intro entry member isWanted
          refine above entry member ?_
          rw [beq_iff_eq.mp isWanted]
          by_contra away
          exact same (beq_iff_eq.mpr (eq_of_not_before earlier away))

/-- The entry at `lower_bound`, if it has the key, is the first of the key. -/
theorem head?_lowerBound {entries : List V} (sorted : Sorted key before entries) (wanted : K) :
    ((lowerBound key before entries wanted).head?.filter fun entry => key entry == wanted) =
      entries.find? fun entry => key entry == wanted := by
  rw [← List.head?_takeWhile, takeWhile_lowerBound sorted, List.head?_filter]

omit order in
/-- Sorting entries of distinct keys does not change what is found under a key. -/
theorem find?_sort {entries : List V} (distinct : (entries.map key).Nodup) (wanted : K) :
    (sort key before entries).find? (fun entry => key entry == wanted) =
      entries.find? fun entry => key entry == wanted := by
  have same := List.perm_insertionSort (fun first second : V => ¬ before (key second) (key first)) entries
  rcases original : entries.find? (fun entry => key entry == wanted) with _ | entry
  · rw [List.find?_eq_none] at original ⊢
    exact fun entry member => original entry (same.mem_iff.mp member)
  · have listed := List.mem_of_find?_eq_some original
    have hasKey := beq_iff_eq.mp (List.find?_some (p := fun entry => key entry == wanted) original)
    rcases sorted : (sort key before entries).find? (fun entry => key entry == wanted) with _ | other
    · exact absurd (beq_iff_eq.mpr hasKey) (List.find?_eq_none.mp sorted entry (same.mem_iff.mpr listed))
    · have otherKey := beq_iff_eq.mp (List.find?_some (p := fun entry => key entry == wanted) sorted)
      rw [List.inj_on_of_nodup_map distinct (same.mem_iff.mp (List.mem_of_find?_eq_some sorted)) listed
        (otherKey.trans hasKey.symm)]

end Order

/-- Byte strings in lexicographic order. -/
instance strictTotalOrder_bytes : IsStrictTotalOrder (List UInt8) (· < ·) where
  trichotomous _ _ forwards backwards := List.le_antisymm backwards forwards
  irrefl := List.lt_irrefl
  trans _ _ _ := List.lt_trans

/-- Pairs by the first, and then by the second. -/
instance strictTotalOrder_lex {K L : Type} {first : K -> K -> Prop} {second : L -> L -> Prop}
    [IsStrictTotalOrder K first] [IsStrictTotalOrder L second] :
    IsStrictTotalOrder (K × L) (Prod.Lex first second) where
  trichotomous := Std.Trichotomous.trichotomous
  irrefl := Std.Irrefl.irrefl
  trans := IsTrans.trans

end SortedIndex
end BravoFinder
