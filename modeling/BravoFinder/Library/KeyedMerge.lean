import BravoFinder.Library.SortedIndex
import Mathlib.Data.List.MinMax
import Mathlib.Data.List.Nodup

namespace BravoFinder

/-!
# Collecting items under their keys

A list holds one element for each key.  An item is combined with the element
under its key, or becomes a new element at the end.  Collecting items this way
gives, for each key, the items of that key folded in the order they came.
-/

/-- How items of type `B` become elements of type `A`, and join them. -/
structure KeyedMerge (A B K : Type) where
  key : A -> K
  slot : B -> K
  fresh : B -> A
  combine : A -> B -> A
  key_fresh : forall item, key (fresh item) = slot item
  key_combine : forall element item, key (combine element item) = key element

namespace KeyedMerge

variable {A B K : Type} [DecidableEq K] (merge : KeyedMerge A B K)

def insert : List A -> B -> List A
  | [], item => [merge.fresh item]
  | element :: rest, item =>
      if merge.key element = merge.slot item then merge.combine element item :: rest
      else element :: insert rest item

def collect (items : List B) : List A :=
  items.foldl merge.insert []

/-- The items of one key, in the order they came. -/
def group (key : K) (items : List B) : List B :=
  items.filter fun item => merge.slot item = key

/-- The element some items of one key make. -/
def folded : List B -> Option A
  | [] => none
  | item :: rest => some (rest.foldl merge.combine (merge.fresh item))

theorem keys_insert (elements : List A) (item : B) :
    (merge.insert elements item).map merge.key =
      if merge.slot item ∈ elements.map merge.key then elements.map merge.key
      else elements.map merge.key ++ [merge.slot item] := by
  induction elements with
  | nil =>
      rw [insert, List.map_cons, merge.key_fresh]
      rfl
  | cons element rest inductionHypothesis =>
      rw [insert]
      by_cases here : merge.key element = merge.slot item
      · rw [if_pos here, List.map_cons, merge.key_combine, List.map_cons,
          if_pos (by rw [here]; exact List.mem_cons_self)]
      · rw [if_neg here, List.map_cons, inductionHypothesis, List.map_cons]
        have elsewhere : merge.slot item ∈ merge.key element :: rest.map merge.key ↔
            merge.slot item ∈ rest.map merge.key := by
          rw [List.mem_cons, or_iff_right (Ne.symm here)]
        by_cases listed : merge.slot item ∈ rest.map merge.key
        · rw [if_pos listed, if_pos (elsewhere.mpr listed)]
        · rw [if_neg listed, if_neg (mt elsewhere.mp listed), List.cons_append]

theorem nodup_keys_insert {elements : List A} (distinct : (elements.map merge.key).Nodup) (item : B) :
    ((merge.insert elements item).map merge.key).Nodup := by
  rw [keys_insert]
  split_ifs with listed
  · exact distinct
  · exact List.nodup_append.mpr ⟨distinct, List.nodup_singleton _, fun key member other isNew same =>
      listed (List.mem_singleton.mp isNew ▸ same ▸ member)⟩

/-- The element under a key. -/
def atKey (key : K) (elements : List A) : Option A :=
  elements.find? fun element => merge.key element = key

theorem atKey_cons_of_eq {key : K} {element : A} (here : merge.key element = key) (rest : List A) :
    merge.atKey key (element :: rest) = some element :=
  List.find?_cons_of_pos (decide_eq_true here)

theorem atKey_cons_of_ne {key : K} {element : A} (other : merge.key element ≠ key) (rest : List A) :
    merge.atKey key (element :: rest) = merge.atKey key rest :=
  List.find?_cons_of_neg (by rwa [decide_eq_true_iff])

/-- The element under a key, after an item has come. -/
theorem atKey_insert (elements : List A) (item : B) (key : K) :
    merge.atKey key (merge.insert elements item) =
      if merge.slot item = key then
        some (((merge.atKey key elements).map (merge.combine · item)).getD (merge.fresh item))
      else merge.atKey key elements := by
  induction elements with
  | nil =>
      rw [insert]
      split_ifs with wanted
      · rw [atKey_cons_of_eq _ ((merge.key_fresh item).trans wanted)]
        rfl
      · rw [atKey_cons_of_ne _ (fun same => wanted ((merge.key_fresh item).symm.trans same))]
  | cons element rest inductionHypothesis =>
      rw [insert]
      by_cases here : merge.key element = merge.slot item
      · have kept := merge.key_combine element item
        rw [if_pos here]
        by_cases wanted : merge.slot item = key
        · rw [if_pos wanted, atKey_cons_of_eq _ (kept.trans (here.trans wanted)),
            atKey_cons_of_eq _ (here.trans wanted)]
          rfl
        · rw [if_neg wanted, atKey_cons_of_ne _ (by rwa [kept, here]), atKey_cons_of_ne _ (by rwa [here])]
      · rw [if_neg here]
        by_cases first : merge.key element = key
        · rw [atKey_cons_of_eq _ first, atKey_cons_of_eq _ first, if_neg (fun wanted => here (first.trans wanted.symm))]
        · rw [atKey_cons_of_ne _ first, atKey_cons_of_ne _ first, inductionHypothesis]

omit [DecidableEq K] in
theorem folded_append (items : List B) (item : B) :
    merge.folded (items ++ [item]) =
      some (((merge.folded items).map (merge.combine · item)).getD (merge.fresh item)) := by
  cases items with
  | nil => rfl
  | cons first rest =>
      rw [List.cons_append, folded, folded, List.foldl_append]
      rfl

theorem collect_append (items : List B) (item : B) :
    merge.collect (items ++ [item]) = merge.insert (merge.collect items) item := by
  rw [collect, List.foldl_append]
  rfl

theorem atKey_collect (items : List B) (key : K) :
    merge.atKey key (merge.collect items) = merge.folded (merge.group key items) := by
  induction items using List.reverseRecOn with
  | nil => rfl
  | append_singleton items item inductionHypothesis =>
      rw [collect_append, atKey_insert, group, List.filter_append, List.filter_singleton, ← group]
      by_cases here : merge.slot item = key
      · rw [if_pos here, decide_eq_true here, cond_true, folded_append, inductionHypothesis]
      · rw [if_neg here, decide_eq_false here, cond_false, List.append_nil, inductionHypothesis]

theorem nodup_keys_collect (items : List B) : ((merge.collect items).map merge.key).Nodup := by
  induction items using List.reverseRecOn with
  | nil => exact List.nodup_nil
  | append_singleton items item inductionHypothesis =>
      rw [collect_append]
      exact merge.nodup_keys_insert inductionHypothesis item

theorem mem_keys_collect (items : List B) (key : K) :
    key ∈ (merge.collect items).map merge.key ↔ key ∈ items.map merge.slot := by
  induction items using List.reverseRecOn with
  | nil => rfl
  | append_singleton items item inductionHypothesis =>
      rw [collect_append, keys_insert, List.map_append, List.mem_append, ← inductionHypothesis, List.map_cons,
        List.map_nil, List.mem_singleton]
      split_ifs with listed
      · exact ⟨Or.inl, fun either => either.elim id fun same => same ▸ listed⟩
      · rw [List.mem_append, List.mem_singleton]

/-- Each element is the fold of the items of its key. -/
theorem folded_of_mem_collect {items : List B} {element : A} (member : element ∈ merge.collect items) :
    merge.folded (merge.group (merge.key element) items) = some element := by
  rw [← atKey_collect]
  have distinct := merge.nodup_keys_collect items
  revert member distinct
  induction merge.collect items with
  | nil => exact fun member => nomatch member
  | cons first rest inductionHypothesis =>
      intro member distinct
      rcases List.mem_cons.mp member with rfl | later
      · rw [atKey_cons_of_eq _ rfl]
      · rw [List.map_cons, List.nodup_cons] at distinct
        have other : merge.key first ≠ merge.key element := fun same =>
          distinct.1 (same ▸ List.mem_map_of_mem later)
        rw [atKey_cons_of_ne _ other]
        exact inductionHypothesis later distinct.2

/-- Items under distinct keys stay apart. -/
theorem collect_of_nodup {items : List B} (distinct : (items.map merge.slot).Nodup) :
    merge.collect items = items.map merge.fresh := by
  induction items using List.reverseRecOn with
  | nil => rfl
  | append_singleton items item inductionHypothesis =>
      rw [List.map_append, List.nodup_append] at distinct
      rw [collect_append, List.map_append, List.map_cons, List.map_nil, ← inductionHypothesis distinct.1]
      have absent : merge.slot item ∉ (merge.collect items).map merge.key := by
        rw [mem_keys_collect]
        exact fun member => distinct.2.2 _ member _ List.mem_cons_self rfl
      revert absent
      induction merge.collect items with
      | nil => exact fun _ => rfl
      | cons element rest tailHypothesis =>
          intro absent
          rw [List.map_cons, List.mem_cons, not_or] at absent
          rw [insert, if_neg (Ne.symm absent.1), tailHypothesis absent.2, List.cons_append]

/-! ## Joining the last element only -/

/-- An item joins the last element if that has its key. -/
def insertBack : List A -> B -> List A
  | [], item => [merge.fresh item]
  | [last], item =>
      if merge.key last = merge.slot item then [merge.combine last item] else [last, merge.fresh item]
  | element :: next :: rest, item => element :: insertBack (next :: rest) item

def collectBack (items : List B) : List A :=
  items.foldl merge.insertBack []

section Sorted

variable {before : K -> K -> Prop} [order : IsStrictTotalOrder K before]
include order

omit order in
/-- When no key is above that of the item, only the last element can have it. -/
theorem insertBack_eq_insert {elements : List A} {item : B} (sorted : (elements.map merge.key).Pairwise before)
    (above : forall element, element ∈ elements -> ¬ before (merge.slot item) (merge.key element)) :
    merge.insertBack elements item = merge.insert elements item := by
  fun_induction insertBack merge elements item with
  | case1 => rfl
  | case2 item last here => rw [insert, if_pos here]
  | case3 item last other =>
      rw [insert, if_neg other]
      rfl
  | case4 element next rest item inductionHypothesis =>
      rcases List.pairwise_cons.mp sorted with ⟨below, sortedRest⟩
      have other : merge.key element ≠ merge.slot item := fun here =>
        above next (List.mem_cons_of_mem _ List.mem_cons_self)
          (here ▸ below _ (List.mem_map_of_mem List.mem_cons_self))
      rw [inductionHypothesis sortedRest fun element member => above element (List.mem_cons_of_mem _ member)]
      exact (if_neg other).symm

/-- The keys of sorted items come in order. -/
theorem pairwise_keys_collect {items : List B}
    (sorted : items.Pairwise fun first second => ¬ before (merge.slot second) (merge.slot first)) :
    ((merge.collect items).map merge.key).Pairwise before := by
  induction items using List.reverseRecOn with
  | nil => exact List.Pairwise.nil
  | append_singleton items item inductionHypothesis =>
      rcases List.pairwise_append.mp sorted with ⟨sortedItems, _, above⟩
      rw [collect_append, keys_insert]
      split_ifs with listed
      · exact inductionHypothesis sortedItems
      · refine List.pairwise_append.mpr ⟨inductionHypothesis sortedItems, List.pairwise_singleton _ _, ?_⟩
        intro key member last isLast
        rw [List.mem_singleton.mp isLast]
        rcases List.mem_map.mp ((merge.mem_keys_collect items key).mp member) with ⟨earlier, inItems, rfl⟩
        by_contra notBefore
        have same := SortedIndex.eq_of_not_before notBefore (above earlier inItems item List.mem_cons_self)
        exact listed (same ▸ member)

/-- Sorted items need only be joined to the last element. -/
theorem collectBack_eq_collect {items : List B}
    (sorted : items.Pairwise fun first second => ¬ before (merge.slot second) (merge.slot first)) :
    merge.collectBack items = merge.collect items := by
  induction items using List.reverseRecOn with
  | nil => rfl
  | append_singleton items item inductionHypothesis =>
      rcases List.pairwise_append.mp sorted with ⟨sortedItems, _, above⟩
      have joined : merge.collectBack (items ++ [item]) = merge.insertBack (merge.collectBack items) item := by
        rw [collectBack, List.foldl_append]
        rfl
      rw [joined, collect_append, inductionHypothesis sortedItems]
      refine merge.insertBack_eq_insert (merge.pairwise_keys_collect sortedItems) fun element member => ?_
      rcases List.mem_map.mp ((merge.mem_keys_collect items _).mp (List.mem_map_of_mem member)) with
        ⟨earlier, inItems, same⟩
      rw [← same]
      exact above earlier inItems item List.mem_cons_self

end Sorted

/-! ## Vectors under keys -/

/-- `vectors[key].push_back(value)`. -/
def pushBack (K V : Type) : KeyedMerge (K × List V) (K × V) K where
  key := Prod.fst
  slot := Prod.fst
  fresh item := (item.1, [item.2])
  combine element item := (element.1, element.2 ++ [item.2])
  key_fresh _ := rfl
  key_combine _ _ := rfl

/-- What was pushed under a key, in order. -/
def pushedAt {V : Type} (key : K) (items : List (K × V)) : List V :=
  (items.filter fun item => item.1 = key).map Prod.snd

omit [DecidableEq K] in
theorem folded_pushBack {V : Type} (key : K) (items : List (K × V))
    (same : forall item, item ∈ items -> item.1 = key) :
    (pushBack K V).folded items = if items = [] then none else some (key, items.map Prod.snd) := by
  induction items using List.reverseRecOn with
  | nil => rfl
  | append_singleton items item inductionHypothesis =>
      rw [folded_append, inductionHypothesis fun other member => same other (List.mem_append_left _ member),
        if_neg (List.concat_ne_nil item items)]
      split_ifs with nothing
      · rw [nothing, ← same item (List.mem_append_right _ List.mem_cons_self)]
        rfl
      · rw [List.map_append]
        rfl

theorem atKey_pushBack {V : Type} (key : K) (items : List (K × V)) :
    (pushBack K V).atKey key ((pushBack K V).collect items) =
      if pushedAt key items = [] then none else some (key, pushedAt key items) := by
  rw [atKey_collect, folded_pushBack key]
  · simp only [pushedAt, List.map_eq_nil_iff]
    rfl
  · exact fun item member => of_decide_eq_true (List.mem_filter.mp member).2

/-- The vectors that were pushed to, with what was pushed. -/
theorem mem_collect_pushBack {V : Type} (entry : K × List V) (items : List (K × V)) :
    entry ∈ (pushBack K V).collect items ↔ entry.2 = pushedAt entry.1 items ∧ pushedAt entry.1 items ≠ [] := by
  constructor
  · intro member
    have whole := (pushBack K V).folded_of_mem_collect member
    have same : forall item, item ∈ (pushBack K V).group entry.1 items -> item.1 = entry.1 :=
      fun item inGroup => of_decide_eq_true (List.mem_filter.mp inGroup).2
    rw [show (pushBack K V).key entry = entry.1 from rfl, folded_pushBack entry.1 _ same] at whole
    split_ifs at whole with nothing
    have values := congrArg Prod.snd (Option.some.inj whole)
    exact ⟨values.symm, fun empty => nothing (List.map_eq_nil_iff.mp empty)⟩
  · rintro ⟨values, filled⟩
    have found := atKey_pushBack entry.1 items
    rw [if_neg filled, ← values] at found
    exact List.mem_of_find?_eq_some found

end KeyedMerge
end BravoFinder
