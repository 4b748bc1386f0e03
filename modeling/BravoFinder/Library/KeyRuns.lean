import BravoFinder.Library.KeyedMerge
import Mathlib.Data.List.Chain

namespace BravoFinder

/-!
# Runs of one key

Rows that follow each other with one key are a run.  The runs of a list are its
rows again, in order; each has one key, and neighbours have different ones.
-/

section Insert

variable {A B K : Type} [DecidableEq K] (merge : KeyedMerge A B K)

theorem KeyedMerge.insertBack_append (front : List A) (last : A) (item : B) :
    merge.insertBack (front ++ [last]) item =
      if merge.key last = merge.slot item then front ++ [merge.combine last item]
      else front ++ [last, merge.fresh item] := by
  induction front with
  | nil => rw [List.nil_append, insertBack]; rfl
  | cons element rest inductionHypothesis =>
      have step : merge.insertBack (element :: (rest ++ [last])) item =
          element :: merge.insertBack (rest ++ [last]) item := by
        rcases others : rest ++ [last] with _ | ⟨next, tail⟩
        · exact absurd others (List.concat_ne_nil _ _)
        · rfl
      rw [List.cons_append, step, inductionHypothesis]
      split_ifs <;> rfl

end Insert

namespace KeyRuns

variable {Row K : Type} [DecidableEq K] (key : Row -> K)

/-- The runs of some rows, each under its key. -/
def runs (rows : List Row) : List (K × List Row) :=
  (KeyedMerge.pushBack K Row).collectBack (rows.map fun row => (key row, row))

/-- A further row extends the last run or starts one. -/
theorem runs_append (rows : List Row) (row : Row) :
    (exists front group, runs key rows = front ++ [(key row, group)] ∧
        runs key (rows ++ [row]) = front ++ [(key row, group ++ [row])]) ∨
      (forall front last, runs key rows = front ++ [last] -> last.1 ≠ key row) ∧
        runs key (rows ++ [row]) = runs key rows ++ [(key row, [row])] := by
  have step : runs key (rows ++ [row]) = (KeyedMerge.pushBack K Row).insertBack (runs key rows) (key row, row) := by
    rw [runs, List.map_append, KeyedMerge.collectBack, List.foldl_append]
    rfl
  rw [step]
  rcases List.eq_nil_or_concat (runs key rows) with empty | ⟨front, last, whole⟩
  · refine .inr ⟨fun front last whole => ?_, by rw [empty]; rfl⟩
    exact absurd (empty.symm.trans whole).symm (List.concat_ne_nil _ _)
  · rw [List.concat_eq_append] at whole
    rw [whole, KeyedMerge.insertBack_append]
    by_cases same : last.1 = key row
    · refine .inl ⟨front, last.2, by rw [← same], ?_⟩
      refine (if_pos same).trans ?_
      rw [← same]
      rfl
    · refine .inr ⟨fun others other alike => ?_, ?_⟩
      · rw [(List.append_inj_right' alike rfl |> List.cons.inj).1.symm]
        exact same
      · refine (if_neg same).trans ?_
        rw [List.append_assoc]
        rfl

/-- What the runs of some rows are. -/
structure AreRuns (key : Row -> K) (rows : List Row) (groups : List (K × List Row)) : Prop where
  flatten : groups.flatMap Prod.snd = rows
  filled : forall group, group ∈ groups -> group.2 ≠ []
  keyed : forall group, group ∈ groups -> forall row, row ∈ group.2 -> key row = group.1
  apart : groups.IsChain fun first second => first.1 ≠ second.1

theorem areRuns (rows : List Row) : AreRuns key rows (runs key rows) := by
  induction rows using List.reverseRecOn with
  | nil => exact ⟨rfl, fun _ member => absurd member List.not_mem_nil, fun _ member => absurd member List.not_mem_nil,
      List.IsChain.nil⟩
  | append_singleton rows row inductionHypothesis =>
      rcases inductionHypothesis with ⟨flatten, filled, keyed, apart⟩
      rcases runs_append key rows row with ⟨front, group, before, after⟩ | ⟨other, after⟩
      · rw [before] at flatten filled keyed apart
        rw [after]
        constructor
        case flatten =>
          rw [← flatten, List.flatMap_append, List.flatMap_append, List.flatMap_singleton, List.flatMap_singleton,
            List.append_assoc]
        case filled =>
          intro run member
          rcases List.mem_append.mp member with earlier | last
          · exact filled run (List.mem_append_left _ earlier)
          · rw [List.mem_singleton.mp last]
            exact List.concat_ne_nil _ _
        case keyed =>
          intro run member other inRun
          rcases List.mem_append.mp member with earlier | last
          · exact keyed run (List.mem_append_left _ earlier) other inRun
          · rw [List.mem_singleton.mp last] at inRun ⊢
            rcases List.mem_append.mp inRun with before | isRow
            · exact keyed (key row, group) (List.mem_append_right _ List.mem_cons_self) other before
            · rw [List.mem_singleton.mp isRow]
        case apart =>
          rw [List.isChain_append] at apart ⊢
          exact ⟨apart.1, List.IsChain.singleton _, fun first isLast second isHead => by
            rw [List.head?_cons, Option.mem_some_iff] at isHead
            rw [← isHead]
            exact apart.2.2 first isLast (key row, group) rfl⟩
      · rw [after]
        constructor
        case flatten =>
          rw [List.flatMap_append, flatten]
          rfl
        case filled =>
          intro run member
          rcases List.mem_append.mp member with earlier | last
          · exact filled run earlier
          · rw [List.mem_singleton.mp last]
            exact List.cons_ne_nil _ _
        case keyed =>
          intro run member other inRun
          rcases List.mem_append.mp member with earlier | last
          · exact keyed run earlier other inRun
          · rw [List.mem_singleton.mp last] at inRun ⊢
            rw [List.mem_singleton.mp inRun]
        case apart =>
          rw [List.isChain_append]
          refine ⟨apart, List.IsChain.singleton _, fun first isLast second isHead => ?_⟩
          rw [List.head?_cons, Option.mem_some_iff] at isHead
          rw [← isHead]
          rcases List.getLast?_eq_some_iff.mp isLast with ⟨front, whole⟩
          exact other front first whole

/-! ## Where a row is -/

variable {key}

omit [DecidableEq K] in
/-- A row is in the middle of one group. -/
theorem exists_of_flatMap_eq {groups : List (K × List Row)} {front back : List Row} {row : Row}
    (whole : groups.flatMap Prod.snd = front ++ row :: back) :
    exists earlier name before after later, groups = earlier ++ (name, before ++ row :: after) :: later ∧
      front = earlier.flatMap Prod.snd ++ before ∧ back = after ++ later.flatMap Prod.snd := by
  induction groups generalizing front with
  | nil => exact absurd whole.symm (List.append_ne_nil_of_right_ne_nil _ (List.cons_ne_nil _ _))
  | cons group rest inductionHypothesis =>
      rw [List.flatMap_cons] at whole
      rcases List.append_eq_append_iff.mp whole with ⟨middle, frontParts, restParts⟩ | ⟨middle, groupParts, rowParts⟩
      · rcases inductionHypothesis restParts with ⟨earlier, name, before, after, later, parts, frontEq, backEq⟩
        refine ⟨group :: earlier, name, before, after, later, by rw [parts]; rfl, ?_, backEq⟩
        rw [frontParts, frontEq, List.flatMap_cons, List.append_assoc]
      · rcases middle with _ | ⟨first, after⟩
        · rw [List.append_nil] at groupParts
          have opening : rest.flatMap Prod.snd = [] ++ row :: back := rowParts.symm
          rcases inductionHypothesis opening with ⟨earlier, name, before, after, later, parts, frontEq, backEq⟩
          refine ⟨group :: earlier, name, before, after, later, by rw [parts]; rfl, ?_, backEq⟩
          rw [List.flatMap_cons, List.append_assoc, ← frontEq, List.append_nil, groupParts]
        · rw [List.cons_append, List.cons.injEq] at rowParts
          exact ⟨[], group.1, front, after, rest, by rw [rowParts.1, ← groupParts]; rfl, rfl, rowParts.2⟩

/-- Two rows of one run, between which all rows have the key of the run. -/
structure SameRun (key : Row -> K) (groups : List (K × List Row)) (front middle : List Row) (first last : Row) : Prop where
  exists_run : exists earlier name before after later,
    groups = earlier ++ (name, before ++ first :: (middle ++ last :: after)) :: later ∧
      front = earlier.flatMap Prod.snd ++ before
  same : forall row, row ∈ middle ++ [last] -> key row = key first

/-- Two rows of different runs, with a row of another key up to the second. -/
structure OtherRun (key : Row -> K) (groups : List (K × List Row)) (front middle : List Row) (first last : Row) : Prop where
  exists_runs : exists earlier name before after between other start rest later,
    groups = earlier ++ (name, before ++ first :: after) :: (between ++ (other, start ++ last :: rest) :: later) ∧
      front = earlier.flatMap Prod.snd ++ before ∧ middle = after ++ between.flatMap Prod.snd ++ start
  differs : exists row, row ∈ middle ++ [last] ∧ key row ≠ key first

omit [DecidableEq K] in
/-- The second row is in a later run, which another key starts. -/
theorem AreRuns.otherRun {rows : List Row} {groups earlier later : List (K × List Row)} (areRuns : AreRuns key rows groups)
    {name : K} {front before after start rest : List Row} {first last : Row}
    (parts : groups = earlier ++ (name, before ++ first :: after) :: later)
    (frontEq : front = earlier.flatMap Prod.snd ++ before)
    (laterEq : later.flatMap Prod.snd = start ++ last :: rest) :
    OtherRun key groups front (after ++ start) first last := by
  have firstKey : key first = name :=
    areRuns.keyed (name, before ++ first :: after) (by rw [parts]; exact List.mem_append_right _ List.mem_cons_self)
      first (List.mem_append_right _ List.mem_cons_self)
  constructor
  case exists_runs =>
    rcases exists_of_flatMap_eq laterEq with ⟨between, other, opening, ending, others, laterParts, startEq, -⟩
    exact ⟨earlier, name, before, after, between, other, opening, ending, others, by rw [parts, laterParts], frontEq,
      by rw [startEq, List.append_assoc]⟩
  case differs =>
    rcases later with _ | ⟨next, others⟩
    · exact absurd laterEq.symm (List.append_ne_nil_of_right_ne_nil _ (List.cons_ne_nil _ _))
    · have isNext : next ∈ groups := by
        rw [parts]
        exact List.mem_append_right _ (List.mem_cons_of_mem _ List.mem_cons_self)
      have apart : name ≠ next.1 := by
        have chain := areRuns.apart
        rw [parts, List.isChain_append] at chain
        exact (List.isChain_cons_cons.mp chain.2.1).1
      rcases opening : next.2 with _ | ⟨row, others⟩
      · exact absurd opening (areRuns.filled next isNext)
      · have inOpening : row ∈ next.2 := by rw [opening]; exact List.mem_cons_self
        refine ⟨row, ?_, fun same => apart ?_⟩
        · -- The first row of the next run comes no later than the second row.
          rw [List.flatMap_cons, opening] at laterEq
          rw [List.append_assoc]
          refine List.mem_append_right _ ?_
          rcases start with _ | ⟨head, tail⟩
          · rw [List.nil_append, List.cons_append, List.cons.injEq] at laterEq
            rw [laterEq.1]
            exact List.mem_singleton_self _
          · rw [List.cons_append, List.cons_append, List.cons.injEq] at laterEq
            rw [laterEq.1]
            exact List.mem_cons_self
        · rw [← firstKey, ← same, areRuns.keyed next isNext row inOpening]

omit [DecidableEq K] in
/-- Two rows are in one run, or a row up to the second has another key. -/
theorem AreRuns.same_or_other {rows : List Row} {groups : List (K × List Row)} (areRuns : AreRuns key rows groups)
    {front middle rest : List Row} {first last : Row} (whole : rows = front ++ first :: (middle ++ last :: rest)) :
    SameRun key groups front middle first last ∨ OtherRun key groups front middle first last := by
  rcases exists_of_flatMap_eq (areRuns.flatten.trans whole) with
    ⟨earlier, name, before, after, later, parts, frontEq, backEq⟩
  rcases List.append_eq_append_iff.mp backEq with ⟨start, afterEq, laterEq⟩ | ⟨start, middleEq, laterEq⟩
  · rcases start with _ | ⟨head, tail⟩
    · rw [List.append_nil] at afterEq
      right
      have opening : later.flatMap Prod.snd = [] ++ last :: rest := laterEq.symm
      have other := areRuns.otherRun parts frontEq opening
      rwa [List.append_nil, afterEq] at other
    · left
      rw [List.cons_append, List.cons.injEq] at laterEq
      rw [afterEq, ← laterEq.1] at parts
      refine ⟨⟨earlier, name, before, tail, later, parts, frontEq⟩, fun row inMiddle => ?_⟩
      have ofRun := areRuns.keyed (name, before ++ first :: (middle ++ last :: tail))
        (by rw [parts]; exact List.mem_append_right _ List.mem_cons_self)
      rw [ofRun first (List.mem_append_right _ List.mem_cons_self)]
      refine ofRun row (List.mem_append_right _ (List.mem_cons_of_mem _ ?_))
      rcases List.mem_append.mp inMiddle with earlier | isLast
      · exact List.mem_append_left _ earlier
      · rw [List.mem_singleton.mp isLast]
        exact List.mem_append_right _ List.mem_cons_self
  · right
    rw [middleEq]
    exact areRuns.otherRun parts frontEq laterEq

end KeyRuns
end BravoFinder
