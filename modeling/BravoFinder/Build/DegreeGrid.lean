import BravoFinder.Build.GraphBuilder
import BravoFinder.Library.SmallestFew
import Mathlib.Algebra.Order.Floor.Defs
import Mathlib.Algebra.Order.Field.Basic
import Mathlib.Data.Prod.Lex
import Mathlib.Data.List.TakeWhile
import Mathlib.Tactic.SplitIfs

namespace BravoFinder

/-!
# The degree grid

Waypoints are bucketed by the degree cell they lie in.  The buckets are kept in
three arrays: the keys of the cells in order, where the bucket of each starts,
and the waypoints of all buckets in a row.
-/

/-! ## Cells and their keys -/

/-- Pack a cell into one key.  Longitude 180 is longitude -180. -/
def cellKey (lat lon : Int) : Int :=
  let wrapped := if 180 ≤ lon then lon - 360 else lon
  let wrapped := if wrapped < -180 then wrapped + 360 else wrapped
  (lat + 90) * 1000 + (wrapped + 180)

/-- How `Near` wraps a longitude across the antimeridian. -/
def wrapLongitude (lon : Int) : Int :=
  let wrapped := if lon < -180 then lon + 360 else lon
  if 180 ≤ wrapped then wrapped - 360 else wrapped

theorem wrapLongitude_eq {lon target : Int} (inside : -180 ≤ target ∧ target < 180)
    (same : lon = target ∨ lon = target + 360 ∨ lon = target - 360) : wrapLongitude lon = target := by
  simp only [wrapLongitude]
  split_ifs <;> omega

/-- The offsets `-radius, .., radius`. -/
def degreeOffsets (radius : Nat) : List Int :=
  (List.range (2 * radius + 1)).map fun i => Int.ofNat i - radius

theorem mem_degreeOffsets {radius : Nat} {offset : Int} :
    offset ∈ degreeOffsets radius ↔ -(radius : Int) ≤ offset ∧ offset ≤ radius := by
  simp only [degreeOffsets, List.mem_map, List.mem_range]
  constructor
  · rintro ⟨i, bound, rfl⟩
    simp only [Int.ofNat_eq_natCast]
    omega
  · rintro ⟨low, high⟩
    exact ⟨(offset + radius).toNat, by omega, by simp only [Int.ofNat_eq_natCast]; omega⟩

section Position

variable {R : Type} [Field R] [LinearOrder R] [FloorRing R]

/-- A real position on the globe. -/
def onGlobe (c : Coordinate R) : Bool :=
  decide (|c.latitude| ≤ 90 ∧ |c.longitude| ≤ 180)

/-- `KeyForCoord`. -/
def keyForCoord (c : Coordinate R) : Int :=
  cellKey ⌊c.latitude⌋ ⌊c.longitude⌋

/-- The keys of the cells that `Near` visits, in its order. -/
def nearKeys (c : Coordinate R) (radius : Nat) : List Int :=
  (degreeOffsets radius).flatMap fun dlat =>
    (degreeOffsets radius).map fun dlon => cellKey (⌊c.latitude⌋ + dlat) (wrapLongitude (⌊c.longitude⌋ + dlon))

end Position

/-! ## The arrays -/

/-- `DegreeGrid`. -/
structure DegreeGrid where
  keys : List Int
  starts : List Nat
  ids : List Int

namespace DegreeGrid

/-- The construction loop, one entry further: the entry opens a bucket unless
its key is that of the last one. -/
def addEntry (grid : DegreeGrid) (entry : Int ×ₗ Int) : DegreeGrid :=
  if grid.keys.getLast? = some (ofLex entry).1 then { grid with ids := grid.ids ++ [(ofLex entry).2] }
  else
    { keys := grid.keys ++ [(ofLex entry).1]
      starts := grid.starts ++ [grid.ids.length]
      ids := grid.ids ++ [(ofLex entry).2] }

/-- The constructor: sort, flatten, and close the last bucket. -/
def ofEntries (entries : List (Int ×ₗ Int)) : DegreeGrid :=
  let filled := (entries.insertionSort (· ≤ ·)).foldl addEntry ⟨[], [], []⟩
  { filled with starts := filled.starts ++ [filled.ids.length] }

/-- `lower_bound` over the keys. -/
def lowerBound (grid : DegreeGrid) (key : Int) : Nat :=
  (grid.keys.takeWhile fun other => decide (other < key)).length

/-- What `AppendCell` appends. -/
def cell (grid : DegreeGrid) (key : Int) : List Int :=
  let i := grid.lowerBound key
  if grid.keys[i]? = some key then
    (grid.ids.drop (grid.starts.getD i 0)).take (grid.starts.getD (i + 1) 0 - grid.starts.getD i 0)
  else []

/-- `Near`. -/
def near {R : Type} [Field R] [LinearOrder R] [FloorRing R] (grid : DegreeGrid) (c : Coordinate R)
    (radius : Nat) : List Int :=
  (nearKeys c radius).flatMap grid.cell

/-! ## What the arrays say -/

/-- Before the last bucket is closed: the buckets partition the entries so far,
which come in order. -/
structure Indexes (grid : DegreeGrid) (entries : List (Int ×ₗ Int)) : Prop where
  ids_eq : grid.ids = entries.map fun entry => (ofLex entry).2
  starts_eq : grid.starts =
    grid.keys.map fun key => (entries.filter fun entry => decide ((ofLex entry).1 < key)).length
  keys_sorted : grid.keys.Pairwise (· < ·)
  mem_keys : forall key, key ∈ grid.keys ↔ exists entry, entry ∈ entries ∧ (ofLex entry).1 = key

theorem indexes_nil : Indexes ⟨[], [], []⟩ [] where
  ids_eq := rfl
  starts_eq := rfl
  keys_sorted := .nil
  mem_keys := fun _ => ⟨fun member => absurd member List.not_mem_nil,
    fun ⟨_, listed, _⟩ => absurd listed List.not_mem_nil⟩

/-- An entry whose key is not below any key so far leaves the starts alone. -/
theorem Indexes.starts_append {grid : DegreeGrid} {entries : List (Int ×ₗ Int)} (indexes : Indexes grid entries)
    {entry : Int ×ₗ Int} (last : forall other, other ∈ entries -> (ofLex other).1 ≤ (ofLex entry).1) :
    grid.starts = grid.keys.map fun key =>
      ((entries ++ [entry]).filter fun other => decide ((ofLex other).1 < key)).length := by
  rw [indexes.starts_eq]
  refine List.map_congr_left fun key member => ?_
  rcases (indexes.mem_keys key).mp member with ⟨other, listed, same⟩
  have notBelow : ¬ (ofLex entry).1 < key := by
    have order := last other listed
    omega
  rw [List.filter_append, List.filter_cons_of_neg (by rw [decide_eq_true_eq]; exact notBelow), List.filter_nil,
    List.append_nil]

theorem Indexes.mem_keys_append {grid : DegreeGrid} {entries : List (Int ×ₗ Int)}
    (indexes : Indexes grid entries) (entry : Int ×ₗ Int) (key : Int) :
    key ∈ grid.keys ∨ (ofLex entry).1 = key ↔
      exists other, other ∈ entries ++ [entry] ∧ (ofLex other).1 = key := by
  rw [indexes.mem_keys key]
  simp only [List.mem_append, List.mem_singleton, or_and_right, exists_or, exists_eq_left]

/-- The greatest key is the last one. -/
theorem Indexes.getLast?_of_mem {grid : DegreeGrid} {entries : List (Int ×ₗ Int)}
    (indexes : Indexes grid entries) {key : Int}
    (last : forall other, other ∈ entries -> (ofLex other).1 ≤ key) (known : key ∈ grid.keys) :
    grid.keys.getLast? = some key := by
  have nonempty := List.ne_nil_of_mem known
  have cut := List.dropLast_concat_getLast nonempty
  have sorted := indexes.keys_sorted
  rw [← cut, List.pairwise_append] at sorted
  rw [← cut, List.mem_append, List.mem_singleton] at known
  rw [List.getLast?_eq_some_getLast nonempty]
  rcases known with before | here
  · have less := sorted.2.2 key before _ (List.mem_singleton.mpr rfl)
    rcases (indexes.mem_keys _).mp (List.getLast_mem nonempty) with ⟨other, listed, same⟩
    have order := last other listed
    omega
  · rw [here]

theorem Indexes.addEntry {grid : DegreeGrid} {entries : List (Int ×ₗ Int)} (indexes : Indexes grid entries)
    {entry : Int ×ₗ Int} (last : forall other, other ∈ entries -> (ofLex other).1 ≤ (ofLex entry).1) :
    Indexes (grid.addEntry entry) (entries ++ [entry]) := by
  have starts := indexes.starts_append last
  have known := indexes.mem_keys_append entry
  rw [DegreeGrid.addEntry]
  split
  · rename_i same
    refine ⟨?_, starts, indexes.keys_sorted, fun key => ?_⟩
    · rw [indexes.ids_eq, List.map_append, List.map_singleton]
    · rw [← known key]
      exact ⟨.inl, fun either => either.elim id fun isLast => isLast ▸ List.mem_of_getLast? same⟩
  · rename_i different
    have fresh : (ofLex entry).1 ∉ grid.keys := fun member => different (indexes.getLast?_of_mem last member)
    have below : forall other, other ∈ entries -> (ofLex other).1 < (ofLex entry).1 := by
      intro other listed
      have order := last other listed
      have apart : (ofLex other).1 ≠ (ofLex entry).1 := fun same =>
        fresh ((indexes.mem_keys _).mpr ⟨other, listed, same⟩)
      omega
    refine ⟨?_, ?_, ?_, fun key => ?_⟩
    · rw [indexes.ids_eq, List.map_append, List.map_singleton]
    · rw [starts, List.map_append, List.map_singleton, indexes.ids_eq, List.length_map, List.filter_append,
        List.filter_cons_of_neg (by simp only [Int.lt_irrefl, decide_false, Bool.false_eq_true, not_false_eq_true]),
        List.filter_nil, List.append_nil,
        List.filter_eq_self.mpr fun other listed => decide_eq_true (below other listed)]
    · rw [List.pairwise_append]
      refine ⟨indexes.keys_sorted, List.pairwise_singleton _ _, fun key member other isNew => ?_⟩
      rw [List.mem_singleton.mp isNew]
      rcases (indexes.mem_keys key).mp member with ⟨source, listed, same⟩
      exact same ▸ below source listed
    · rw [← known key, List.mem_append, List.mem_singleton, eq_comm (a := key)]

theorem indexes_foldl (entries : List (Int ×ₗ Int)) :
    forall grid before, Indexes grid before -> (before ++ entries).Pairwise (· ≤ ·) ->
      Indexes (entries.foldl DegreeGrid.addEntry grid) (before ++ entries) := by
  induction entries with
  | nil =>
      intro grid before indexes _
      rw [List.append_nil]
      exact indexes
  | cons entry entries inductionHypothesis =>
      intro grid before indexes sorted
      have order := (List.pairwise_append.mp sorted).2.2
      rw [List.append_cons] at sorted ⊢
      refine inductionHypothesis _ _ (indexes.addEntry fun other listed => ?_) sorted
      exact Prod.Lex.monotone_fst _ _ (order other listed entry List.mem_cons_self)

/-- Entries in order split at a key. -/
theorem eq_split_key {entries : List (Int ×ₗ Int)} (sorted : entries.Pairwise (· ≤ ·)) (key : Int) :
    entries = (entries.filter fun entry => decide ((ofLex entry).1 < key)) ++
      ((entries.filter fun entry => decide ((ofLex entry).1 = key)) ++
        entries.filter fun entry => decide (key < (ofLex entry).1)) := by
  induction entries with
  | nil => rfl
  | cons entry entries inductionHypothesis =>
      have order : forall other, other ∈ entries -> (ofLex entry).1 ≤ (ofLex other).1 :=
        fun other listed => Prod.Lex.monotone_fst _ _ (List.rel_of_pairwise_cons sorted listed)
      have later := inductionHypothesis sorted.of_cons
      have noneBelow : key ≤ (ofLex entry).1 -> (entries.filter fun other => decide ((ofLex other).1 < key)) = [] := by
        intro atLeast
        rw [List.filter_eq_nil_iff]
        intro other listed
        have above := order other listed
        rw [decide_eq_true_eq]
        omega
      rcases Int.lt_trichotomy (ofLex entry).1 key with below | same | above
      · have notSame : ¬ (ofLex entry).1 = key := by omega
        have notAbove : ¬ key < (ofLex entry).1 := by omega
        simp only [List.filter_cons, decide_eq_true_eq, if_pos below, if_neg notSame, if_neg notAbove,
          List.cons_append]
        exact congrArg (entry :: ·) later
      · have notBelow : ¬ (ofLex entry).1 < key := by omega
        have notAbove : ¬ key < (ofLex entry).1 := by omega
        rw [noneBelow (by omega), List.nil_append] at later
        simp only [List.filter_cons, decide_eq_true_eq, if_neg notBelow, if_pos same, if_neg notAbove,
          noneBelow (by omega), List.nil_append, List.cons_append]
        exact congrArg (entry :: ·) later
      · have notBelow : ¬ (ofLex entry).1 < key := by omega
        have notSame : ¬ (ofLex entry).1 = key := by omega
        have noneHere : (entries.filter fun other => decide ((ofLex other).1 = key)) = [] := by
          rw [List.filter_eq_nil_iff]
          intro other listed
          have beyond := order other listed
          rw [decide_eq_true_eq]
          omega
        rw [noneBelow (by omega), noneHere, List.nil_append, List.nil_append] at later
        simp only [List.filter_cons, decide_eq_true_eq, if_neg notBelow, if_neg notSame, if_pos above,
          noneBelow (by omega), noneHere, List.nil_append]
        exact congrArg (entry :: ·) later

/-- `lower_bound` finds a key that is there. -/
theorem getElem?_lowerBound {grid : DegreeGrid} (sorted : grid.keys.Pairwise (· < ·)) {key : Int}
    (known : key ∈ grid.keys) : grid.keys[grid.lowerBound key]? = some key := by
  have cut := List.takeWhile_append_dropWhile (p := fun other => decide (other < key)) (l := grid.keys)
  have found : grid.keys[grid.lowerBound key]? = (grid.keys.dropWhile fun other => decide (other < key)).head? := by
    conv_lhs => rw [← cut]
    rw [lowerBound, List.getElem?_append_right (Nat.le_refl _), Nat.sub_self, List.head?_eq_getElem?]
  have inRest : key ∈ grid.keys.dropWhile fun other => decide (other < key) := by
    rw [← cut, List.mem_append] at known
    refine known.resolve_left fun before => ?_
    have below : decide (key < key) = true :=
      List.mem_takeWhile_imp (p := fun other => decide (other < key)) before
    exact Int.lt_irrefl key (of_decide_eq_true below)
  rw [found]
  cases rest : grid.keys.dropWhile fun other => decide (other < key) with
  | nil =>
      rw [rest] at inRest
      exact absurd inRest List.not_mem_nil
  | cons first others =>
      have notBelow : ¬ first < key := by
        have stops := List.head?_dropWhile_not (fun other => decide (other < key)) grid.keys
        rw [rest] at stops
        simpa only [List.head?_cons, Bool.not_eq_true', decide_eq_false_iff_not] using stops
      rw [rest] at inRest
      rcases List.mem_cons.mp inRest with same | behind
      · rw [List.head?_cons, same]
      · have order := sorted.sublist (List.dropWhile_sublist fun other => decide (other < key))
        rw [rest] at order
        have less := List.rel_of_pairwise_cons order behind
        omega

/-- A greater key than one of a sorted list is not before the next one. -/
theorem exists_following {keys : List Int} (sorted : keys.Pairwise (· < ·)) {i : Nat} {key other : Int}
    (here : keys[i]? = some key) (known : other ∈ keys) (above : key < other) :
    exists following, keys[i + 1]? = some following ∧ following ≤ other := by
  rcases List.mem_iff_getElem.mp known with ⟨j, inside, there⟩
  rcases List.getElem?_eq_some_iff.mp here with ⟨bound, at_i⟩
  rw [List.pairwise_iff_getElem] at sorted
  have later : i < j := by
    by_contra notLater
    rcases Nat.lt_or_eq_of_le (Nat.le_of_not_lt notLater) with before | same
    · have order := sorted j i inside bound before
      omega
    · subst same
      omega
  have next : i + 1 < keys.length := by omega
  refine ⟨keys[i + 1], List.getElem?_eq_getElem next, ?_⟩
  rcases Nat.lt_or_eq_of_le (Nat.succ_le_of_lt later) with before | same
  · have order := sorted (i + 1) j next inside before
    omega
  · subst same
    exact there.le

/-- Where the next bucket starts: behind all entries up to the key. -/
theorem Indexes.next_start {grid : DegreeGrid} {entries : List (Int ×ₗ Int)} (indexes : Indexes grid entries)
    (sorted : entries.Pairwise (· ≤ ·)) {key : Int} {i : Nat} (here : grid.keys[i]? = some key) :
    (grid.starts ++ [grid.ids.length]).getD (i + 1) 0 =
      (entries.filter fun entry => decide ((ofLex entry).1 < key)).length +
        (entries.filter fun entry => decide ((ofLex entry).1 = key)).length := by
  have split := eq_split_key sorted key
  have starts_length : grid.starts.length = grid.keys.length := by
    rw [indexes.starts_eq, List.length_map]
  have bound := (List.getElem?_eq_some_iff.mp here).1
  cases next : grid.keys[i + 1]? with
  | some following =>
      have inside := (List.getElem?_eq_some_iff.mp next).1
      have upTo : (entries.filter fun entry => decide ((ofLex entry).1 < following)) =
          (entries.filter fun entry => decide ((ofLex entry).1 < key)) ++
            entries.filter fun entry => decide ((ofLex entry).1 = key) := by
        have less : key < following := by
          have order := indexes.keys_sorted
          rw [List.pairwise_iff_getElem] at order
          have adjacent := order i (i + 1) bound inside (Nat.lt_succ_self i)
          rw [(List.getElem?_eq_some_iff.mp here).2, (List.getElem?_eq_some_iff.mp next).2] at adjacent
          exact adjacent
        have parts := congrArg (List.filter fun entry => decide ((ofLex entry).1 < following)) split
        rw [List.filter_append, List.filter_append] at parts
        have keepsBelow : (entries.filter fun entry => decide ((ofLex entry).1 < key)).filter
              (fun entry => decide ((ofLex entry).1 < following)) =
            entries.filter fun entry => decide ((ofLex entry).1 < key) := by
          rw [List.filter_eq_self]
          intro entry member
          have below := of_decide_eq_true (List.mem_filter.mp member).2
          exact decide_eq_true (by omega)
        have keepsSame : (entries.filter fun entry => decide ((ofLex entry).1 = key)).filter
              (fun entry => decide ((ofLex entry).1 < following)) =
            entries.filter fun entry => decide ((ofLex entry).1 = key) := by
          rw [List.filter_eq_self]
          intro entry member
          have same := of_decide_eq_true (List.mem_filter.mp member).2
          exact decide_eq_true (by omega)
        have dropsAbove : (entries.filter fun entry => decide (key < (ofLex entry).1)).filter
              (fun entry => decide ((ofLex entry).1 < following)) = [] := by
          rw [List.filter_eq_nil_iff]
          intro entry member
          have above := of_decide_eq_true (List.mem_filter.mp member).2
          rcases exists_following indexes.keys_sorted here
            ((indexes.mem_keys _).mpr ⟨entry, (List.mem_filter.mp member).1, rfl⟩) above with ⟨other, found, order⟩
          rw [next, Option.some.injEq] at found
          rw [decide_eq_true_eq]
          omega
        rw [parts, keepsBelow, keepsSame, dropsAbove, List.append_nil]
      rw [List.getD_eq_getElem?_getD, List.getElem?_append_left (by omega), indexes.starts_eq, List.getElem?_map,
        next, Option.map_some, Option.getD_some, upTo, List.length_append]
  | none =>
      have last := List.getElem?_eq_none_iff.mp next
      have noneAbove : (entries.filter fun entry => decide (key < (ofLex entry).1)) = [] := by
        rw [List.filter_eq_nil_iff]
        intro entry listed above
        rcases exists_following indexes.keys_sorted here ((indexes.mem_keys _).mpr ⟨entry, listed, rfl⟩)
          (of_decide_eq_true above) with ⟨other, found, _⟩
        rw [next] at found
        cases found
      rw [noneAbove, List.append_nil] at split
      have size : i + 1 = grid.starts.length := by omega
      rw [size, List.getD_eq_getElem?_getD, List.getElem?_append_right (Nat.le_refl _), Nat.sub_self,
        List.getElem?_cons_zero, Option.getD_some, indexes.ids_eq, List.length_map, ← List.length_append, ← split]

/-- The bucket of a cell, once the last one is closed. -/
theorem cell_of_indexes {grid : DegreeGrid} {entries : List (Int ×ₗ Int)} (indexes : Indexes grid entries)
    (sorted : entries.Pairwise (· ≤ ·)) (key : Int) :
    cell { grid with starts := grid.starts ++ [grid.ids.length] } key =
      (entries.filter fun entry => decide ((ofLex entry).1 = key)).map fun entry => (ofLex entry).2 := by
  by_cases known : key ∈ grid.keys
  · have here := getElem?_lowerBound indexes.keys_sorted known
    have start : (grid.starts ++ [grid.ids.length]).getD (grid.lowerBound key) 0 =
        (entries.filter fun entry => decide ((ofLex entry).1 < key)).length := by
      have bound := (List.getElem?_eq_some_iff.mp here).1
      rw [List.getD_eq_getElem?_getD, List.getElem?_append_left (by rw [indexes.starts_eq, List.length_map]; exact bound),
        indexes.starts_eq, List.getElem?_map, here, Option.map_some, Option.getD_some]
    have next := indexes.next_start sorted here
    have whole := congrArg (List.map fun entry => (ofLex entry).2) (eq_split_key sorted key)
    rw [List.map_append, List.map_append, ← indexes.ids_eq] at whole
    have found : ({ grid with starts := grid.starts ++ [grid.ids.length] } : DegreeGrid).lowerBound key =
        grid.lowerBound key := rfl
    rw [cell, found]
    simp only [here, if_true, start, next, Nat.add_sub_cancel_left]
    rw [whole, List.drop_left' (List.length_map _), List.take_left' (List.length_map _)]
  · have none : (entries.filter fun entry => decide ((ofLex entry).1 = key)) = [] := by
      rw [List.filter_eq_nil_iff]
      intro entry listed
      rw [decide_eq_true_eq]
      exact fun same => known ((indexes.mem_keys key).mpr ⟨entry, listed, same⟩)
    rw [cell, none, if_neg fun found => known (List.mem_of_getElem? found)]
    rfl

/-- The bucket of a key holds the vertices of the entries that have it. -/
theorem mem_cell_ofEntries {entries : List (Int ×ₗ Int)} {key vertex : Int} :
    vertex ∈ (ofEntries entries).cell key ↔ toLex (key, vertex) ∈ entries := by
  have sorted := List.pairwise_insertionSort (· ≤ ·) entries
  have indexes := indexes_foldl (entries.insertionSort (· ≤ ·)) ⟨[], [], []⟩ [] indexes_nil sorted
  rw [ofEntries, cell_of_indexes indexes sorted, List.nil_append, List.mem_map]
  simp only [List.mem_filter, List.mem_insertionSort, decide_eq_true_eq]
  constructor
  · rintro ⟨entry, ⟨listed, rfl⟩, rfl⟩
    exact listed
  · exact fun listed => ⟨toLex (key, vertex), ⟨listed, rfl⟩, rfl⟩

theorem mem_near {R : Type} [Field R] [LinearOrder R] [FloorRing R] {entries : List (Int ×ₗ Int)}
    {c : Coordinate R} {radius : Nat} {vertex : Int} :
    vertex ∈ (ofEntries entries).near c radius ↔
      exists key, key ∈ nearKeys c radius ∧ toLex (key, vertex) ∈ entries := by
  simp only [near, List.mem_flatMap, mem_cell_ofEntries]

end DegreeGrid
end BravoFinder
