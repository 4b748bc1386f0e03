import BravoFinder.Cache.BfdbNaming
import BravoFinder.Cache.HeaderReaders
import BravoFinder.Library.SortedIndex
import BravoFinder.Service.Registry

namespace BravoFinder

/-!
# Scanning a directory of caches

A scan keeps the best file seen for each cycle and records the others.  The
names only choose the files to open: the cycle of a file is that of its header.
-/

/-! ## Listing -/

/-- What a directory iterator gives: a name, and whether it is a regular file. -/
structure DirectoryEntry where
  name : Text
  regular : Bool
deriving DecidableEq

/-- A directory, with its entries in the order they are iterated. -/
structure Directory where
  path : Text
  entries : List DirectoryEntry
  distinct : (entries.map DirectoryEntry.name).Nodup
  bare : forall entry, entry ∈ entries -> 47 ∉ entry.name

/-- `path::extension` of a name: from its last dot, unless that starts it. -/
def extension (name : Text) : Text :=
  let stem := (name.reverse.dropWhile fun c => c != 46).reverse.dropLast
  if stem.isEmpty ∨ name = [46, 46] then [] else name.drop stem.length

/-- `dir / name`. -/
def Directory.join (directory : Directory) (name : Text) : Text :=
  if directory.path.getLast? = some 47 then directory.path ++ name else directory.path ++ 47 :: name

/-- `ListFiles` of a directory that can be read. -/
def listFiles (directory : Directory) (ext : Text) : List Text :=
  SortedIndex.sort id (· < ·)
    ((directory.entries.filter fun entry => extension entry.name == ext && entry.regular).map fun entry =>
      directory.join entry.name)

/-! ## The scan -/

/-- `canonical`: a file named for the cycle of its header. -/
def canonical (entry : BfdbEntry) : Bool :=
  filename entry.path == formatBfdbName entry.cycle

/-- A loop of `Scan` under way; `best` holds the entries of the map, in some order. -/
structure ScanState where
  best : List BfdbEntry
  skipped : List Text
  discarded : List BfdbEntry

namespace ScanState

def start : ScanState := ⟨[], [], []⟩

/-- A file whose header was read. -/
def enter (state : ScanState) (entry : BfdbEntry) : ScanState :=
  match state.best.find? fun found => found.cycle == entry.cycle with
  | none => { state with best := state.best ++ [entry] }
  | some found =>
      if canonical entry && !canonical found then
        { state with
          best := state.best.map fun other => if other.cycle = entry.cycle then entry else other
          discarded := state.discarded ++ [found] }
      else { state with discarded := state.discarded ++ [entry] }

/-- A path, given what each file opens as. -/
def visit (files : Text -> Option PreadFile) (state : ScanState) (path : Text) : ScanState :=
  match parseBfdbName path with
  | none => state
  | some _ =>
      match UnifiedCache.readHeader path (files path) with
      | .error _ => { state with skipped := state.skipped ++ [path] }
      | .ok header => state.enter ⟨path, header.cycle⟩

/-- How a file enters, and what becomes of the entry of its cycle. -/
inductive Entering (state : ScanState) (entry : BfdbEntry) : ScanState -> Prop where
  | first (absent : forall found, found ∈ state.best -> found.cycle ≠ entry.cycle) :
      Entering state entry { state with best := state.best ++ [entry] }
  | replaces {before after : List BfdbEntry} {found : BfdbEntry} (split : state.best = before ++ found :: after)
      (same : found.cycle = entry.cycle) (better : canonical entry = true) :
      Entering state entry ⟨before ++ entry :: after, state.skipped, state.discarded ++ [found]⟩
  | shadowed {found : BfdbEntry} (member : found ∈ state.best) (same : found.cycle = entry.cycle)
      (worse : canonical entry = true -> canonical found = true) :
      Entering state entry { state with discarded := state.discarded ++ [entry] }

theorem map_replace {before after : List BfdbEntry} {found entry : BfdbEntry} (same : found.cycle = entry.cycle)
    (distinct : ((before ++ found :: after).map BfdbEntry.cycle).Nodup) :
    (before ++ found :: after).map (fun other => if other.cycle = entry.cycle then entry else other) =
      before ++ entry :: after := by
  rw [List.map_append, List.map_cons, List.nodup_append, List.nodup_cons] at distinct
  rcases distinct with ⟨_, ⟨notAfter, _⟩, apart⟩
  have kept : forall others : List BfdbEntry, (forall other, other ∈ others -> other.cycle ≠ entry.cycle) ->
      others.map (fun other => if other.cycle = entry.cycle then entry else other) = others := by
    intro others elsewhere
    calc
      _ = others.map id := List.map_congr_left fun other member => if_neg (elsewhere other member)
      _ = others := List.map_id others
  rw [List.map_append, List.map_cons, if_pos same]
  congr 1
  · exact kept before fun other member sameCycle =>
      apart _ (List.mem_map_of_mem member) _ List.mem_cons_self (sameCycle.trans same.symm)
  · congr 1
    exact kept after fun other member sameCycle =>
      notAfter (List.mem_map.mpr ⟨other, member, sameCycle.trans same.symm⟩)

theorem entering_enter {state : ScanState} (distinct : (state.best.map BfdbEntry.cycle).Nodup) (entry : BfdbEntry) :
    Entering state entry (state.enter entry) := by
  rw [enter]
  split
  case h_1 nothing =>
      refine .first fun found member same => ?_
      exact absurd (List.find?_eq_none.mp nothing found member) (not_not.mpr (beq_iff_eq.mpr same))
  case h_2 found first =>
      have same : found.cycle = entry.cycle := beq_iff_eq.mp (List.find?_some first :)
      have member := List.mem_of_find?_eq_some first
      split_ifs with better
      · rcases List.append_of_mem member with ⟨before, after, split⟩
        rw [split, map_replace same (split ▸ distinct)]
        exact .replaces split same (Bool.and_eq_true_iff.mp better).1
      · refine .shadowed member same fun named => ?_
        by_contra other
        rw [Bool.not_eq_true] at other
        exact better (by rw [named, other]; rfl)

/-- What holds of a scan after some paths. -/
structure Scanned (files : Text -> Option PreadFile) (paths : List Text) (state : ScanState) : Prop where
  distinct : (state.best.map BfdbEntry.cycle).Nodup
  once : forall path, (state.best.map BfdbEntry.path).count path + state.skipped.count path +
    (state.discarded.map BfdbEntry.path).count path =
      (paths.filter fun path => (parseBfdbName path).isSome).count path
  unreadable : forall path, path ∈ state.skipped ->
    exists error, UnifiedCache.readHeader path (files path) = .error error
  readable : forall entry, entry ∈ state.best ∨ entry ∈ state.discarded ->
    exists header, UnifiedCache.readHeader entry.path (files entry.path) = .ok header ∧ header.cycle = entry.cycle
  shadow : forall entry, entry ∈ state.discarded ->
    exists found, found ∈ state.best ∧ found.cycle = entry.cycle ∧ (canonical entry = true -> canonical found = true)

section Run

variable {files : Text -> Option PreadFile} {paths : List Text} {state : ScanState}

theorem scanned_start : Scanned files [] start where
  distinct := List.nodup_nil
  once _ := rfl
  unreadable _ member := absurd member List.not_mem_nil
  readable _ member := absurd member (not_or.mpr ⟨List.not_mem_nil, List.not_mem_nil⟩)
  shadow _ member := absurd member List.not_mem_nil

/-- A file whose header was read keeps the account. -/
theorem Scanned.enter (scanned : Scanned files paths state) {path : Text} {header : UnifiedHeader}
    (candidate : (parseBfdbName path).isSome = true)
    (opened : UnifiedCache.readHeader path (files path) = .ok header) :
    Scanned files (paths ++ [path]) (state.enter ⟨path, header.cycle⟩) := by
  have more : forall other, ((paths ++ [path]).filter fun path => (parseBfdbName path).isSome).count other =
      (paths.filter fun path => (parseBfdbName path).isSome).count other + [path].count other := by
    intro other
    rw [List.filter_append, List.filter_singleton, candidate, cond_true, List.count_append]
  have entering := entering_enter scanned.distinct ⟨path, header.cycle⟩
  generalize state.enter ⟨path, header.cycle⟩ = next at entering ⊢
  cases entering with
  | first absent =>
      constructor
      case distinct =>
        rw [List.map_append]
        refine List.nodup_append.mpr ⟨scanned.distinct, List.nodup_singleton _, fun cycle member other new same => ?_⟩
        rcases List.mem_map.mp member with ⟨found, listed, rfl⟩
        exact absent found listed (same.trans (List.mem_singleton.mp new))
      case once =>
        intro other
        rw [more, ← scanned.once, List.map_append, List.count_append, List.map_singleton]
        dsimp only
        omega
      case unreadable => exact scanned.unreadable
      case readable =>
        rintro entry (member | member)
        · rcases List.mem_append.mp member with earlier | new
          · exact scanned.readable entry (.inl earlier)
          · rw [List.mem_singleton.mp new]
            exact ⟨header, opened, rfl⟩
        · exact scanned.readable entry (.inr member)
      case shadow =>
        intro entry member
        rcases scanned.shadow entry member with ⟨found, listed, rest⟩
        exact ⟨found, List.mem_append_left _ listed, rest⟩
  | replaces split same better =>
      rename_i before after found
      have listed : found ∈ state.best := split ▸ List.mem_append_right _ List.mem_cons_self
      constructor
      case distinct =>
        have distinct := scanned.distinct
        rw [split, List.map_append, List.map_cons, same] at distinct
        rwa [List.map_append, List.map_cons]
      case once =>
        intro other
        rw [more, ← scanned.once, split]
        simp only [List.map_append, List.map_cons, List.map_nil, List.count_append, List.count_cons, List.count_nil]
        omega
      case unreadable => exact scanned.unreadable
      case readable =>
        rintro entry (member | member)
        · rcases List.mem_append.mp member with earlier | here
          · exact scanned.readable entry (.inl (split ▸ List.mem_append_left _ earlier))
          · rcases List.mem_cons.mp here with rfl | later
            · exact ⟨header, opened, rfl⟩
            · exact scanned.readable entry (.inl (split ▸ List.mem_append_right _ (List.mem_cons_of_mem _ later)))
        · rcases List.mem_append.mp member with earlier | lost
          · exact scanned.readable entry (.inr earlier)
          · rw [List.mem_singleton.mp lost]
            exact scanned.readable found (.inl listed)
      case shadow =>
        -- The file that wins now stands in for the one it replaces.
        have stands : forall other, other ∈ state.best -> exists winner,
            winner ∈ before ++ ⟨path, header.cycle⟩ :: after ∧ winner.cycle = other.cycle ∧
              (canonical other = true -> canonical winner = true) := by
          intro other member
          rw [split, List.mem_append, List.mem_cons] at member
          rcases member with earlier | rfl | later
          · exact ⟨other, List.mem_append_left _ earlier, rfl, id⟩
          · exact ⟨_, List.mem_append_right _ List.mem_cons_self, same.symm, fun _ => better⟩
          · exact ⟨other, List.mem_append_right _ (List.mem_cons_of_mem _ later), rfl, id⟩
        intro entry member
        rcases List.mem_append.mp member with earlier | lost
        · rcases scanned.shadow entry earlier with ⟨other, inBest, sameCycle, named⟩
          rcases stands other inBest with ⟨winner, wins, sameOther, namedOther⟩
          exact ⟨winner, wins, sameOther.trans sameCycle, fun own => namedOther (named own)⟩
        · rw [List.mem_singleton.mp lost]
          exact stands found listed
  | shadowed member same worse =>
      rename_i found
      constructor
      case distinct => exact scanned.distinct
      case once =>
        intro other
        rw [more, ← scanned.once, List.map_append, List.count_append, List.map_singleton]
        dsimp only
        omega
      case unreadable => exact scanned.unreadable
      case readable =>
        rintro entry (inBest | lost)
        · exact scanned.readable entry (.inl inBest)
        · rcases List.mem_append.mp lost with earlier | new
          · exact scanned.readable entry (.inr earlier)
          · rw [List.mem_singleton.mp new]
            exact ⟨header, opened, rfl⟩
      case shadow =>
        intro entry lost
        rcases List.mem_append.mp lost with earlier | new
        · exact scanned.shadow entry earlier
        · rw [List.mem_singleton.mp new]
          exact ⟨found, member, same, worse⟩

theorem Scanned.visit (scanned : Scanned files paths state) (path : Text) :
    Scanned files (paths ++ [path]) (state.visit files path) := by
  rw [ScanState.visit]
  split
  case h_1 noName =>
      have same : (paths ++ [path]).filter (fun path => (parseBfdbName path).isSome) =
          paths.filter fun path => (parseBfdbName path).isSome := by
        rw [List.filter_append, List.filter_singleton, noName, Option.isSome_none, cond_false, List.append_nil]
      exact { scanned with once := by rw [same]; exact scanned.once }
  case h_2 cycle named =>
      have candidate : (parseBfdbName path).isSome = true := by rw [named]; rfl
      split
      case h_1 error failed =>
          constructor
          case distinct => exact scanned.distinct
          case once =>
            intro other
            rw [List.filter_append, List.filter_singleton, candidate, cond_true, List.count_append, List.count_append,
              ← scanned.once]
            dsimp only
            omega
          case unreadable =>
            intro other member
            rcases List.mem_append.mp member with earlier | new
            · exact scanned.unreadable other earlier
            · rw [List.mem_singleton.mp new]
              exact ⟨error, failed⟩
          case readable => exact scanned.readable
          case shadow => exact scanned.shadow
      case h_2 header opened => exact scanned.enter candidate opened

end Run

/-- The account after a whole listing. -/
theorem scanned_foldl (files : Text -> Option PreadFile) (paths : List Text) :
    Scanned files paths (paths.foldl (visit files) start) := by
  induction paths using List.reverseRecOn with
  | nil => exact scanned_start
  | append_singleton paths path inductionHypothesis =>
      rw [List.foldl_append, List.foldl_cons, List.foldl_nil]
      exact inductionHypothesis.visit path

end ScanState

/-- What a scan returns: an inventory, the shadowed caches and the unreadable files. -/
structure ScannedInventory extends BfdbInventory where
  discarded : List BfdbEntry
  skipped : List Text

instance strictTotalOrder_cycles : IsStrictTotalOrder UInt32 (· < ·) where
  trichotomous _ _ forwards backwards := UInt32.le_antisymm (UInt32.not_lt.mp backwards) (UInt32.not_lt.mp forwards)
  irrefl := UInt32.lt_irrefl
  trans _ _ _ := UInt32.lt_trans

/-- The entries of the map, sorted.  No two are of one cycle, so their order in the map does not matter. -/
theorem sorted_best {best : List BfdbEntry} (distinct : (best.map BfdbEntry.cycle).Nodup) :
    (SortedIndex.sort BfdbEntry.cycle (· < ·) best).Pairwise (·.cycle < ·.cycle) := by
  have perm : List.Perm (SortedIndex.sort BfdbEntry.cycle (· < ·) best) best := SortedIndex.perm_sort best
  have apart := List.pairwise_map.mp ((perm.map BfdbEntry.cycle).nodup_iff.mpr distinct)
  refine (List.pairwise_and_iff.mpr ⟨SortedIndex.sorted_sort best, apart⟩).imp fun {first second} both => ?_
  exact UInt32.lt_of_le_of_ne (UInt32.not_lt.mp both.1) both.2

/-- The rest of `Scan`, after the files were listed. -/
def scanListing (files : Text -> Option PreadFile) (listing : List Text) : ScannedInventory where
  entries := SortedIndex.sort BfdbEntry.cycle (· < ·) (listing.foldl (ScanState.visit files) ScanState.start).best
  sorted := sorted_best (ScanState.scanned_foldl files listing).distinct
  discarded := (listing.foldl (ScanState.visit files) ScanState.start).discarded
  skipped := (listing.foldl (ScanState.visit files) ScanState.start).skipped

/-- `BfdbInventory::Scan`. -/
def scan (directory : Except Error Directory) (files : Text -> Option PreadFile) : Except Error ScannedInventory :=
  directory.map fun directory => scanListing files (listFiles directory kSuffix)

/-- The newest entry is the one with the greatest cycle. -/
theorem BfdbInventory.latest_greatest {inventory : BfdbInventory} {entry : BfdbEntry}
    (newest : inventory.latest = some entry) :
    entry ∈ inventory.entries ∧ forall other, other ∈ inventory.entries -> other.cycle ≤ entry.cycle := by
  rcases List.getLast?_eq_some_iff.mp newest with ⟨earlier, whole⟩
  refine ⟨List.mem_of_getLast? newest, fun other member => ?_⟩
  have sorted := inventory.sorted
  rw [whole] at sorted member
  rcases List.mem_append.mp member with before | last
  · exact UInt32.le_of_lt ((List.pairwise_append.mp sorted).2.2 other before entry List.mem_cons_self)
  · rw [List.mem_singleton.mp last]
    exact UInt32.le_refl _

/-! ## The account -/

/-- The candidates of a directory: its regular files with an accepted name. -/
def Directory.Candidate (directory : Directory) (path : Text) : Prop :=
  exists entry, entry ∈ directory.entries ∧ entry.regular = true ∧ path = directory.join entry.name ∧
    (parseBfdbName path).isSome = true

/-- An inventory accounts for every candidate. -/
structure Accounts (directory : Directory) (files : Text -> Option PreadFile) (inventory : ScannedInventory) :
    Prop where
  once : forall path, directory.Candidate path ->
    (inventory.entries.map BfdbEntry.path).count path + inventory.skipped.count path +
      (inventory.discarded.map BfdbEntry.path).count path = 1
  none_else : forall path, path ∈ inventory.entries.map BfdbEntry.path ∨ path ∈ inventory.skipped ∨
    path ∈ inventory.discarded.map BfdbEntry.path -> directory.Candidate path
  skipped_iff : forall path, directory.Candidate path ->
    (path ∈ inventory.skipped ↔ exists error, UnifiedCache.readHeader path (files path) = .error error)
  header : forall entry, entry ∈ inventory.entries ∨ entry ∈ inventory.discarded ->
    exists header, UnifiedCache.readHeader entry.path (files entry.path) = .ok header ∧ header.cycle = entry.cycle
  ascending : inventory.entries.Pairwise (·.cycle < ·.cycle)
  one_per_cycle : forall path header, directory.Candidate path ->
    UnifiedCache.readHeader path (files path) = .ok header ->
      exists entry, entry ∈ inventory.entries ∧ entry.cycle = header.cycle
  canonical_wins : forall path header, directory.Candidate path ->
    UnifiedCache.readHeader path (files path) = .ok header -> filename path = formatBfdbName header.cycle ->
      ⟨path, header.cycle⟩ ∈ inventory.entries
  find_iff : forall cycle entry,
    inventory.find cycle = some entry ↔ entry ∈ inventory.entries ∧ entry.cycle = cycle
  latest_greatest : forall entry, inventory.latest = some entry ->
    entry ∈ inventory.entries ∧ forall other, other ∈ inventory.entries -> other.cycle ≤ entry.cycle
  latest_none_iff : inventory.latest = none ↔ inventory.entries = []

section Names

/-- What follows a separator is the name. -/
theorem filename_join (directory : Directory) {name : Text} (bare : 47 ∉ name) :
    filename (directory.join name) = name := by
  have last : forall front, filename (front ++ 47 :: name) = name := by
    intro front
    have own := filename_of_not_mem bare
    rw [filename, List.reverse_eq_iff] at own
    rw [filename, List.reverse_append, List.reverse_cons, List.append_assoc, List.takeWhile_append, own,
      if_pos rfl, List.singleton_append, List.takeWhile_cons_of_neg (by decide), List.append_nil,
      List.reverse_reverse]
  rw [Directory.join]
  split_ifs with separated
  · rcases List.getLast?_eq_some_iff.mp separated with ⟨front, whole⟩
    rw [whole, List.append_assoc]
    exact last front
  · exact last directory.path

theorem extension_suffix {stem : Text} (named : stem ≠ []) : extension (stem ++ kSuffix) = kSuffix := by
  have before : (((stem ++ kSuffix).reverse.dropWhile fun c => c != 46).reverse).dropLast = stem := by
    have dropped : (stem ++ kSuffix).reverse.dropWhile (fun c => c != 46) = 46 :: stem.reverse := by
      rw [List.reverse_append]
      rfl
    rw [dropped, List.reverse_cons, List.reverse_reverse, List.dropLast_concat]
  rw [extension]
  rw [before, if_neg, List.drop_left]
  rintro (nothing | dots)
  · exact named (List.isEmpty_iff.mp nothing)
  · have length := congrArg List.length dots
    rw [List.length_append] at length
    have suffix : kSuffix.length = 5 := rfl
    have two : ([46, 46] : Text).length = 2 := rfl
    omega

/-- A name that is accepted has the extension that is listed. -/
theorem extension_of_parse {path : Text} (accepted : (parseBfdbName path).isSome = true) :
    extension (filename path) = kSuffix := by
  rcases Option.isSome_iff_exists.mp accepted with ⟨cycle, parsed⟩
  rcases parseBfdbName_eq_some_iff.mp parsed with ⟨legacy, _⟩ | ⟨digits, named, _⟩
  · rw [legacy]
    exact extension_suffix (List.cons_ne_nil _ _)
  · rw [named]
    exact extension_suffix (List.cons_ne_nil _ _)

end Names

/-- The candidates are the listed paths with an accepted name. -/
theorem mem_candidates_iff {directory : Directory} {listing : List Text}
    (listed : List.Perm listing (listFiles directory kSuffix)) {path : Text} :
    path ∈ listing.filter (fun path => (parseBfdbName path).isSome) ↔ directory.Candidate path := by
  rw [List.mem_filter, listed.mem_iff, listFiles, (SortedIndex.perm_sort _).mem_iff, List.mem_map]
  constructor
  · rintro ⟨⟨entry, member, rfl⟩, accepted⟩
    rcases List.mem_filter.mp member with ⟨inside, kept⟩
    exact ⟨entry, inside, (Bool.and_eq_true_iff.mp kept).2, rfl, accepted⟩
  · rintro ⟨entry, inside, regular, rfl, accepted⟩
    refine ⟨⟨entry, List.mem_filter.mpr ⟨inside, ?_⟩, rfl⟩, accepted⟩
    have suffixed := extension_of_parse accepted
    rw [filename_join directory (directory.bare entry inside)] at suffixed
    rw [Bool.and_eq_true_iff, beq_iff_eq]
    exact ⟨suffixed, regular⟩

/-- No two listed files share a name. -/
theorem nodup_filenames {directory : Directory} {listing : List Text}
    (listed : List.Perm listing (listFiles directory kSuffix)) : (listing.map filename).Nodup := by
  have perm := (listed.trans (SortedIndex.perm_sort _)).map filename
  rw [perm.nodup_iff, List.map_map]
  have names : forall kept : DirectoryEntry -> Bool,
      (directory.entries.filter kept).map (filename ∘ fun entry => directory.join entry.name) =
        (directory.entries.filter kept).map DirectoryEntry.name := fun kept =>
    List.map_congr_left fun entry member => filename_join directory (directory.bare entry (List.mem_of_mem_filter member))
  rw [names]
  exact directory.distinct.sublist (List.filter_sublist.map _)

/-- A listed file with the canonical name of its cycle is not shadowed. -/
theorem not_shadowed {files : Text -> Option PreadFile} {listing : List Text} {state : ScanState}
    (scanned : ScanState.Scanned files listing state) (distinct : (listing.map filename).Nodup)
    {entry : BfdbEntry} (named : canonical entry = true) : entry ∉ state.discarded := by
  intro shadowed
  rcases scanned.shadow entry shadowed with ⟨found, wins, same, better⟩
  have counts := scanned.once
  have listed : forall path, 0 < (state.best.map BfdbEntry.path).count path + state.skipped.count path +
      (state.discarded.map BfdbEntry.path).count path -> path ∈ listing := by
    intro path counted
    rw [counts, List.count_pos_iff] at counted
    exact List.mem_of_mem_filter counted
  have foundCounted := List.count_pos_iff.mpr (List.mem_map_of_mem (f := BfdbEntry.path) wins)
  have entryCounted := List.count_pos_iff.mpr (List.mem_map_of_mem (f := BfdbEntry.path) shadowed)
  -- Both bear the one canonical name of the cycle, so they are the same file, counted twice.
  have samePath : found.path = entry.path := by
    refine List.inj_on_of_nodup_map distinct (listed _ (by omega)) (listed _ (by omega)) ?_
    rw [beq_iff_eq.mp (better named), beq_iff_eq.mp named, same]
  have twice := counts entry.path
  have once := List.nodup_iff_count_le_one.mp ((distinct.of_map filename).filter fun path => (parseBfdbName path).isSome)
    entry.path
  rw [samePath] at foundCounted
  omega

/-- Whatever the order of the listing, the scan accounts for every candidate. -/
theorem accounts_scanListing {directory : Directory} (files : Text -> Option PreadFile) {listing : List Text}
    (listed : List.Perm listing (listFiles directory kSuffix)) :
    Accounts directory files (scanListing files listing) := by
  have scanned := ScanState.scanned_foldl files listing
  have distinct := nodup_filenames listed
  have perm : List.Perm (scanListing files listing).entries
      (listing.foldl (ScanState.visit files) ScanState.start).best := SortedIndex.perm_sort _
  have counts : forall path, ((scanListing files listing).entries.map BfdbEntry.path).count path +
      (scanListing files listing).skipped.count path +
        ((scanListing files listing).discarded.map BfdbEntry.path).count path =
      (listing.filter fun path => (parseBfdbName path).isSome).count path := by
    intro path
    rw [(perm.map BfdbEntry.path).count_eq]
    exact scanned.once path
  have readable : forall entry, entry ∈ (scanListing files listing).entries ∨
      entry ∈ (scanListing files listing).discarded -> exists header,
        UnifiedCache.readHeader entry.path (files entry.path) = .ok header ∧ header.cycle = entry.cycle :=
    fun entry either => scanned.readable entry (either.imp perm.mem_iff.mp id)
  -- A file whose header is read is an entry or is shadowed, under the cycle of the header.
  have placed : forall path header, directory.Candidate path ->
      UnifiedCache.readHeader path (files path) = .ok header ->
      ⟨path, header.cycle⟩ ∈ (scanListing files listing).entries ∨
        ⟨path, header.cycle⟩ ∈ (scanListing files listing).discarded := by
    intro path header candidate opened
    have counted := List.count_pos_iff.mpr ((mem_candidates_iff listed).mpr candidate)
    rw [← counts] at counted
    have notSkipped : (scanListing files listing).skipped.count path = 0 := by
      refine List.count_eq_zero.mpr fun skipped => ?_
      rcases scanned.unreadable path skipped with ⟨error, failed⟩
      cases opened.symm.trans failed
    have either : path ∈ (scanListing files listing).entries.map BfdbEntry.path ∨
        path ∈ (scanListing files listing).discarded.map BfdbEntry.path := by
      rw [← List.count_pos_iff, ← List.count_pos_iff]
      omega
    have cycles : forall entry : BfdbEntry, (exists other, UnifiedCache.readHeader entry.path (files entry.path) =
        .ok other ∧ other.cycle = entry.cycle) -> entry.path = path -> entry = ⟨path, header.cycle⟩ := by
      rintro ⟨_, cycle⟩ ⟨other, read, same⟩ rfl
      rw [opened, Except.ok.injEq] at read
      rw [read, same]
    rcases either with chosen | lost
    · rcases List.mem_map.mp chosen with ⟨entry, member, same⟩
      exact .inl (cycles entry (readable entry (.inl member)) same ▸ member)
    · rcases List.mem_map.mp lost with ⟨entry, member, same⟩
      exact .inr (cycles entry (readable entry (.inr member)) same ▸ member)
  constructor
  case once =>
    intro path candidate
    rw [counts]
    exact List.count_eq_one_of_mem ((distinct.of_map filename).filter _) ((mem_candidates_iff listed).mpr candidate)
  case none_else =>
    intro path somewhere
    rw [← mem_candidates_iff listed, ← List.count_pos_iff, ← counts]
    rw [← List.count_pos_iff, ← List.count_pos_iff, ← List.count_pos_iff] at somewhere
    omega
  case skipped_iff =>
    intro path candidate
    refine ⟨scanned.unreadable path, fun ⟨error, failed⟩ => ?_⟩
    have counted := List.count_pos_iff.mpr ((mem_candidates_iff listed).mpr candidate)
    rw [← counts] at counted
    have unread : forall entry : BfdbEntry, (entry ∈ (scanListing files listing).entries ∨
        entry ∈ (scanListing files listing).discarded) -> entry.path ≠ path := by
      rintro entry either rfl
      rcases readable entry either with ⟨header, opened, _⟩
      cases opened.symm.trans failed
    have notChosen : ((scanListing files listing).entries.map BfdbEntry.path).count path = 0 :=
      List.count_eq_zero.mpr fun chosen =>
        (List.mem_map.mp chosen).elim fun entry both => unread entry (.inl both.1) both.2
    have notLost : ((scanListing files listing).discarded.map BfdbEntry.path).count path = 0 :=
      List.count_eq_zero.mpr fun lost =>
        (List.mem_map.mp lost).elim fun entry both => unread entry (.inr both.1) both.2
    exact List.count_pos_iff.mp (by omega)
  case header => exact readable
  case ascending => exact (scanListing files listing).sorted
  case one_per_cycle =>
    intro path header candidate opened
    rcases placed path header candidate opened with chosen | lost
    · exact ⟨_, chosen, rfl⟩
    · rcases scanned.shadow _ lost with ⟨found, wins, same, _⟩
      exact ⟨found, perm.mem_iff.mpr wins, same⟩
  case canonical_wins =>
    intro path header candidate opened named
    refine (placed path header candidate opened).resolve_right ?_
    exact not_shadowed scanned distinct (beq_iff_eq.mpr named)
  case find_iff => exact fun cycle entry => BfdbInventory.find_eq_some_iff
  case latest_greatest => exact fun entry => BfdbInventory.latest_greatest
  case latest_none_iff => exact List.getLast?_eq_none_iff

/-- The inventory accounts for every file, whatever the order of the listing, and names are read back. -/
theorem inventory_accounts (files : Text -> Option PreadFile) :
    (forall directory : Directory, exists inventory,
      scan (.ok directory) files = .ok inventory ∧ Accounts directory files inventory) ∧
    (forall (directory : Directory) (listing : List Text), List.Perm listing (listFiles directory kSuffix) ->
      Accounts directory files (scanListing files listing)) ∧
    (forall cycle, parseBfdbName (formatBfdbName cycle) = some cycle) ∧
    forall path digits, filename path = kPrefix ++ digits ++ kSuffix -> 2 ^ 32 ≤ decimalValue digits 0 ->
      parseBfdbName path = none := by
  refine ⟨fun directory => ?_, fun directory listing => accounts_scanListing files, parse_formatBfdbName,
    fun path digits => parseBfdbName_wide⟩
  exact ⟨scanListing files (listFiles directory kSuffix), rfl, accounts_scanListing files (List.Perm.refl _)⟩

/-- The bytes of `nav_1.bfdb`. -/
def strayName : Text := kPrefix ++ [49] ++ kSuffix

/-- A directory in which a cache of cycle 0 was copied under another name. -/
def copiedCache : Directory where
  path := [97]
  entries := [⟨strayName, true⟩, ⟨kLegacyName, true⟩]
  distinct := by decide
  bare := by decide

/-- Some file has a header of cycle 0. -/
theorem exists_cycleZero : exists (file : PreadFile) (header : UnifiedHeader), header.cycle = 0 ∧
    forall path, UnifiedCache.readHeader path (some file) = .ok header := by
  let raw : UnifiedCache.RawHeader := ⟨3, 0, [], [], [], 1, 1, 1, 1, 0, 0, by decide, by decide, by decide⟩
  let table := List.replicate (UnifiedCache.kSectionCount.toNat * UnifiedCache.kSectionRowSize) (0 : UInt8)
  let whole := raw.bytes ++ (table ++ (ByteWriter.u32 (Crc32C.compute (raw.bytes ++ table)) ++ []))
  have length : whole.length = 116 := by
    simp only [whole, List.length_append, UnifiedCache.RawHeader.length_bytes, ByteWriter.length_u32, table,
      List.length_replicate]
    rfl
  refine ⟨⟨whole, by rw [length]; decide⟩, raw.header, rfl, fun path => ?_⟩
  refine UnifiedCache.readHeader_eq_ok_iff.mpr ⟨raw, table, [], rfl, List.length_replicate, ?_⟩
  exact List.take_of_length_le (by rw [length]; decide)

/-- The copy is shadowed by the file with the canonical name, whichever is listed first. -/
theorem inventory_accounts_copied : exists files : Text -> Option PreadFile,
    Accounts copiedCache files (scanListing files [copiedCache.join strayName, copiedCache.join kLegacyName]) ∧
    Accounts copiedCache files (scanListing files [copiedCache.join kLegacyName, copiedCache.join strayName]) ∧
    ⟨copiedCache.join kLegacyName, 0⟩ ∈
      (scanListing files [copiedCache.join strayName, copiedCache.join kLegacyName]).entries ∧
    parseBfdbName (kPrefix ++ [52, 50, 57, 52, 57, 54, 55, 50, 57, 54] ++ kSuffix) = none := by
  rcases exists_cycleZero with ⟨file, header, cycle, opened⟩
  rcases inventory_accounts fun _ => some file with ⟨_, anyOrder, _, wide⟩
  have listed := anyOrder copiedCache [copiedCache.join strayName, copiedCache.join kLegacyName] (by decide)
  refine ⟨fun _ => some file, listed, ?_, ?_, ?_⟩
  · exact anyOrder copiedCache [copiedCache.join kLegacyName, copiedCache.join strayName] (by decide)
  · have chosen := listed.canonical_wins (copiedCache.join kLegacyName) header
      ⟨⟨kLegacyName, true⟩, by decide, rfl, rfl, by decide⟩ (opened _) (by rw [cycle]; decide)
    rwa [cycle] at chosen
  · exact wide _ [52, 50, 57, 52, 57, 54, 55, 50, 57, 54] (by decide) (by decide)

end BravoFinder
