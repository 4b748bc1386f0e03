import BravoFinder.Cache.UnifiedCache

namespace BravoFinder

/-!
# Fetching one airport and fetching all

The index of an archive that was opened is sorted, so the search for an airport
finds the first entry of its name.  Fetching all keeps the first entry of each
name too, so both give the same data, even where a forged directory lists a name
twice.
-/

namespace CifpArchive

/-- The index ascends. -/
def Sorted (archive : CifpArchive) : Prop :=
  archive.index.Pairwise fun a b => ¬ b.1.text < a.1.text

variable {indexSort : CifpCodec.IndexSort}

theorem sorted_of_openSection {file : PreadFile} {off len : UInt64} {crc : UInt32} {pool : Text}
    {archive : CifpArchive} (opened : CifpCodec.openSection indexSort file off len crc pool = .ok archive) :
    archive.Sorted := by
  unfold CifpCodec.openSection at opened
  split at opened
  · cases opened
  split at opened
  · cases opened
  dsimp only at opened
  split at opened
  · cases opened
  split at opened
  · cases opened
  split at opened
  · cases opened
  split at opened
  · cases opened
  cases opened
  exact indexSort.sorted _

/-- The first entry of a name. -/
def firstLoc (icao : Text) (index : List (FixedName8 × SegmentLoc)) : Option SegmentLoc :=
  (index.find? fun entry => entry.1.text == icao).map Prod.snd

theorem find_eq_firstLoc {archive : CifpArchive} (sorted : archive.Sorted) {icao : Text} {key : FixedName8}
    (named : FixedName8.ofText icao = .ok key) : archive.find icao = firstLoc icao archive.index := by
  have text := FixedName8.text_of_ofText named
  unfold find
  rw [named]
  unfold Sorted at sorted
  simp only [lowerBound, firstLoc]
  generalize archive.index = index at sorted
  induction index with
  | nil => rfl
  | cons first rest inductionHypothesis =>
      rcases List.pairwise_cons.mp sorted with ⟨above, sortedRest⟩
      have same : first.1 = key ↔ first.1.text = icao := by
        rw [← text]
        constructor
        · exact congrArg FixedName8.text
        · intro equal
          cases firstKey : first.1
          cases key
          simp only [firstKey] at equal
          simp only [equal]
      by_cases before : first.1.text < key.text
      · have different : (first.1.text == icao) = false := by
          apply beq_eq_false_iff_ne.mpr
          intro equal
          rw [equal, text] at before
          exact List.lt_irrefl _ before
        simp only [List.dropWhile_cons, decide_eq_true before, if_true, List.find?_cons, different]
        exact inductionHypothesis sortedRest
      · by_cases equal : first.1.text = icao
        · simp only [List.dropWhile_cons, decide_eq_false before, Bool.false_eq_true, if_false, List.find?_cons,
            beq_iff_eq.mpr equal, List.head?_cons, if_pos (same.mpr equal), Option.map_some]
        · -- The entries after the first are later still.
          have missing : (first :: rest).find? (fun entry => entry.1.text == icao) = none := by
            apply List.find?_eq_none.mpr
            intro entry member
            simp only [beq_iff_eq]
            intro named
            rcases List.mem_cons.mp member with rfl | later
            · exact equal named
            · rw [← text] at named
              have reversed := above entry later
              rw [named] at reversed
              have least : first.1.text = key.text := List.le_antisymm reversed before
              exact equal (least.trans text)
          simp only [missing, List.dropWhile_cons, decide_eq_false before, Bool.false_eq_true, if_false,
            List.head?_cons, if_neg fun found => equal (same.mp found), Option.map_none]

theorem lookup_emplace (out : List (Text × CifpData)) (name icao : Text) (data : CifpData) :
    (emplace out name data).lookup icao =
      (out.lookup icao).or (if icao == name then some data else none) := by
  unfold emplace
  split
  · rename_i there
    by_cases same : icao = name
    · rw [same]
      rcases Option.isSome_iff_exists.mp there with ⟨found, lookup⟩
      rw [lookup]
      rfl
    · rw [if_neg (by simpa using same), Option.or_none]
  · rw [List.lookup_append, List.lookup_cons, List.lookup_nil]
    cases icao == name <;> rfl

theorem lookup_fetchEach {archive : CifpArchive} {index : List (FixedName8 × SegmentLoc)}
    {out all : List (Text × CifpData)} (fetched : archive.fetchEach index out = .ok all) (icao : Text) :
    (firstLoc icao index = none -> all.lookup icao = out.lookup icao) ∧
    forall loc, firstLoc icao index = some loc -> exists data, archive.fetchSegment loc icao = .ok data ∧
      all.lookup icao = (out.lookup icao).or (some data) := by
  induction index generalizing out with
  | nil =>
      cases fetched
      exact ⟨fun _ => rfl, fun _ absurd => by cases absurd⟩
  | cons entry rest inductionHypothesis =>
      rcases entry with ⟨key, loc⟩
      unfold fetchEach at fetched
      split at fetched
      · cases fetched
      rename_i data read
      rcases inductionHypothesis fetched with ⟨missing, found⟩
      rw [lookup_emplace] at missing found
      by_cases named : key.text = icao
      · subst named
        have first : firstLoc key.text ((key, loc) :: rest) = some loc := by
          simp only [firstLoc, List.find?_cons, beq_self_eq_true, Option.map_some]
        rw [if_pos (beq_self_eq_true _)] at missing found
        rw [first]
        constructor
        · intro absurd
          cases absurd
        · rintro _ ⟨⟩
          refine ⟨data, read, ?_⟩
          cases later : firstLoc key.text rest with
          | none => exact missing later
          | some another =>
              rcases found another later with ⟨_, _, same⟩
              rw [same, Option.or_assoc]
              rfl
      · have different : (icao == key.text) = false := beq_eq_false_iff_ne.mpr fun same => named same.symm
        have skipped : (key.text == icao) = false := beq_eq_false_iff_ne.mpr named
        have others : firstLoc icao ((key, loc) :: rest) = firstLoc icao rest := by
          simp only [firstLoc, List.find?_cons, skipped]
        rw [different, if_neg Bool.false_ne_true, Option.or_none] at missing found
        rw [others]
        exact ⟨missing, found⟩

/-- When all airports are fetched, each is fetched to the same data. -/
theorem fetch_of_fetchAll {archive : CifpArchive} (sorted : archive.Sorted) {all : List (Text × CifpData)}
    (fetched : archive.fetchAll = .ok all) {icao : Text} {key : FixedName8}
    (named : FixedName8.ofText icao = .ok key) : archive.fetch icao = .ok (all.lookup icao) := by
  rcases lookup_fetchEach fetched icao with ⟨missing, found⟩
  unfold fetch
  rw [find_eq_firstLoc sorted named]
  cases first : firstLoc icao archive.index with
  | none =>
      rw [missing first]
      rfl
  | some loc =>
      rcases found loc first with ⟨data, read, same⟩
      rw [same]
      simp only [read]
      rfl

end CifpArchive

namespace UnifiedCache

/-- An archive that was opened with its file is sorted. -/
theorem sorted_of_openFile {indexSort : CifpCodec.IndexSort} {path : Text} {opened : Option PreadFile}
    {data : UnifiedData} {archive : CifpArchive}
    (ran : openFile indexSort path opened = .ok data) (there : data.cifp = some archive) : archive.Sorted := by
  have opensCifp : exists file row pool, openCifp indexSort file row pool = .ok data.cifp := by
    unfold openFile at ran
    split at ran
    · cases ran
    split at ran
    · cases ran
    split at ran
    · cases ran
    unfold openSections at ran
    split at ran
    · cases ran
    split at ran
    · cases ran
    split at ran
    · cases ran
    split at ran
    · cases ran
    split at ran
    · cases ran
    rename_i cifp opensCifp
    cases ran
    exact ⟨_, _, _, opensCifp⟩
  rcases opensCifp with ⟨file, row, pool, opens⟩
  rw [there, openCifp] at opens
  split at opens
  · cases opens
  rename_i row _
  generalize section_ : CifpCodec.openSection indexSort file row.off row.len row.crc pool = outcome at opens
  cases outcome with
  | error error => cases opens
  | ok found =>
      cases opens
      exact CifpArchive.sorted_of_openSection section_

end UnifiedCache
end BravoFinder
