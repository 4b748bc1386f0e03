import BravoFinder.Cache.CifpDirectory
import BravoFinder.Cache.Damage

namespace BravoFinder

/-!
# One changed byte in a segment

The segments lie one behind the other, so a changed byte hits one of them.  Its
airport is no longer fetched; every other airport is fetched as before.
-/

namespace CifpCodec

/-! ## The segment that is hit -/

theorem length_segments_cons (row : Row) (rest : List Row) :
    (segments (row :: rest)).length = row.body.length + (segments rest).length := by
  rw [segments, List.flatMap_cons, List.length_append]
  rfl

theorem located_append (sectionOffset : UInt64) (running : Nat) (front behind : List Row) :
    located sectionOffset running (front ++ behind) =
      located sectionOffset running front ++ located sectionOffset (running + (segments front).length) behind := by
  induction front generalizing running with
  | nil => rfl
  | cons row rest inductionHypothesis =>
      have total : running + (segments (row :: rest)).length =
          running + row.body.length + (segments rest).length := by
        rw [length_segments_cons, Nat.add_assoc]
      rw [List.cons_append, located, inductionHypothesis, total]
      rfl

theorem keys_located (sectionOffset : UInt64) (running : Nat) (rows : List Row) :
    (located sectionOffset running rows).map (fun entry => entry.1.text) = rows.map fun row => row.key.text := by
  induction rows generalizing running with
  | nil => rfl
  | cons row rest inductionHypothesis => exact congrArg _ (inductionHypothesis _)

/-- Where an entry of the directory comes from. -/
theorem exists_of_mem_located {sectionOffset : UInt64} {running : Nat} {rows : List Row}
    {entry : FixedName8 × SegmentLoc} (member : entry ∈ located sectionOffset running rows) :
    exists front row behind, rows = front ++ row :: behind ∧
      entry = (row.key, ⟨sectionOffset + UInt64.ofNat (running + (segments front).length),
        UInt32.ofNat row.body.length, Crc32C.compute row.body⟩) := by
  induction rows generalizing running with
  | nil => cases member
  | cons row rest inductionHypothesis =>
      rcases List.mem_cons.mp member with rfl | later
      · exact ⟨[], row, rest, rfl, rfl⟩
      · rcases inductionHypothesis later with ⟨front, found, behind, rfl, rfl⟩
        refine ⟨row :: front, found, behind, rfl, ?_⟩
        rw [length_segments_cons, Nat.add_assoc]

/-- A byte of the segments is a byte of one of them. -/
theorem exists_hit {rows : List Row} {start position : Nat} (after : start ≤ position)
    (before : position < start + (segments rows).length) :
    exists front row behind, rows = front ++ row :: behind ∧ start + (segments front).length ≤ position ∧
      position < start + (segments front).length + row.body.length := by
  induction rows generalizing start with
  | nil => exact absurd before (Nat.not_lt.mpr after)
  | cons row rest inductionHypothesis =>
      by_cases first : position < start + row.body.length
      · exact ⟨[], row, rest, rfl, after, first⟩
      · rw [length_segments_cons] at before
        have later : start + row.body.length ≤ position := by omega
        rcases inductionHypothesis later (by omega) with
          ⟨front, found, behind, rfl, hitAfter, hitBefore⟩
        refine ⟨row :: front, found, behind, rfl, ?_, ?_⟩
        · rw [length_segments_cons]
          omega
        · rw [length_segments_cons]
          omega

/-- Two rows with different keys lie one before the other. -/
theorem apart_of_ne {front behind front' behind' : List Row} {row row' : Row}
    (same : front ++ row :: behind = front' ++ row' :: behind') (different : row.key.text ≠ row'.key.text) :
    (segments front).length + row.body.length ≤ (segments front').length ∨
      (segments front').length + row'.body.length ≤ (segments front).length := by
  have lengths : forall front more : List Row, forall row : Row,
      (segments (front ++ row :: more)).length =
        (segments front).length + row.body.length + (segments more).length := by
    intro front more row
    rw [segments, List.flatMap_append, List.flatMap_cons, List.length_append, List.length_append, ← Nat.add_assoc]
    rfl
  rcases List.append_eq_append_iff.mp same with ⟨more, rfl, rest⟩ | ⟨more, rfl, rest⟩
  · cases more with
    | nil =>
        rw [List.nil_append] at rest
        exact absurd (congrArg (fun row : Row => row.key.text) (List.cons.inj rest).1) different
    | cons first others =>
        rw [List.cons_append] at rest
        rw [← (List.cons.inj rest).1, lengths]
        omega
  · cases more with
    | nil =>
        rw [List.nil_append] at rest
        exact absurd (congrArg (fun row : Row => row.key.text) (List.cons.inj rest).1).symm different
    | cons first others =>
        rw [List.cons_append] at rest
        rw [← (List.cons.inj rest).1, lengths]
        omega

namespace Placed

variable {file : PreadFile} {front behind : Text} {rows : List Row}

/-- Where the segments start. -/
def segmentsStart (front : Text) (rows : List Row) : Nat := front.length + (4 + rows.length * kDirEntrySize)

theorem toNat_absOff (placed : Placed file front rows behind) {before after : List Row} {row : Row}
    (split : rows = before ++ row :: after) :
    (UInt64.ofNat front.length + UInt64.ofNat (4 + rows.length * kDirEntrySize + (segments before).length)).toNat =
      segmentsStart front rows + (segments before).length := by
  have size := placed.size_eq
  have lt : file.size < 2 ^ 64 := file.size_lt
  have part : (segments before).length ≤ (segments rows).length := by
    rw [split, segments, segments, List.flatMap_append, List.length_append]
    omega
  rw [UInt64.toNat_add, placed.toNat_offset, UnifiedCache.toNat_ofNat_u64 (by omega), segmentsStart,
    Nat.mod_eq_of_lt (by omega), ← Nat.add_assoc]

theorem readAt_segment (placed : Placed file front rows behind) {before after : List Row} {row : Row}
    (split : rows = before ++ row :: after) :
    file.readAt (segmentsStart front rows + (segments before).length) row.body.length = some row.body := by
  let directory := ByteWriter.u32 (UInt32.ofNat rows.length) ++
    directory (4 + rows.length * kDirEntrySize) (written rows)
  have whole : file.bytes = (front ++ directory ++ segments before) ++ (row.body ++ (segments after ++ behind)) := by
    have segmentsSplit : segments rows = segments before ++ (row.body ++ segments after) := by
      rw [split, segments, List.flatMap_append, List.flatMap_cons]
      rfl
    rw [placed.bytes_eq, assembleSection_written, segmentsSplit]
    simp only [directory, List.append_assoc]
  have length : (front ++ directory ++ segments before).length =
      segmentsStart front rows + (segments before).length := by
    rw [List.length_append, List.length_append, List.length_append, ByteWriter.length_u32, length_directory, written,
      List.length_map, segmentsStart]
  have read := PreadFile.readAt_append whole
  rw [length] at read
  exact read

end Placed
end CifpCodec

namespace CifpArchive

open CifpCodec UnifiedCache

/-! ## Searching the index -/

theorem exists_of_firstLoc {icao : Text} {index : List (FixedName8 × SegmentLoc)} {loc : SegmentLoc}
    (found : firstLoc icao index = some loc) : exists entry, entry ∈ index ∧ entry.1.text = icao ∧ entry.2 = loc := by
  rcases Option.map_eq_some_iff.mp found with ⟨entry, first, rfl⟩
  have named := List.find?_some first
  exact ⟨entry, List.mem_of_find?_eq_some first, eq_of_beq named, rfl⟩

theorem firstLoc_of_mem {index : List (FixedName8 × SegmentLoc)}
    (nodup : (index.map fun entry => entry.1.text).Nodup) {entry : FixedName8 × SegmentLoc} (member : entry ∈ index) :
    firstLoc entry.1.text index = some entry.2 := by
  have present : (index.find? fun other => other.1.text == entry.1.text).isSome := by
    rw [List.find?_isSome]
    exact ⟨entry, member, beq_self_eq_true _⟩
  rcases Option.isSome_iff_exists.mp present with ⟨other, found⟩
  have named := List.find?_some found
  have same : other = entry :=
    List.inj_on_of_nodup_map nodup (List.mem_of_find?_eq_some found) member (eq_of_beq named)
  rw [firstLoc, found, same]
  rfl

theorem fetchSegment_error {archive : CifpArchive} {loc : SegmentLoc} {airport : Text} {error : Error}
    (fails : archive.fetchSegment loc airport = .error error) : error.code = .kCacheCorrupt := by
  unfold fetchSegment segmentData at fails
  split at fails
  · cases fails
    rfl
  · split at fails
    · cases fails
      rfl
    · split at fails
      · cases fails
        rfl
      · cases fails

/-- When one segment cannot be read, fetching all fails. -/
theorem fetchEach_error {archive : CifpArchive} {index : List (FixedName8 × SegmentLoc)}
    {entry : FixedName8 × SegmentLoc} (member : entry ∈ index) {error : Error}
    (fails : archive.fetchSegment entry.2 entry.1.text = .error error) (out : List (Text × CifpData)) :
    exists error, archive.fetchEach index out = .error error ∧ error.code = .kCacheCorrupt := by
  induction index generalizing out with
  | nil => cases member
  | cons first rest inductionHypothesis =>
      rcases first with ⟨key, loc⟩
      rw [fetchEach]
      cases outcome : archive.fetchSegment loc key.text with
      | error found => exact ⟨found, rfl, fetchSegment_error outcome⟩
      | ok data =>
          rcases List.mem_cons.mp member with rfl | later
          · cases outcome.symm.trans fails
          · exact inductionHypothesis later _

/-- The changed byte is noticed where its segment is fetched, and nowhere else. -/
structure OnlyHit (archive damaged : CifpArchive) (icao : Text) (position : Nat) : Prop where
  /-- The byte is one of the airport's segment. -/
  hit : exists loc, archive.find icao = some loc ∧ inField loc.absOff.toNat loc.len.toNat position
  fetch_hit : exists error, damaged.fetch icao = .error error ∧ error.code = .kCacheCorrupt
  fetch_others : forall other, other ≠ icao -> damaged.fetch other = archive.fetch other
  fetchAll : exists error, damaged.fetchAll = .error error ∧ error.code = .kCacheCorrupt

/-- The archive of a section that was built. -/
def built (indexSort : IndexSort) (file : PreadFile) (front : Text) (rows : List Row) (pool : Text) : CifpArchive :=
  ⟨file, indexSort.sort (located (UInt64.ofNat front.length) (4 + rows.length * kDirEntrySize) rows), pool⟩

section Built

variable {indexSort : IndexSort} {file : PreadFile} {front behind pool : Text} {rows : List Row}

theorem mem_built {entry : FixedName8 × SegmentLoc} : entry ∈ (built indexSort file front rows pool).index ↔
    entry ∈ located (UInt64.ofNat front.length) (4 + rows.length * kDirEntrySize) rows :=
  (indexSort.perm _).mem_iff

theorem nodup_built (nodup : (rows.map fun row => row.key.text).Nodup) :
    ((built indexSort file front rows pool).index.map fun entry => entry.1.text).Nodup := by
  rw [← keys_located (UInt64.ofNat front.length) (4 + rows.length * kDirEntrySize)] at nodup
  exact ((indexSort.perm _).map _).nodup_iff.mpr nodup

theorem find_built {icao : Text} {key : FixedName8} (named : FixedName8.ofText icao = .ok key) :
    (built indexSort file front rows pool).find icao = firstLoc icao (built indexSort file front rows pool).index := by
  have sorted : (built indexSort file front rows pool).Sorted := indexSort.sorted _
  exact find_eq_firstLoc sorted named

/-- Where a changed byte hits a segment that its length field describes, only the
airport of the segment is affected. -/
theorem onlyHit_built {damaged : PreadFile} {position : Nat} (placed : Placed file front rows behind)
    (nodup : (rows.map fun row => row.key.text).Nodup) (damage : Damaged file damaged position)
    (short : forall row, row ∈ rows -> row.body.length < 2 ^ 32)
    (after : Placed.segmentsStart front rows ≤ position)
    (before : position < Placed.segmentsStart front rows + (segments rows).length) :
    exists icao,
      OnlyHit (built indexSort file front rows pool) (built indexSort damaged front rows pool) icao position := by
  rcases exists_hit after before with ⟨earlier, row, later, split, hitAfter, hitBefore⟩
  have listed : row ∈ rows := split ▸ List.mem_append_right earlier List.mem_cons_self
  have length : (UInt32.ofNat row.body.length).toNat = row.body.length := UInt32.toNat_ofNat_of_lt (short row listed)
  have place := placed.toNat_absOff split
  -- The entry of the airport.
  let loc : SegmentLoc := ⟨UInt64.ofNat front.length + UInt64.ofNat (4 + rows.length * kDirEntrySize +
    (segments earlier).length), UInt32.ofNat row.body.length, Crc32C.compute row.body⟩
  have entered : (row.key, loc) ∈ located (UInt64.ofNat front.length) (4 + rows.length * kDirEntrySize) rows := by
    have whole := located_append (UInt64.ofNat front.length) (4 + rows.length * kDirEntrySize) earlier (row :: later)
    rw [← split] at whole
    rw [whole]
    exact List.mem_append_right _ List.mem_cons_self
  have found : forall reader : PreadFile, (built indexSort reader front rows pool).find row.key.text = some loc := by
    intro reader
    rw [find_built (FixedName8.ofText_self row.key)]
    exact firstLoc_of_mem (nodup_built nodup) (mem_built.mpr entered)
  -- Its segment has another checksum now.
  have fails : exists error,
      (built indexSort damaged front rows pool).fetchSegment loc row.key.text = .error error := by
    rcases damage.readAt_inside (placed.readAt_segment split) hitAfter hitBefore with ⟨other, read, different⟩
    have mismatch : Crc32C.compute other ≠ Crc32C.compute row.body := different 0
    refine ⟨badSection (ofString "CIFP segment CRC mismatch for " ++ row.key.text), ?_⟩
    unfold fetchSegment segmentData
    simp only [built, loc, place, length, read, ne_eq, mismatch, not_false_eq_true, if_true]
  rcases fails with ⟨error, fails⟩
  refine ⟨row.key.text, ?_⟩
  constructor
  case hit =>
    refine ⟨loc, found file, ?_⟩
    simp only [inField, loc, place, length]
    exact ⟨hitAfter, hitBefore⟩
  case fetch_hit =>
    refine ⟨error, ?_, fetchSegment_error fails⟩
    unfold fetch
    simp only [found damaged, fails]
  case fetch_others =>
    intro other different
    unfold fetch
    cases named : FixedName8.ofText other with
    | error error =>
        unfold find
        simp only [named]
    | ok key =>
        have same : (built indexSort damaged front rows pool).find other =
            (built indexSort file front rows pool).find other := by
          rw [find_built named, find_built named]
          rfl
        rw [same]
        cases there : (built indexSort file front rows pool).find other with
        | none => rfl
        | some otherLoc =>
            rw [find_built named] at there
            rcases exists_of_firstLoc there with ⟨entry, member, name, rfl⟩
            rcases exists_of_mem_located (mem_built.mp member) with ⟨earlier', row', later', split', rfl⟩
            have apart := apart_of_ne (split.symm.trans split') fun equal => different (name.symm.trans equal.symm)
            have cut : (UInt32.ofNat row'.body.length).toNat ≤ row'.body.length := by
              rw [UInt32.toNat_ofNat']
              exact Nat.mod_le _ _
            have unread : (built indexSort damaged front rows pool).fetchSegment
                ⟨UInt64.ofNat front.length + UInt64.ofNat (4 + rows.length * kDirEntrySize +
                  (segments earlier').length), UInt32.ofNat row'.body.length, Crc32C.compute row'.body⟩ other =
                (built indexSort file front rows pool).fetchSegment ⟨UInt64.ofNat front.length +
                  UInt64.ofNat (4 + rows.length * kDirEntrySize + (segments earlier').length),
                  UInt32.ofNat row'.body.length, Crc32C.compute row'.body⟩ other := by
              simp only [fetchSegment, built, placed.toNat_absOff split']
              rw [damage.readAt_outside (by omega)]
            simp only [unread]
  case fetchAll => exact fetchEach_error (mem_built.mpr entered) fails []

end Built
end CifpArchive
end BravoFinder
