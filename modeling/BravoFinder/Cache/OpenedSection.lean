import BravoFinder.Cache.SegmentSafety

namespace BravoFinder

/-!
# Sections opened from any bytes

Opening reads the rows of the directory, whatever they are, and keeps of each
where its segment lies.  One airport is fetched by the first row of its name in
the sorted index; all of them are fetched when every row can be.
-/

namespace CifpCodec

open Decoder Encoder

/-- A row of the directory, as its bytes give it. -/
structure DirectoryRow where
  icao : StringRef
  segRel : UInt64
  segLen : UInt32
  segCrc : UInt32

def DirectoryRow.bytes (row : DirectoryRow) : Text :=
  ByteWriter.u32 row.icao.offset ++ ByteWriter.u32 row.icao.length ++ ByteWriter.u64 row.segRel ++
    ByteWriter.u32 row.segLen ++ ByteWriter.u32 row.segCrc

theorem DirectoryRow.length_bytes (row : DirectoryRow) : row.bytes.length = kDirEntrySize := by
  simp only [bytes, List.length_append, ByteWriter.length_u32, ByteWriter.length_u64]
  rfl

/-- What a row is read as, and what is checked of it. -/
structure Opens (sectionOffset sectionLength : UInt64) (airportCount : UInt32) (pool : Text) (row : DirectoryRow)
    (entry : FixedName8 × SegmentLoc) : Prop where
  named : resolveRef pool row.icao = some entry.1.text
  located : entry.2 = ⟨sectionOffset + row.segRel, row.segLen, row.segCrc⟩
  inside : row.segRel.toNat + row.segLen.toNat ≤ sectionLength.toNat
  behind : 0 < row.segLen -> directoryPrefixLen airportCount ≤ row.segRel.toNat

section Rows

variable {sectionOffset sectionLength : UInt64} {airportCount : UInt32} {pool : Text}

theorem opens_of_openEntry {reading after : Reading} {entry : FixedName8 × SegmentLoc}
    (ran : openEntry sectionOffset sectionLength airportCount pool reading = (.ok entry, after)) :
    after.ok = true ∧ reading.ok = true ∧ exists row : DirectoryRow, reading.rest = row.bytes ++ after.rest ∧
      Opens sectionOffset sectionLength airportCount pool row entry := by
  unfold openEntry stringRef at ran
  rw [Decoder.bind_assoc] at ran
  rcases ByteReader.consumes_u32.step ran with ⟨offset, afterOffset, ran, backOffset⟩
  rw [Decoder.bind_assoc] at ran
  rcases ByteReader.consumes_u32.step ran with ⟨length, afterLength, ran, backLength⟩
  rw [Decoder.pure_bind] at ran
  rcases ByteReader.consumes_u64.step ran with ⟨segRel, afterRel, ran, backRel⟩
  rcases ByteReader.consumes_u32.step ran with ⟨segLen, afterLen, ran, backLen⟩
  rcases ByteReader.consumes_u32.step ran with ⟨segCrc, afterCrc, ran, backCrc⟩
  rcases bind_requireOk ran with ⟨ok, ran⟩
  rcases bind_ofExcept ran with ⟨icao, resolved, ran⟩
  rcases bind_require ran with ⟨inside, ran⟩
  rcases bind_require ran with ⟨behind, ran⟩
  rcases bind_ofExcept ran with ⟨key, keyed, ran⟩
  cases ran
  rcases backCrc ok with ⟨okLen, restLen⟩
  rcases backLen okLen with ⟨okRel, restRel⟩
  rcases backRel okRel with ⟨okLength, restLength⟩
  rcases backLength okLength with ⟨okOffset, restOffset⟩
  rcases backOffset okOffset with ⟨okStart, restStart⟩
  refine ⟨ok, okStart, ⟨⟨offset, length⟩, segRel, segLen, segCrc⟩, ?_, ?_⟩
  · simp only [restStart, restOffset, restLength, restRel, restLen, DirectoryRow.bytes, List.append_assoc]
  · split at resolved
    · cases resolved
    next found isFound =>
    cases resolved
    split at keyed
    · cases keyed
    next found named =>
    cases keyed
    rw [Bool.not_eq_true', decide_eq_false_iff_not, not_or, UInt64.lt_iff_toNat_lt, not_lt, not_lt] at inside
    rw [Bool.not_eq_true', decide_eq_false_iff_not, not_and, not_lt] at behind
    have fits : segRel.toNat + segLen.toNat ≤ sectionLength.toNat := by omega
    refine ⟨?_, rfl, fits, behind⟩
    rw [isFound, FixedName8.text_of_ofText named]

/-- The rows that the directory gives, one after the other. -/
theorem opens_of_times {count : Nat} {reading after : Reading} {entries : List (FixedName8 × SegmentLoc)}
    (ran : times count (openEntry sectionOffset sectionLength airportCount pool) reading = (.ok entries, after)) :
    exists rows : List DirectoryRow, rows.length = count ∧
      reading.rest = rows.flatMap DirectoryRow.bytes ++ after.rest ∧
      List.Forall₂ (Opens sectionOffset sectionLength airportCount pool) rows entries := by
  induction count generalizing reading entries with
  | zero =>
      cases ran
      exact ⟨[], rfl, rfl, List.Forall₂.nil⟩
  | succ count inductionHypothesis =>
      rcases bind_eq_ok ran with ⟨entry, afterFirst, first, ran⟩
      rcases bind_eq_ok ran with ⟨others, afterOthers, rest, ran⟩
      cases ran
      rcases opens_of_openEntry first with ⟨_, _, row, here, opens⟩
      rcases inductionHypothesis rest with ⟨rows, counted, later, related⟩
      refine ⟨row :: rows, by rw [List.length_cons, counted], ?_, List.Forall₂.cons opens related⟩
      rw [here, later, List.flatMap_cons, List.append_assoc]

/-- A section that was opened: its directory, and the rows that were kept. -/
structure OpenedRows (indexSort : IndexSort) (file : PreadFile) (sectionOffset sectionLength : UInt64)
    (sectionCrc : UInt32) (pool : Text) (archive : CifpArchive) (rows : List DirectoryRow) : Prop where
  /-- The directory is what the section starts with. -/
  directory : file.readAt sectionOffset.toNat 4 = some (ByteWriter.u32 (UInt32.ofNat rows.length)) ∧
    file.readAt (sectionOffset.toNat + 4) (rows.length * kDirEntrySize) = some (rows.flatMap DirectoryRow.bytes)
  checked : Crc32C.compute (ByteWriter.u32 (UInt32.ofNat rows.length) ++ rows.flatMap DirectoryRow.bytes) = sectionCrc
  /-- The directory was found to fit before it was allocated. -/
  fits : 4 + rows.length * kDirEntrySize ≤ sectionLength.toNat
  counted : rows.length < 2 ^ 32
  file_eq : archive.file = file
  pool_eq : archive.pool = pool
  index : exists entries, archive.index = indexSort.sort entries ∧
    List.Forall₂ (Opens sectionOffset sectionLength (UInt32.ofNat rows.length) pool) rows entries

theorem openedRows_of_openSection {indexSort : IndexSort} {file : PreadFile} {sectionCrc : UInt32}
    {archive : CifpArchive}
    (opened : openSection indexSort file sectionOffset sectionLength sectionCrc pool = .ok archive) :
    exists rows, OpenedRows indexSort file sectionOffset sectionLength sectionCrc pool archive rows := by
  unfold openSection at opened
  split at opened
  · cases opened
  next long =>
  split at opened
  · cases opened
  next countBuf readCount =>
  dsimp only at opened
  split at opened
  · cases opened
  next enough =>
  split at opened
  · cases opened
  next dir readDir =>
  split at opened
  · cases opened
  next checked =>
  split at opened
  · cases opened
  next entries ran =>
  cases opened
  rcases outcome : times (UInt32.ofNat (leNat countBuf)).toNat (openEntry sectionOffset sectionLength
      (UInt32.ofNat (leNat countBuf)) pool) ⟨dir, true, true, []⟩ with ⟨result, after⟩
  rw [outcome] at ran
  simp only at ran
  subst ran
  rcases opens_of_times outcome with ⟨rows, counted, whole, related⟩
  simp only at whole
  have countBytes := PreadFile.length_of_readAt readCount
  have count : UInt32.ofNat rows.length = UInt32.ofNat (leNat countBuf) := by rw [counted, UInt32.ofNat_toNat]
  have rest : dir = rows.flatMap DirectoryRow.bytes := by
    have length : dir.length = (rows.flatMap DirectoryRow.bytes).length := by
      rw [PreadFile.length_of_readAt readDir, List.length_flatMap, ← counted,
        List.map_congr_left fun row _ => row.length_bytes, List.map_const', List.sum_replicate_nat]
    rw [whole, List.length_append] at length
    rw [whole, List.eq_nil_of_length_eq_zero (Nat.add_eq_left.mp length), List.append_nil]
  have countBuf_eq : ByteWriter.u32 (UInt32.ofNat rows.length) = countBuf := by
    rw [count, ByteWriter.u32_leNat countBytes]
  refine ⟨rows, ⟨?_, ?_⟩, ?_, ?_, ?_, rfl, rfl, entries, rfl, ?_⟩
  · rw [countBuf_eq, readCount]
  · rw [counted, readDir, rest]
  · rw [countBuf_eq, ← rest, Crc32C.compute, ← Crc32C.update_append]
    exact not_not.mp checked
  · have four : (4 : UInt64).toNat = 4 := rfl
    rw [UInt64.lt_iff_toNat_lt, four, not_lt] at long
    rw [not_lt, ← counted, kDirEntrySize] at enough
    rw [kDirEntrySize]
    omega
  · rw [counted]
    exact (UInt32.ofNat (leNat countBuf)).toNat_lt
  · rw [count]
    exact related

end Rows

end CifpCodec

namespace CifpArchive

open Decoder Encoder CifpCodec

section Opened

variable {indexSort : IndexSort} {file : PreadFile} {sectionOffset sectionLength : UInt64} {sectionCrc : UInt32}
  {pool : Text} {archive : CifpArchive} {rows : List DirectoryRow}

/-- Every entry of the index is a row of the directory. -/
theorem exists_row (opened : OpenedRows indexSort file sectionOffset sectionLength sectionCrc pool archive rows)
    {entry : FixedName8 × SegmentLoc} (member : entry ∈ archive.index) : exists row, row ∈ rows ∧
      Opens sectionOffset sectionLength (UInt32.ofNat rows.length) pool row entry := by
  rcases opened.index with ⟨entries, sorted, related⟩
  rw [sorted, (indexSort.perm _).mem_iff] at member
  rcases List.forall₂_iff_zip.mp related with ⟨lengths, pairs⟩
  rcases List.mem_iff_getElem.mp member with ⟨place, inRange, rfl⟩
  have inRows : place < rows.length := lengths ▸ inRange
  refine ⟨rows[place], List.getElem_mem inRows, pairs ?_⟩
  rw [List.mem_iff_getElem]
  exact ⟨place, by rw [List.length_zip]; omega, List.getElem_zip⟩

/-- Every row of the directory is in the index. -/
theorem exists_entry (opened : OpenedRows indexSort file sectionOffset sectionLength sectionCrc pool archive rows)
    {row : DirectoryRow} (member : row ∈ rows) : exists entry, entry ∈ archive.index ∧
      Opens sectionOffset sectionLength (UInt32.ofNat rows.length) pool row entry := by
  rcases opened.index with ⟨entries, sorted, related⟩
  rcases List.forall₂_iff_zip.mp related with ⟨lengths, pairs⟩
  rcases List.mem_iff_getElem.mp member with ⟨place, inRange, rfl⟩
  have inEntries : place < entries.length := lengths ▸ inRange
  refine ⟨entries[place], ?_, pairs ?_⟩
  · rw [sorted, (indexSort.perm _).mem_iff]
    exact List.getElem_mem inEntries
  · rw [List.mem_iff_getElem]
    exact ⟨place, by rw [List.length_zip]; omega, List.getElem_zip⟩

theorem sorted_of_opened (opened : OpenedRows indexSort file sectionOffset sectionLength sectionCrc pool archive rows) :
    archive.Sorted := by
  rcases opened.index with ⟨entries, sorted, _⟩
  rw [Sorted, sorted]
  exact indexSort.sorted entries

/-- The names in the index are distinct when those of the rows are. -/
theorem nodup_index (opened : OpenedRows indexSort file sectionOffset sectionLength sectionCrc pool archive rows)
    (distinct : (rows.map fun row => resolveRef pool row.icao).Nodup) :
    (archive.index.map fun entry => entry.1.text).Nodup := by
  rcases opened.index with ⟨entries, sorted, related⟩
  have same : (rows.map fun row => resolveRef pool row.icao) =
      (entries.map fun entry => entry.1.text).map some := by
    rw [List.map_map]
    clear sorted distinct opened
    generalize UInt32.ofNat rows.length = count at related
    induction related with
    | nil => rfl
    | cons opens _ inductionHypothesis => rw [List.map_cons, List.map_cons, opens.named, inductionHypothesis]; rfl
  rw [same] at distinct
  rw [sorted, ((indexSort.perm _).map _).nodup_iff]
  exact distinct.of_map some

/-! ## One airport -/

theorem fetch_eq_none_iff_find (icao : Text) : archive.fetch icao = .ok none ↔ archive.find icao = none := by
  rw [fetch]
  split
  next missing => exact iff_of_true rfl missing
  next loc found =>
    rw [found]
    split
    · exact iff_of_false (by simp) (by simp)
    · exact iff_of_false (by simp) (by simp)

theorem firstLoc_eq_none_iff (icao : Text) (index : List (FixedName8 × SegmentLoc)) :
    firstLoc icao index = none ↔ forall entry, entry ∈ index -> entry.1.text ≠ icao := by
  rw [firstLoc, Option.map_eq_none_iff, List.find?_eq_none]
  simp only [beq_iff_eq]

/-- An airport is missing when no row of the directory resolves to it. -/
theorem fetch_eq_none_iff (opened : OpenedRows indexSort file sectionOffset sectionLength sectionCrc pool archive rows)
    (icao : Text) :
    archive.fetch icao = .ok none ↔ forall row, row ∈ rows -> resolveRef pool row.icao ≠ some icao := by
  have unnamed : (forall entry, entry ∈ archive.index -> entry.1.text ≠ icao) ↔
      forall row, row ∈ rows -> resolveRef pool row.icao ≠ some icao := by
    constructor
    · intro absent row member resolved
      rcases exists_entry opened member with ⟨entry, inIndex, opens⟩
      exact absent entry inIndex (Option.some.inj (opens.named.symm.trans resolved))
    · rintro absent entry member rfl
      rcases exists_row opened member with ⟨row, inRows, opens⟩
      exact absent row inRows opens.named
  rw [fetch_eq_none_iff_find, ← unnamed]
  rcases named : FixedName8.ofText icao with error | key
  · have missing : archive.find icao = none := by rw [find, named]
    refine iff_of_true missing ?_
    rintro entry _ rfl
    rw [FixedName8.ofText_self] at named
    cases named
  · rw [find_eq_firstLoc (sorted_of_opened opened) named, firstLoc_eq_none_iff]

/-! ## All airports -/

/-- All are fetched when every segment can be. -/
theorem fetchEach_iff (index : List (FixedName8 × SegmentLoc)) (out : List (Text × CifpData)) :
    (exists all, archive.fetchEach index out = .ok all) ↔ forall entry, entry ∈ index ->
      exists data, archive.fetchSegment entry.2 entry.1.text = .ok data := by
  induction index generalizing out with
  | nil => exact iff_of_true ⟨out, rfl⟩ fun _ absurdity => absurd absurdity List.not_mem_nil
  | cons entry rest inductionHypothesis =>
      rw [List.forall_mem_cons, fetchEach]
      split
      next error failed =>
        refine iff_of_false ?_ ?_
        · rintro ⟨all, absurdity⟩
          cases absurdity
        · rintro ⟨⟨data, read⟩, _⟩
          rw [failed] at read
          cases read
      next data read => rw [inductionHypothesis, and_iff_right ⟨data, read⟩]

theorem firstLoc_of_nodup {index : List (FixedName8 × SegmentLoc)}
    (distinct : (index.map fun entry => entry.1.text).Nodup) {entry : FixedName8 × SegmentLoc} (member : entry ∈ index) :
    firstLoc entry.1.text index = some entry.2 := by
  rcases first : index.find? (fun other => other.1.text == entry.1.text) with _ | other
  · exact absurd (beq_self_eq_true _) (List.find?_eq_none.mp first entry member)
  · have sameName := beq_iff_eq.mp
      (List.find?_some (p := fun other : FixedName8 × SegmentLoc => other.1.text == entry.1.text) first)
    have same := List.inj_on_of_nodup_map distinct (List.mem_of_find?_eq_some first) member sameName
    rw [firstLoc, first, same]
    rfl

/-- An airport that is listed once is fetched from its own segment. -/
theorem fetch_iff_of_nodup (opened : OpenedRows indexSort file sectionOffset sectionLength sectionCrc pool archive rows)
    (distinct : (archive.index.map fun entry => entry.1.text).Nodup) {entry : FixedName8 × SegmentLoc}
    (member : entry ∈ archive.index) (data : CifpData) :
    archive.fetch entry.1.text = .ok (some data) ↔ archive.fetchSegment entry.2 entry.1.text = .ok data := by
  have found : archive.find entry.1.text = some entry.2 := by
    rw [find_eq_firstLoc (sorted_of_opened opened) (FixedName8.ofText_self entry.1), firstLoc_of_nodup distinct member]
  rw [fetch, found]
  simp only
  cases archive.fetchSegment entry.2 entry.1.text <;> simp

/-- When all airports are fetched, each is fetched to the same data. -/
theorem fetch_eq_lookup (opened : OpenedRows indexSort file sectionOffset sectionLength sectionCrc pool archive rows)
    {all : List (Text × CifpData)} (fetched : archive.fetchAll = .ok all) (icao : Text) :
    archive.fetch icao = .ok (all.lookup icao) := by
  rcases named : FixedName8.ofText icao with error | key
  · have absent : firstLoc icao archive.index = none := by
      rw [firstLoc_eq_none_iff]
      rintro entry _ rfl
      rw [FixedName8.ofText_self] at named
      cases named
    have missing : archive.find icao = none := by rw [find, named]
    rw [(lookup_fetchEach fetched icao).1 absent, (fetch_eq_none_iff_find icao).mpr missing]
    rfl
  · exact fetch_of_fetchAll (sorted_of_opened opened) fetched named

/-- What was fetched came from a segment that matches its checksum and was read whole. -/
theorem of_fetch {icao : Text} {data : CifpData} (fetched : archive.fetch icao = .ok (some data)) :
    exists loc bytes after, archive.find icao = some loc ∧
      archive.file.readAt loc.absOff.toNat loc.len.toNat = some bytes ∧ Crc32C.compute bytes = loc.crc ∧
      decodeSegment archive.pool ⟨bytes, true, true, []⟩ = (.ok data, after) := by
  rw [fetch] at fetched
  split at fetched
  · cases fetched
  next loc found =>
  split at fetched
  · cases fetched
  next data' read =>
  cases fetched
  unfold fetchSegment segmentData at read
  split at read
  · cases read
  next bytes hasBytes =>
  split at read
  · cases read
  next checked =>
  split at read
  · cases read
  next data'' decoded =>
  cases read
  rw [deserializeSegment] at decoded
  rcases outcome : decodeSegment archive.pool ⟨bytes, true, true, []⟩ with ⟨result, after⟩
  rw [outcome] at decoded
  simp only at decoded
  subst decoded
  exact ⟨loc, bytes, after, found, hasBytes, not_not.mp checked, outcome⟩

end Opened

end CifpArchive
end BravoFinder
