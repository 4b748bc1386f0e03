import BravoFinder.Cache.OpenedSection

namespace BravoFinder

/-!
# What an archive from any bytes keeps to

The parts come together here.  Whatever the bytes of a file, a section that
opens points only at segments of its own, and what is fetched from it is data
that could have been written.
-/

namespace CifpCodec

open Decoder Encoder

theorem writes_serializeLeg (leg : ProcedureLeg) : Writes (serializeLeg leg) := by
  apply Writes.steps
  simp only [List.forall_mem_cons, List.not_mem_nil, false_implies, implies_true, and_true, Writes.ref, Writes.write]

theorem writes_serializeProcedure (procedure : Procedure) : Writes (serializeProcedure procedure) := by
  apply Writes.steps
  simp only [List.forall_mem_cons, List.not_mem_nil, false_implies, implies_true, and_true, Writes.ref, Writes.write,
    Writes.each writes_serializeLeg]

theorem writes_serializeRunway (runway : Runway) : Writes (serializeRunway runway) := by
  apply Writes.steps
  simp only [List.forall_mem_cons, List.not_mem_nil, false_implies, implies_true, and_true, Writes.ref, Writes.write]

theorem writes_serializeSegment (data : CifpData) : Writes (serializeSegment data) := by
  apply Writes.steps
  simp only [List.forall_mem_cons, List.not_mem_nil, false_implies, implies_true, and_true, Writes.write,
    Writes.each writes_serializeProcedure, Writes.each writes_serializeRunway]

/-- The vectors of a segment, decoded or refused, are no longer than its bytes. -/
theorem allocated_decodeSegment (pool bytes : Text) {size : Nat}
    (allocated : size ∈ (decodeSegment pool ⟨bytes, true, true, []⟩).2.allocated) : size ≤ bytes.length := by
  rcases within_decodeSegment pool ⟨bytes, true, true, []⟩ (Nat.le_refl _) with ⟨_, sizes, sized, bounded⟩
  rw [sized, List.nil_append] at allocated
  exact bounded size allocated

/-- A count that is let through is bounded by the bytes that remain. -/
theorem countOf_le {perRecord : Nat} {why : String} {reading after : Reading} {count : UInt32}
    (ran : countOf perRecord why reading = (.ok count, after)) : count.toNat * perRecord ≤ after.remaining := by
  unfold countOf at ran
  rcases bind_eq_ok ran with ⟨count', afterCount, _, ran⟩
  rcases bind_requireOk ran with ⟨_, ran⟩
  rcases bind_fuse ran with ⟨fits, ran⟩
  cases ran
  exact (Nat.mul_le_mul_right perRecord (of_decide_eq_true fits)).trans (Nat.div_mul_le_self _ _)

end CifpCodec

namespace CifpArchive

open Decoder Encoder CifpCodec

/-- What holds of the data of one airport that was fetched. -/
structure FetchedSafely (archive : CifpArchive) (icao : Text) (data : CifpData) : Prop where
  valid : data.Valid
  capped : forall procedure, procedure ∈ data.procedures -> forall leg, leg ∈ procedure.legs ->
    leg.fix.ident.length ≤ FixedIdent.kIdentCap ∧ leg.fix.arinc424IcaoCode.length ≤ FixedIdent.kArinc424IcaoCodeCap
  /-- It was read from a whole segment, which matches its checksum. -/
  segment : exists loc bytes after, archive.find icao = some loc ∧
    archive.file.readAt loc.absOff.toNat loc.len.toNat = some bytes ∧ Crc32C.compute bytes = loc.crc ∧
    decodeSegment archive.pool ⟨bytes, true, true, []⟩ = (.ok data, after) ∧
    after.ok = true ∧ after.refsOk = true ∧ after.rest = []
  serialises : forall pool, exists bytes after, serializeSegment data pool = .ok (bytes, after)
  /-- It is decoded again from what it is written as. -/
  again : forall (pool after : StringPool) (bytes blob : Text), pool.Sound ->
    serializeSegment data pool = .ok (bytes, after) -> after.blob.length < 2 ^ 32 -> after.blob <+: blob ->
      deserializeSegment bytes blob = .ok data

theorem fetchedSafely {archive : CifpArchive} {icao : Text} {data : CifpData}
    (fetched : archive.fetch icao = .ok (some data)) : FetchedSafely archive icao data := by
  rcases of_fetch fetched with ⟨loc, bytes, after, found, read, checked, decoded⟩
  have valid := valid_decodeSegment _ _ _ _ decoded
  constructor
  case valid => exact valid
  case capped => exact fun _ _ leg _ => ⟨leg.fix.ident_length, leg.fix.arinc424IcaoCode_length⟩
  case segment => exact ⟨loc, bytes, after, found, read, checked, decoded, consumed_of_decodeSegment decoded⟩
  case serialises => exact writes_serializeSegment data
  case again =>
    intro pool written body blob sound ran small extended
    exact deserializeSegment_of_serializeSegment valid ran sound small extended

/-- What holds of an archive that was opened, with these rows in its directory. -/
structure SafelyOpened (indexSort : IndexSort) (file : PreadFile) (sectionOffset sectionLength : UInt64)
    (sectionCrc : UInt32) (pool : Text) (archive : CifpArchive) (rows : List DirectoryRow) : Prop where
  opened : OpenedRows indexSort file sectionOffset sectionLength sectionCrc pool archive rows
  /-- The segments lie in the section, behind the directory when they are not empty. -/
  inside : forall entry, entry ∈ archive.index -> sectionOffset.toNat ≤ entry.2.absOff.toNat ∧
    entry.2.absOff.toNat + entry.2.len.toNat ≤ sectionOffset.toNat + sectionLength.toNat ∧
    (0 < entry.2.len -> sectionOffset.toNat + 4 + rows.length * kDirEntrySize ≤ entry.2.absOff.toNat)
  missing : forall icao, archive.fetch icao = .ok none ↔ forall row, row ∈ rows -> resolveRef pool row.icao ≠ some icao
  /-- All airports are fetched when the segment of every row can be. -/
  all : (exists all, archive.fetchAll = .ok all) ↔
    forall entry, entry ∈ archive.index -> exists data, archive.fetchSegment entry.2 entry.1.text = .ok data
  /-- When no airport has two rows, that is when each airport can be fetched. -/
  each : (rows.map fun row => resolveRef pool row.icao).Nodup -> ((exists all, archive.fetchAll = .ok all) ↔
    forall entry, entry ∈ archive.index -> exists data, archive.fetch entry.1.text = .ok (some data))
  same : forall all, archive.fetchAll = .ok all -> forall icao, archive.fetch icao = .ok (all.lookup icao)
  fetched : forall icao data, archive.fetch icao = .ok (some data) -> FetchedSafely archive icao data

/-- A section inside its file opens safely, whatever its bytes are. -/
theorem safelyOpened {indexSort : IndexSort} {file : PreadFile} {sectionOffset sectionLength : UInt64}
    {sectionCrc : UInt32} {pool : Text} {archive : CifpArchive} {rows : List DirectoryRow}
    (inFile : sectionOffset.toNat + sectionLength.toNat ≤ file.size)
    (opened : OpenedRows indexSort file sectionOffset sectionLength sectionCrc pool archive rows) :
    SafelyOpened indexSort file sectionOffset sectionLength sectionCrc pool archive rows := by
  constructor
  case opened => exact opened
  case inside =>
    intro entry member
    rcases exists_row opened member with ⟨row, _, opens⟩
    have fits := opens.inside
    have noWrap : entry.2.absOff.toNat = sectionOffset.toNat + row.segRel.toNat := by
      rw [opens.located, UInt64.toNat_add]
      have short := file.size_lt
      rw [PreadFile.size] at inFile
      exact Nat.mod_eq_of_lt (by omega)
    have len : entry.2.len = row.segLen := by rw [opens.located]
    rw [noWrap, len]
    refine ⟨Nat.le_add_right _ _, by omega, fun positive => ?_⟩
    have behind := opens.behind positive
    rw [directoryPrefixLen, toNat_ofNat_length opened.counted] at behind
    omega
  case missing => exact fetch_eq_none_iff opened
  case all => exact fetchEach_iff archive.index []
  case each =>
    intro distinct
    have distinctIndex := nodup_index opened distinct
    rw [fetchAll, fetchEach_iff]
    refine forall_congr' fun entry => forall_congr' fun member => exists_congr fun data => ?_
    exact (fetch_iff_of_nodup opened distinctIndex member data).symm
  case same => exact fun all fetched => fetch_eq_lookup opened fetched
  case fetched => exact fun icao data => fetchedSafely

/-- Segments are decoded safely from any bytes: what a section that opens gives,
and the vectors that any segment makes the decoder allocate. -/
theorem openSection_safe (indexSort : IndexSort) (file : PreadFile) (sectionOffset sectionLength : UInt64)
    (sectionCrc : UInt32) (pool : Text) (inFile : sectionOffset.toNat + sectionLength.toNat ≤ file.size) :
    (forall archive, openSection indexSort file sectionOffset sectionLength sectionCrc pool = .ok archive ->
      exists rows, SafelyOpened indexSort file sectionOffset sectionLength sectionCrc pool archive rows) ∧
    (forall bytes size, size ∈ (decodeSegment pool ⟨bytes, true, true, []⟩).2.allocated -> size ≤ bytes.length) ∧
    forall perRecord why reading count after, countOf perRecord why reading = (.ok count, after) ->
      count.toNat * perRecord ≤ after.remaining := by
  refine ⟨?_, fun bytes size => allocated_decodeSegment pool bytes, ?_⟩
  · intro archive opened
    rcases openedRows_of_openSection opened with ⟨rows, openedRows⟩
    exact ⟨rows, safelyOpened inFile openedRows⟩
  · exact fun perRecord why reading count after => countOf_le

/-! ## One airport, listed twice -/

/-- `KAAA`. -/
def kaaa : Text := [75, 65, 65, 65]

def oneRunway : CifpData := ⟨[], [⟨kaaa, ⟨⟨0⟩, ⟨0⟩⟩, 0⟩]⟩

/-- The segment of `oneRunway`, with its name at this place of the pool. -/
def oneRunwaySegment (offset : UInt32) : Text :=
  ByteWriter.u32 0 ++ ByteWriter.u32 1 ++ ByteWriter.u32 offset ++ ByteWriter.u32 4 ++ List.replicate 20 0

/-- Two rows for one airport; the second segment is empty, and its checksum wrong. -/
def twiceListed : List DirectoryRow :=
  [⟨⟨0, 4⟩, 52, 36, 627511747⟩, ⟨⟨0, 4⟩, 88, 0, 1⟩]

def twiceListedPrefix : Text := ByteWriter.u32 2 ++ twiceListed.flatMap DirectoryRow.bytes

theorem length_twiceListed : (twiceListedPrefix ++ oneRunwaySegment 0).length = 88 := by
  simp only [twiceListedPrefix, twiceListed, oneRunwaySegment, List.flatMap_cons, List.flatMap_nil, List.length_append,
    ByteWriter.length_u32, DirectoryRow.length_bytes, List.length_replicate]
  rfl

def twiceListedFile : PreadFile :=
  ⟨twiceListedPrefix ++ oneRunwaySegment 0, by rw [length_twiceListed]; decide⟩

/-- What `twiceListedFile` opens to. -/
def twiceListedArchive : CifpArchive :=
  ⟨twiceListedFile, [(⟨kaaa, by decide +kernel⟩, ⟨52, 36, 627511747⟩),
    (⟨kaaa, by decide +kernel⟩, ⟨88, 0, 1⟩)], kaaa⟩

theorem openSection_twiceListed : openSection .stable twiceListedFile 0 88 2053828247
    kaaa = .ok twiceListedArchive := by
  have index : (openSection .stable twiceListedFile 0 88 2053828247
      kaaa).toOption.map CifpArchive.index = some twiceListedArchive.index := by decide +kernel
  rcases opened : openSection .stable twiceListedFile 0 88 2053828247
      kaaa with error | archive
  · rw [opened] at index
    cases index
  · rcases openedRows_of_openSection opened with ⟨rows, kept⟩
    rw [opened] at index
    cases archive
    cases kept.file_eq
    cases kept.pool_eq
    cases index
    rfl

theorem fetch_twiceListed : twiceListedArchive.fetch kaaa = .ok (some oneRunway) := by
  have fetched : (twiceListedArchive.fetch kaaa).toOption = some (some oneRunway) := by decide +kernel
  rcases outcome : twiceListedArchive.fetch kaaa with error | found
  · rw [outcome] at fetched
    cases fetched
  · rw [outcome] at fetched
    cases fetched
    rfl

theorem openSection_safe_twiceListed : (0 : UInt64).toNat + (88 : UInt64).toNat ≤ twiceListedFile.size ∧
    exists rows, SafelyOpened .stable twiceListedFile 0 88 2053828247 kaaa
      twiceListedArchive rows :=
  ⟨by decide, (openSection_safe _ twiceListedFile 0 88 _ kaaa (by decide)).1 _ openSection_twiceListed⟩

/-- The names of a full pool are taken from its front. -/
theorem deserializeSegment_full (rest : Text) (full : UInt32.ofNat (rest.length + 4) = 0) :
    exists bytes after, serializeSegment oneRunway (StringPool.empty.add (0 :: 0 :: 0 :: 0 :: rest)).2 =
      .ok (bytes, after) ∧ deserializeSegment bytes after.blob ≠ .ok oneRunway := by
  let unnamed : CifpData := ⟨[], [⟨[0, 0, 0, 0], ⟨⟨0⟩, ⟨0⟩⟩, 0⟩]⟩
  have valid : unnamed.Valid := ⟨fun _ absurdity => absurd absurdity List.not_mem_nil, by decide, by decide⟩
  have written : serializeSegment unnamed StringPool.empty =
      .ok (oneRunwaySegment 0, ⟨[0, 0, 0, 0], [([0, 0, 0, 0], ⟨0, 4⟩)]⟩) := rfl
  have again : deserializeSegment (oneRunwaySegment 0) (0 :: 0 :: 0 :: 0 :: rest ++ kaaa) = .ok unnamed :=
    deserializeSegment_of_serializeSegment valid written StringPool.sound_empty (by decide)
      ⟨rest ++ kaaa, rfl⟩
  have behind : serializeSegment oneRunway (StringPool.empty.add (0 :: 0 :: 0 :: 0 :: rest)).2 =
      .ok (oneRunwaySegment (UInt32.ofNat (rest.length + 4)), ⟨0 :: 0 :: 0 :: 0 :: rest ++ kaaa,
        [(kaaa, ⟨UInt32.ofNat (rest.length + 4), 4⟩), (0 :: 0 :: 0 :: 0 :: rest,
          ⟨0, UInt32.ofNat (rest.length + 4)⟩)]⟩) := rfl
  refine ⟨_, _, behind, ?_⟩
  rw [full, again]
  exact fun same => absurd (Except.ok.inj same) (by decide)

/-- Fetching one airport reads its first row only, so a second row may be
damaged; and a name behind the first 2^32 bytes of a pool is not found again. -/
theorem not_openSection_safe_twiceListed :
    openSection .stable twiceListedFile 0 88 2053828247 kaaa = .ok twiceListedArchive ∧
    (0 : UInt64).toNat + (88 : UInt64).toNat ≤ twiceListedFile.size ∧
    (¬ ((exists all, twiceListedArchive.fetchAll = .ok all) ↔ forall entry, entry ∈ twiceListedArchive.index ->
      exists data, twiceListedArchive.fetch entry.1.text = .ok (some data))) ∧
    twiceListedArchive.fetch kaaa = .ok (some oneRunway) ∧
    exists s bytes after, serializeSegment oneRunway (StringPool.empty.add s).2 = .ok (bytes, after) ∧
      deserializeSegment bytes after.blob ≠ .ok oneRunway := by
  have failed : twiceListedArchive.fetchAll.toOption = none := by decide +kernel
  refine ⟨openSection_twiceListed, by decide, ?_, fetch_twiceListed, ?_⟩
  · intro same
    have each : forall entry, entry ∈ twiceListedArchive.index ->
        exists data, twiceListedArchive.fetch entry.1.text = .ok (some data) := by
      intro entry member
      have named : entry.1.text = kaaa := by
        simp only [twiceListedArchive, List.mem_cons, List.not_mem_nil, or_false] at member
        rcases member with rfl | rfl <;> rfl
      rw [named]
      exact ⟨oneRunway, fetch_twiceListed⟩
    rcases same.mpr each with ⟨all, fetchedAll⟩
    rw [fetchedAll] at failed
    cases failed
  · have full : UInt32.ofNat ((List.replicate (2 ^ 32 - 4) (0 : UInt8)).length + 4) = 0 := by
      rw [List.length_replicate]
      rfl
    exact ⟨_, deserializeSegment_full _ full⟩

end CifpArchive
end BravoFinder
