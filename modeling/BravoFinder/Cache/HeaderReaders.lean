import BravoFinder.Cache.ContainerBuild

namespace BravoFinder

/-!
# Two readers of one header

Opening walks the header through the file, and the catalogue reads it from the
first `kMaxHeaderPrefix` bytes.  What both read is the same.  The catalogue
refuses a file that opens when its header, table and checksum end beyond those
bytes, and only then.
-/

namespace UnifiedCache

open Decoder

/-! ## Reading the header alone -/

theorem raw_of_parseHeader {buf : Text} {header : UnifiedHeader} (magic : buf.take 4 = kMagic)
    (read : (parseHeader buf ⟨buf.drop 4, true, true, []⟩).1 = .ok header) :
    exists (raw : RawHeader) (table tail : Text), header = raw.header ∧
      table.length = kSectionCount.toNat * kSectionRowSize ∧
      buf = raw.bytes ++ (table ++ (ByteWriter.u32 (Crc32C.compute (raw.bytes ++ table)) ++ tail)) := by
  generalize ran : parseHeader buf ⟨buf.drop 4, true, true, []⟩ = outcome at read
  rcases outcome with ⟨result, final⟩
  cases read
  rcases bind_eq_ok ran with ⟨found, afterFields, ranFields, ran⟩
  rcases bind_eq_ok ran with ⟨_, afterCheck, ranCheck, finished⟩
  cases finished
  rcases bind_eq_ok ranCheck with ⟨left, afterLeft, ranLeft, ranCheck⟩
  cases ranLeft
  rcases ByteReader.consumes_u32.step ranCheck with ⟨storedCrc, afterCrc, ranCheck, backCrc⟩
  rcases bind_requireOk ranCheck with ⟨okCrc, ranCheck⟩
  have holds := Ensures.require _ _ _ _ _ ranCheck
  rcases backCrc okCrc with ⟨okFields, crcBytes⟩
  rcases raw_of_readHeaderFields ranFields okFields with ⟨raw, table, same, length, fieldBytes⟩
  have whole : buf = raw.bytes ++ (table ++ afterFields.rest) := by
    rw [← fieldBytes, ← magic, List.take_append_drop]
  have covered : buf.take (buf.length - afterFields.remaining) = raw.bytes ++ table := by
    have length : buf.length - afterFields.remaining = (raw.bytes ++ table).length := by
      rw [Reading.remaining, if_pos okFields, whole]
      simp only [List.length_append]
      omega
    rw [length, whole, ← List.append_assoc, List.take_left]
  refine ⟨raw, table, afterCrc.rest, same, length, ?_⟩
  rw [← covered, eq_of_beq holds, ← crcBytes]
  exact whole

theorem parseHeader_of_raw (raw : RawHeader) {buf table tail : Text}
    (length : table.length = kSectionCount.toNat * kSectionRowSize)
    (whole : buf = raw.bytes ++ (table ++ (ByteWriter.u32 (Crc32C.compute (raw.bytes ++ table)) ++ tail))) :
    (parseHeader buf ⟨buf.drop 4, true, true, []⟩).1 = .ok raw.header := by
  let crc := Crc32C.compute (raw.bytes ++ table)
  rcases reads_readHeaderFields raw length (ByteWriter.u32 crc ++ tail) [] with ⟨first, ranFields⟩
  rcases ByteReader.reads_u32 (E := Error) crc tail first with ⟨second, ranCrc⟩
  have start : buf.drop 4 = ByteWriter.u32 kFormatVersion ++ raw.tailBytes ++ table ++ (ByteWriter.u32 crc ++ tail) := by
    have noMore : kMagic.drop 4 = [] := rfl
    rw [whole, RawHeader.bytes, List.append_assoc kMagic, List.drop_append_of_le_length (Nat.le_refl 4), noMore,
      List.nil_append]
    simp only [crc, List.append_assoc]
    rfl
  have ranLeft : remaining (E := Error) ⟨ByteWriter.u32 crc ++ tail, true, true, first⟩ =
      (.ok (ByteWriter.u32 crc ++ tail).length, ⟨ByteWriter.u32 crc ++ tail, true, true, first⟩) := rfl
  have covered : buf.take (buf.length - (ByteWriter.u32 crc ++ tail).length) = raw.bytes ++ table := by
    have length : buf.length - (ByteWriter.u32 crc ++ tail).length = (raw.bytes ++ table).length := by
      rw [whole]
      simp only [crc, List.length_append]
      omega
    rw [length, whole, ← List.append_assoc, List.take_left]
  have ranCheck : checkHeaderCrc buf ⟨ByteWriter.u32 crc ++ tail, true, true, first⟩ =
      (.ok (), ⟨tail, true, true, second⟩) := by
    rw [checkHeaderCrc, bind_of_ok ranLeft, bind_of_ok ranCrc, covered]
    simp only [requireOk, require, bind_eq, crc, beq_self_eq_true, if_true]
  rw [start, parseHeader, bind_of_ok ranFields, bind_of_ok ranCheck]
  rfl

/-- The catalogue reads exactly the headers that end within its bytes. -/
theorem readHeader_eq_ok_iff {path : Text} {file : PreadFile} {header : UnifiedHeader} :
    readHeader path (some file) = .ok header ↔ exists (raw : RawHeader) (table tail : Text),
      header = raw.header ∧ table.length = kSectionCount.toNat * kSectionRowSize ∧
      file.bytes.take kMaxHeaderPrefix =
        raw.bytes ++ (table ++ (ByteWriter.u32 (Crc32C.compute (raw.bytes ++ table)) ++ tail)) := by
  have prefixRead : file.readAt 0 (min file.size kMaxHeaderPrefix) = some (file.bytes.take kMaxHeaderPrefix) := by
    have same : file.bytes.take kMaxHeaderPrefix = file.bytes.take (min file.size kMaxHeaderPrefix) := by
      rw [List.take_eq_take_min, Nat.min_comm]
      rfl
    rw [PreadFile.readAt_of_le (by omega), List.drop_zero, same]
  constructor
  · intro read
    rw [readHeader] at read
    simp only [prefixRead] at read
    split at read
    · cases read
    split at read
    · cases read
    rename_i magic
    exact raw_of_parseHeader (not_not.mp magic) read
  · rintro ⟨raw, table, tail, rfl, length, whole⟩
    have long : ¬ (file.bytes.take kMaxHeaderPrefix).length < 4 := by
      rw [whole, List.length_append, RawHeader.length_bytes]
      omega
    have magic : (file.bytes.take kMaxHeaderPrefix).take 4 = kMagic := by
      rw [whole, RawHeader.bytes, List.append_assoc]
      exact List.take_left' rfl
    rw [readHeader]
    simp only [prefixRead, long, if_false, magic, ne_eq, not_true_eq_false]
    exact parseHeader_of_raw raw length whole

/-! ## Where the header ends -/

/-- The length field of a string. -/
def lengthAt (bytes : Text) (offset : Nat) : Nat := leNat ((bytes.drop offset).take 4)

/-- Where the three length fields lie.  Each string moves the next one. -/
def programVersionAt : Nat := 16

def sourceLoaderAt (bytes : Text) : Nat := programVersionAt + 4 + lengthAt bytes programVersionAt

def dataDirAt (bytes : Text) : Nat := sourceLoaderAt bytes + 4 + lengthAt bytes (sourceLoaderAt bytes)

/-- Where the fixed header ends: after the last string come four capabilities,
and the length and checksum of the pool. -/
def fixedHeaderEnd (bytes : Text) : Nat := dataDirAt bytes + 4 + lengthAt bytes (dataDirAt bytes) + 12

/-- Where the table and the checksum of the header end. -/
def headerEnd (bytes : Text) : Nat :=
  fixedHeaderEnd bytes + kSectionCount.toNat * kSectionRowSize + kHeaderCrcSize

theorem lengthAt_append {bytes front back s : Text} {offset : Nat} (short : s.length < 2 ^ 32)
    (whole : bytes = front ++ (strBytes s ++ back)) (start : offset = front.length) :
    lengthAt bytes offset = s.length := by
  have fits : (UInt32.ofNat s.length).toNat < 256 ^ 4 := (UInt32.ofNat s.length).toNat_lt
  have same : (UInt32.ofNat s.length).toNat = s.length := UInt32.toNat_ofNat_of_lt short
  rw [lengthAt, whole, start, List.drop_left, strBytes, List.append_assoc,
    List.take_left' (ByteWriter.length_u32 _), ByteWriter.u32, leNat_leBytes_of_lt fits, same]

@[simp] theorem length_strBytes (s : Text) : (strBytes s).length = 4 + s.length := by
  rw [strBytes, List.length_append, ByteWriter.length_u32]

/-- The header ends where its bytes do. -/
theorem fixedHeaderEnd_of_raw {bytes tail : Text} (raw : RawHeader) (whole : bytes = raw.bytes ++ tail) :
    fixedHeaderEnd bytes = raw.bytes.length := by
  let front := kMagic ++ (ByteWriter.u32 kFormatVersion ++ (ByteWriter.u32 raw.sectionCount ++
    ByteWriter.u32 raw.cycle))
  let behind := ByteWriter.u8 raw.airwayDirection ++ (ByteWriter.u8 raw.altitudeBands ++
    (ByteWriter.u8 raw.moraGrid ++ (ByteWriter.u8 raw.msaSectors ++ (ByteWriter.u32 raw.poolLen ++
    ByteWriter.u32 raw.poolCrc)))) ++ tail
  have first : bytes = front ++ (strBytes raw.programVersion ++
      (strBytes raw.sourceLoader ++ (strBytes raw.dataDir ++ behind))) := by
    rw [whole]
    simp only [RawHeader.bytes, RawHeader.tailBytes, front, behind, List.append_assoc]
  have second : bytes = (front ++ strBytes raw.programVersion) ++ (strBytes raw.sourceLoader ++
      (strBytes raw.dataDir ++ behind)) := by rw [first, ← List.append_assoc]
  have third : bytes = (front ++ strBytes raw.programVersion ++ strBytes raw.sourceLoader) ++
      (strBytes raw.dataDir ++ behind) := by rw [second, ← List.append_assoc]
  have frontLength : front.length = programVersionAt := rfl
  have firstLength := lengthAt_append raw.programVersion_lt first frontLength.symm
  have sourceAt : sourceLoaderAt bytes = (front ++ strBytes raw.programVersion).length := by
    rw [sourceLoaderAt, firstLength, List.length_append, frontLength, length_strBytes, Nat.add_assoc]
  have secondLength := lengthAt_append raw.sourceLoader_lt second sourceAt
  have dataAt : dataDirAt bytes = (front ++ strBytes raw.programVersion ++ strBytes raw.sourceLoader).length := by
    rw [dataDirAt, secondLength, sourceAt]
    simp only [List.length_append, length_strBytes, Nat.add_assoc]
  have thirdLength := lengthAt_append raw.dataDir_lt third dataAt
  rw [fixedHeaderEnd, thirdLength, dataAt, RawHeader.length_bytes]
  simp only [List.length_append, length_strBytes, frontLength, programVersionAt]
  omega

theorem headerEnd_of_raw {bytes table crc tail : Text} (raw : RawHeader)
    (tableLength : table.length = kSectionCount.toNat * kSectionRowSize) (crcLength : crc.length = kHeaderCrcSize)
    (whole : bytes = raw.bytes ++ (table ++ (crc ++ tail))) :
    headerEnd bytes = (raw.bytes ++ (table ++ crc)).length := by
  rw [headerEnd, fixedHeaderEnd_of_raw raw whole, List.length_append, List.length_append, tableLength, crcLength,
    Nat.add_assoc]

theorem length_table {rows : List SectionRow} (three : rows.length = kSectionCount.toNat) :
    (rows.flatMap rowBytes).length = kSectionCount.toNat * kSectionRowSize := by
  rw [length_flatMap_of_eq rows fun row _ => length_rowBytes row, three]

/-! ## The readers agree -/

/-- The header of opened data is the one laid out. -/
theorem header_of_openSections {indexSort : CifpCodec.IndexSort} {file : PreadFile} {head : Head} {pool : Text}
    {data : UnifiedData} (opened : openSections indexSort file head pool = .ok data) : data.header = head.header := by
  rw [openSections] at opened
  split at opened
  · cases opened
  split at opened
  · cases opened
  split at opened
  · cases opened
  split at opened
  · cases opened
  split at opened
  · cases opened
  cases opened
  rfl

/-- What the catalogue and opening say of one file, when opening succeeds and
when the catalogue does. -/
structure HeadersAgree (indexSort : CifpCodec.IndexSort) (path : Text) (file : PreadFile) : Prop where
  /-- A file that opens is listed, with the same header. -/
  listed : forall data, openFile indexSort path (some file) = .ok data -> readHeader path (some file) = .ok data.header
  /-- A file that is listed never opens with another header. -/
  same : forall header data, readHeader path (some file) = .ok header ->
    openFile indexSort path (some file) = .ok data -> data.header = header

/-- Two headers laid out at the start of one file say the same. -/
theorem header_of_readHeader {indexSort : CifpCodec.IndexSort} {path : Text} {file : PreadFile}
    {header : UnifiedHeader} {data : UnifiedData}
    (read : readHeader path (some file) = .ok header) (opened : openFile indexSort path (some file) = .ok data) :
    data.header = header := by
  rcases laid_of_openFile opened with ⟨raw, rows, pool, rest, laid, sections⟩
  rcases readHeader_eq_ok_iff.mp read with ⟨listed, table, tail, rfl, _, whole⟩
  rw [header_of_openSections sections]
  have start : file.bytes = listed.bytes ++ (table ++ (ByteWriter.u32 (Crc32C.compute (listed.bytes ++ table)) ++
      tail) ++ file.bytes.drop kMaxHeaderPrefix) := by
    rw [← List.append_assoc, ← whole, List.take_append_drop]
  exact RawHeader.header_unique (laid.bytes_eq.symm.trans start)

/-- A file that opens is listed with its header exactly when its header, table and
checksum end within the first bytes, and no file is listed with another header
than it opens with. -/
theorem readHeader_agrees (indexSort : CifpCodec.IndexSort) (path : Text) (file : PreadFile) :
    (forall data, openFile indexSort path (some file) = .ok data ->
      (readHeader path (some file) = .ok data.header ↔ headerEnd file.bytes ≤ kMaxHeaderPrefix)) ∧
    forall header data, readHeader path (some file) = .ok header -> openFile indexSort path (some file) = .ok data ->
      data.header = header := by
  refine ⟨fun data opened => ?_, fun header data read opened => header_of_readHeader read opened⟩
  rcases laid_of_openFile opened with ⟨raw, rows, pool, rest, laid, sections⟩
  have tableLength := length_table laid.rows_length
  have ends := headerEnd_of_raw raw tableLength (ByteWriter.length_u32 _) laid.bytes_eq
  constructor
  · intro read
    rcases readHeader_eq_ok_iff.mp read with ⟨listed, table, tail, _, length, whole⟩
    have start : file.bytes = listed.bytes ++ (table ++ (ByteWriter.u32 (Crc32C.compute (listed.bytes ++ table)) ++
        (tail ++ file.bytes.drop kMaxHeaderPrefix))) := by
      have joined := congrArg (· ++ file.bytes.drop kMaxHeaderPrefix) whole
      simp only [List.take_append_drop, List.append_assoc] at joined
      exact joined
    rw [headerEnd_of_raw listed length (ByteWriter.length_u32 _) start]
    have within := List.length_take_le kMaxHeaderPrefix file.bytes
    rw [whole] at within
    simp only [List.length_append] at within ⊢
    omega
  · intro fits
    rw [ends] at fits
    let crc := ByteWriter.u32 (Crc32C.compute (raw.bytes ++ rows.flatMap rowBytes))
    apply readHeader_eq_ok_iff.mpr
    refine ⟨raw, rows.flatMap rowBytes,
      (pool ++ rest).take (kMaxHeaderPrefix - (raw.bytes ++ (rows.flatMap rowBytes ++ crc)).length),
      header_of_openSections sections, tableLength, ?_⟩
    have start : file.bytes = (raw.bytes ++ (rows.flatMap rowBytes ++ crc)) ++ (pool ++ rest) := by
      rw [laid.bytes_eq]
      simp only [crc, List.append_assoc]
    rw [start, List.take_append, List.take_of_length_le fits]
    simp only [crc, List.append_assoc]

/-! ## Files of a grid alone -/

/-- The header of a build from a directory with a name of some length. -/
def headerOf (dataDirLength : Nat) : UnifiedHeader :=
  ⟨2601, [], [], List.replicate dataDirLength 97, ⟨true, true, true, true⟩⟩

/-- Such a header is written, and its file opens. -/
theorem exists_opened (indexSort : CifpCodec.IndexSort) (dataDirLength : Nat) (small : dataDirLength < 2 ^ 32)
    (path : Text) :
    exists file : PreadFile, build ⟨some (.ofGrid .unknown), none, none, headerOf dataDirLength⟩ = .ok file.bytes ∧
      openFile indexSort path (some file) = .ok ⟨headerOf dataDirLength, .ofGrid .unknown, none, none⟩ ∧
      headerEnd file.bytes = 116 + dataDirLength := by
  have dataDir : (headerOf dataDirLength).dataDir.length < 2 ^ 32 := by
    rw [headerOf, List.length_replicate]
    exact small
  have written : exists front, headerBytes (headerOf dataDirLength) [] = some front :=
    headerBytes_of_short (Nat.two_pow_pos 32) (Nat.two_pow_pos 32) dataDir
  rcases written with ⟨front, written⟩
  rcases raw_of_headerBytes written with ⟨raw, rawBytes, rawHeader, _⟩
  have length : front.length = 40 + dataDirLength := by
    have strings := congrArg UnifiedHeader.programVersion rawHeader
    have loader := congrArg UnifiedHeader.sourceLoader rawHeader
    have dir := congrArg UnifiedHeader.dataDir rawHeader
    simp only [RawHeader.header, headerOf] at strings loader dir
    rw [← rawBytes, RawHeader.length_bytes, strings, loader, dir, List.length_replicate]
    rfl
  let sections : Sections := ⟨GraphCodec.gridBody .unknown, none, none⟩
  have fits : (container front [] sections).length < 2 ^ 64 := by
    have graph : sections.graph.length = 24 + kMoraCells * 2 := GraphCodec.length_gridBody .unknown
    have cells : kMoraCells = 64800 := rfl
    have table : kSectionCount.toNat * kSectionRowSize = 72 := rfl
    have cifp : sections.cifpBody.length = 0 := rfl
    have detail : sections.detailBody.length = 0 := rfl
    rw [length_container, sectionsStart, length, graph, cells, table, kHeaderCrcSize, cifp, detail, List.length_nil]
    omega
  refine ⟨⟨container front [] sections, fits⟩, build_ofGrid written, openFile_ofGrid written rfl, ?_⟩
  have whole : container front [] sections = raw.bytes ++ ((sections.table (sectionsStart front [])).flatMap rowBytes ++
      (ByteWriter.u32 (Crc32C.compute (front ++ (sections.table (sectionsStart front [])).flatMap rowBytes)) ++
        sections.graph)) := by
    rw [container_eq, beforeSections, rawBytes]
    simp only [List.append_assoc, Sections.cifpBody, Sections.detailBody, sections, Option.map_none,
      Option.getD_none, List.append_nil]
  rw [headerEnd_of_raw raw (length_table rfl) (ByteWriter.length_u32 _) whole, rawBytes]
  rw [List.length_append, List.length_append, length, length_table rfl, ByteWriter.length_u32]
  have table : kSectionCount.toNat * kSectionRowSize = 72 := rfl
  omega

/-- A short header is listed. -/
theorem readHeader_agrees_short : exists file : PreadFile, readHeader [] (some file) = .ok (headerOf 4) := by
  rcases exists_opened .stable 4 (by decide) [] with ⟨file, _, opened, ends⟩
  refine ⟨file, ((readHeader_agrees _ [] file).1 _ opened).mpr ?_⟩
  rw [ends]
  decide

/-- A file that was built from a directory with a long name opens, and is not
listed. -/
theorem not_headersAgree_long : exists (input : BuildInput) (file : PreadFile),
    build input = .ok file.bytes ∧ (exists data, openFile .stable [] (some file) = .ok data) ∧
      ¬ HeadersAgree .stable [] file := by
  rcases exists_opened .stable 9000 (by decide) [] with ⟨file, built, opened, ends⟩
  refine ⟨_, file, built, ⟨_, opened⟩, ?_⟩
  intro agree
  have within := ((readHeader_agrees _ [] file).1 _ opened).mp (agree.listed _ opened)
  rw [ends] at within
  exact absurd within (by decide)

end UnifiedCache
end BravoFinder
