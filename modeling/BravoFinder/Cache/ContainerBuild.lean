import BravoFinder.Cache.ContainerRead

namespace BravoFinder

/-!
# What is built is laid out

A container that was built opens to what its sections decode to.
-/

namespace UnifiedCache

open Decoder

theorem str_eq_some {s bytes : Text} (written : ByteWriter.str s = some bytes) :
    s.length < 2 ^ 32 ∧ bytes = strBytes s := by
  unfold ByteWriter.str at written
  split at written
  · rename_i short
    cases written
    exact ⟨Nat.lt_of_le_of_lt short (by decide), rfl⟩
  · cases written

/-- Four capabilities are read as they were written. -/
theorem capabilitiesOf_capabilityByte (capabilities : LoaderCapabilities) :
    capabilitiesOf (capabilityByte capabilities.airwayDirection) (capabilityByte capabilities.altitudeBands)
      (capabilityByte capabilities.moraGrid) (capabilityByte capabilities.msaSectors) = capabilities := by
  rcases capabilities with ⟨airwayDirection, altitudeBands, moraGrid, msaSectors⟩
  cases airwayDirection <;> cases altitudeBands <;> cases moraGrid <;> cases msaSectors <;> rfl

theorem str_of_short {s : Text} (short : s.length < 2 ^ 32) : ByteWriter.str s = some (strBytes s) := by
  rw [ByteWriter.str, if_pos (Nat.le_of_lt_succ short)]
  rfl

/-- Strings that fit their length fields are written. -/
theorem headerBytes_of_short {header : UnifiedHeader} {pool : Text}
    (programVersion : header.programVersion.length < 2 ^ 32) (sourceLoader : header.sourceLoader.length < 2 ^ 32)
    (dataDir : header.dataDir.length < 2 ^ 32) : exists front, headerBytes header pool = some front := by
  unfold headerBytes
  rw [str_of_short programVersion, str_of_short sourceLoader, str_of_short dataDir]
  exact ⟨_, rfl⟩

/-- A header that was built is a raw header. -/
theorem raw_of_headerBytes {header : UnifiedHeader} {pool front : Text}
    (written : headerBytes header pool = some front) : exists raw : RawHeader,
      raw.bytes = front ∧ raw.header = header ∧ raw.sectionCount = kSectionCount ∧
        raw.poolLen = UInt32.ofNat pool.length ∧ raw.poolCrc = Crc32C.compute pool := by
  unfold headerBytes at written
  rcases Option.bind_eq_some_iff.mp written with ⟨programVersion, first, written⟩
  rcases Option.bind_eq_some_iff.mp written with ⟨sourceLoader, second, written⟩
  rcases Option.bind_eq_some_iff.mp written with ⟨dataDir, third, written⟩
  rcases str_eq_some first with ⟨programVersionLt, rfl⟩
  rcases str_eq_some second with ⟨sourceLoaderLt, rfl⟩
  rcases str_eq_some third with ⟨dataDirLt, rfl⟩
  cases written
  let capabilities := header.capabilities
  refine ⟨⟨kSectionCount, header.cycle, header.programVersion, header.sourceLoader, header.dataDir,
    capabilityByte capabilities.airwayDirection, capabilityByte capabilities.altitudeBands,
    capabilityByte capabilities.moraGrid, capabilityByte capabilities.msaSectors, UInt32.ofNat pool.length,
    Crc32C.compute pool, programVersionLt, sourceLoaderLt, dataDirLt⟩, ?_, ?_, rfl, rfl, rfl⟩
  · simp only [RawHeader.bytes, RawHeader.tailBytes, capabilities, List.append_assoc]
  · rw [RawHeader.header, capabilitiesOf_capabilityByte]

/-- The parts of a container before its sections. -/
def beforeSections (front pool : Text) (sections : Sections) : Text :=
  front ++ ((sections.table (sectionsStart front pool)).flatMap rowBytes ++
    (ByteWriter.u32 (Crc32C.compute (front ++ (sections.table (sectionsStart front pool)).flatMap rowBytes)) ++ pool))

theorem container_eq (front pool : Text) (sections : Sections) : container front pool sections =
    beforeSections front pool sections ++ (sections.graph ++ (sections.cifpBody ++ sections.detailBody)) := by
  simp only [container, beforeSections, Crc32C.compute, Crc32C.update_append, List.append_assoc]

theorem length_beforeSections (front pool : Text) (sections : Sections) :
    (beforeSections front pool sections).length = sectionsStart front pool := by
  have tableLength : ((sections.table (sectionsStart front pool)).flatMap rowBytes).length =
      kSectionCount.toNat * kSectionRowSize := by
    rw [length_flatMap_of_eq _ fun row _ => length_rowBytes row]
    rfl
  rw [beforeSections, List.length_append, List.length_append, tableLength, List.length_append,
    ByteWriter.length_u32, sectionsStart, kHeaderCrcSize]
  omega

theorem length_container (front pool : Text) (sections : Sections) : (container front pool sections).length =
    sectionsStart front pool + sections.graph.length + sections.cifpBody.length + sections.detailBody.length := by
  rw [container_eq, List.length_append, length_beforeSections]
  simp only [List.length_append]
  omega

/-! ## The rows of the table -/

theorem toNat_ofNat_u64 {value : Nat} (fits : value < 2 ^ 64) : (UInt64.ofNat value).toNat = value :=
  UInt64.toNat_ofNat_of_lt fits

theorem sectionsStart_pos (front pool : Text) : 0 < sectionsStart front pool := by
  rw [sectionsStart, kHeaderCrcSize]
  omega

variable {front pool : Text} {sections : Sections}

theorem rowWithin_of_le {fileSize off len : Nat} {type crc : UInt32} (fits : off + len ≤ fileSize)
    (small : fileSize < 2 ^ 64) :
    rowWithin fileSize ⟨type, crc, UInt64.ofNat off, UInt64.ofNat len⟩ = true := by
  have inRange : off ≤ fileSize ∧ len ≤ fileSize - off := by omega
  rw [rowWithin, toNat_ofNat_u64 (by omega), toNat_ofNat_u64 (by omega), decide_eq_true inRange, Bool.or_true]

theorem rowWithin_table (small : (container front pool sections).length < 2 ^ 64) {row : SectionRow}
    (member : row ∈ sections.table (sectionsStart front pool)) :
    rowWithin (container front pool sections).length row = true := by
  have total := length_container front pool sections
  simp only [Sections.table, List.mem_cons, List.not_mem_nil, or_false] at member
  rcases member with rfl | rfl | rfl
  · exact rowWithin_of_le (by omega) small
  · unfold Sections.cifpRow
    cases cifp : sections.cifp with
    | none => rfl
    | some found =>
        have body : sections.cifpBody = found.2 := by rw [Sections.cifpBody, cifp]; rfl
        rw [body] at total
        exact rowWithin_of_le (by omega) small
  · unfold Sections.detailRow
    cases detail : sections.detail with
    | none => rfl
    | some found =>
        have body : sections.detailBody = found := by rw [Sections.detailBody, detail]; rfl
        rw [body] at total
        exact rowWithin_of_le (by omega) small

/-- A container that was built is laid out in its file. -/
theorem laid_container {header : UnifiedHeader} (written : headerBytes header pool = some front)
    (poolSmall : pool.length < 2 ^ 32) (small : (container front pool sections).length < 2 ^ 64) :
    exists raw : RawHeader, raw.bytes = front ∧ raw.header = header ∧
      Laid (container front pool sections) raw (sections.table (sectionsStart front pool)) pool
        (sections.graph ++ (sections.cifpBody ++ sections.detailBody)) := by
  rcases raw_of_headerBytes written with ⟨raw, rfl, same, three, poolLen, poolCrc⟩
  refine ⟨raw, rfl, same, ?_⟩
  constructor
  case bytes_eq =>
    rw [container_eq, beforeSections]
    simp only [List.append_assoc]
  case sectionCount => exact three
  case rows_length => rfl
  case rows_within => exact fun row member => rowWithin_table small member
  case pool_length =>
    have same : (UInt32.ofNat pool.length).toNat = pool.length := UInt32.toNat_ofNat_of_lt poolSmall
    rw [poolLen, same]
  case pool_crc => exact poolCrc.symm

/-! ## Opening the sections -/

theorem placeRows_table (start : Nat) : placeRows (sections.table start) ⟨none, none, none⟩ =
    .ok ⟨some (sections.graphRow start), some (sections.cifpRow start), some (sections.detailRow start)⟩ := by
  have cifpType : (sections.cifpRow start).type = kSectionCifp := by
    unfold Sections.cifpRow
    split <;> rfl
  have detailType : (sections.detailRow start).type = kSectionDetail := by
    unfold Sections.detailRow
    split <;> rfl
  have graphType : (sections.graphRow start).type = kSectionGraph := rfl
  have second : ¬ kSectionCifp = kSectionGraph := by decide
  have third : ¬ kSectionDetail = kSectionGraph := by decide
  have fourth : ¬ kSectionDetail = kSectionCifp := by decide
  simp only [Sections.table, placeRows, graphType, cifpType, detailType, second, third, fourth, if_true, if_false,
    Option.isSome_none, Bool.false_eq_true]

/-- A row with an offset is present. -/
theorem present_of_pos {off len : Nat} {type crc : UInt32} (pos : 0 < off) (fits : off < 2 ^ 64) :
    present (some ⟨type, crc, UInt64.ofNat off, UInt64.ofNat len⟩) =
      some ⟨type, crc, UInt64.ofNat off, UInt64.ofNat len⟩ := by
  have nonzero : (UInt64.ofNat off == 0) = false := by
    apply beq_eq_false_iff_ne.mpr
    intro zero
    have value := congrArg UInt64.toNat zero
    rw [toNat_ofNat_u64 fits] at value
    exact absurd value (Nat.pos_iff_ne_zero.mp pos)
  simp only [present, Option.filter, SectionRow.absent, nonzero, Bool.false_and, Bool.not_false, if_true]

/-- A section that was built is read, and its checksum holds. -/
theorem readSection_built {file : PreadFile} {before body behind : Text} {type : UInt32}
    (whole : file.bytes = before ++ (body ++ behind)) (truncated mismatch : String) :
    readSection file ⟨type, Crc32C.compute body, UInt64.ofNat before.length, UInt64.ofNat body.length⟩
      truncated mismatch = .ok body := by
  have total := file.size_lt
  rw [whole, List.length_append, List.length_append] at total
  rw [readSection]
  simp only [toNat_ofNat_u64 (Nat.lt_of_le_of_lt (Nat.le_add_right _ _) total),
    toNat_ofNat_u64 (show body.length < 2 ^ 64 by omega), PreadFile.readAt_append whole, if_true]

/-- What the sections of a container decode to. -/
structure Decodes (indexSort : CifpCodec.IndexSort) (file : PreadFile) (pool : Text) (sections : Sections)
    (start : Nat) (graph : GraphSnapshot) (cifp : Option CifpArchive) (detail : Option NavDetailArchive) : Prop where
  graph_ok : (GraphCodec.decode sections.graph pool).1 = .ok graph
  cifp_ok : openCifp indexSort file (some (sections.cifpRow start)) pool = .ok cifp
  detail_ok : openDetail file (some (sections.detailRow start)) pool = .ok detail

/-- A container that was built opens to what its sections decode to. -/
theorem openFile_container {indexSort : CifpCodec.IndexSort} {path : Text} {file : PreadFile}
    {header : UnifiedHeader} {graph : GraphSnapshot}
    {cifp : Option CifpArchive} {detail : Option NavDetailArchive} (whole : file.bytes = container front pool sections)
    (written : headerBytes header pool = some front) (poolSmall : pool.length < 2 ^ 32)
    (decodes : Decodes indexSort file pool sections (sectionsStart front pool) graph cifp detail) :
    openFile indexSort path (some file) = .ok ⟨header, graph, cifp, detail⟩ := by
  have small : (container front pool sections).length < 2 ^ 64 := whole ▸ file.size_lt
  rcases laid_container written poolSmall small with ⟨raw, rawBytes, rawHeader, laid⟩
  rw [← whole] at laid
  have startLt : sectionsStart front pool < 2 ^ 64 := by
    rw [length_container] at small
    omega
  have graphRead : openGraph file (sections.graphRow (sectionsStart front pool)) pool = .ok graph := by
    have start := whole.trans (container_eq front pool sections)
    rw [openGraph, Sections.graphRow, ← length_beforeSections front pool sections, readSection_built start]
    exact decodes.graph_ok
  have graphPresent : present (some (sections.graphRow (sectionsStart front pool))) =
      some (sections.graphRow (sectionsStart front pool)) :=
    present_of_pos (sectionsStart_pos front pool) startLt
  rw [openFile_of_laid laid, openSections, placeRows_table]
  simp only [graphPresent, graphRead, decodes.detail_ok, decodes.cifp_ok, RawHeader.fixed, rawHeader]

theorem openDetail_none {file : PreadFile} {start : Nat} (missing : sections.detail = none) :
    openDetail file (some (sections.detailRow start)) pool = .ok none := by
  rw [openDetail, Sections.detailRow, missing]
  rfl

theorem openCifp_none {indexSort : CifpCodec.IndexSort} {file : PreadFile} {start : Nat}
    (missing : sections.cifp = none) :
    openCifp indexSort file (some (sections.cifpRow start)) pool = .ok none := by
  rw [openCifp, Sections.cifpRow, missing]
  rfl

end UnifiedCache

/-! ## A graph without vertices -/

/-- The snapshot of a grid alone. -/
def GraphSnapshot.ofGrid (grid : MoraGrid) : GraphSnapshot where
  firstAirportVertex := 0
  coords := []
  offsets := [0]
  edges := []
  hasOutbound := []
  hasInbound := []
  idents := []
  kinds := []
  airwayNames := []
  mora := grid
  msa := []
  airportElevationsFt := []

namespace GraphCodec

open Decoder Encoder

variable (grid : MoraGrid)

/-- The section of a grid alone: five counts, one offset and the cells. -/
def gridBody : Text :=
  ByteWriter.u32 0 ++ (ByteWriter.u32 0 ++ (ByteWriter.u32 0 ++ (ByteWriter.u32 0 ++ (ByteWriter.u32 0 ++
    (ByteWriter.i32 0 ++ grid.cells.flatMap ByteWriter.i16)))))

theorem encode_ofGrid (pool : StringPool) : encode (.ofGrid grid) pool = .ok (gridBody grid, pool) := by
  have cells := each_write (E := Error) ByteWriter.i16 grid.cells pool
  have offsets : encodeOffsets 0 [0] pool = .ok (ByteWriter.i32 0, pool) := rfl
  have ran : exists bytes, encode (.ofGrid grid) pool = .ok (bytes, pool) ∧ bytes = gridBody grid := by
    refine ⟨_, append_of_ok rfl (append_of_ok rfl (append_of_ok rfl (append_of_ok rfl (append_of_ok rfl
      (append_of_ok rfl (append_of_ok rfl (append_of_ok rfl (append_of_ok rfl (append_of_ok rfl (append_of_ok rfl
      (append_of_ok offsets (append_of_ok rfl (append_of_ok rfl (append_of_ok rfl (append_of_ok cells
      (append_of_ok rfl rfl)))))))))))))))), ?_⟩
    simp only [List.nil_append, List.append_nil]
    rfl
  rcases ran with ⟨bytes, ran, rfl⟩
  exact ran

/-- The records of that section. -/
def gridRecords : Records := ⟨0, 0, 0, 0, [], [], [0], [], [], grid.cells, []⟩

theorem reads_gridRecords : Reads decodeRecords (gridBody grid) (gridRecords grid) := by
  have length : (ByteWriter.i32 0 ++ (grid.cells.flatMap ByteWriter.i16 ++ [])).length = 4 + kMoraCells * 2 := by
    rw [List.append_nil, List.length_append, ByteWriter.length_i32,
      length_flatMap_of_eq _ fun value _ => ByteWriter.length_i16 value, grid.cells_length]
  have offsets : Reads (E := Error) (ByteReader.i32Span 1) (ByteWriter.i32 0) [0] :=
    ByteReader.reads_i32Span [0]
  have cells : Reads (E := Error) (ByteReader.i16Span kMoraCells) (grid.cells.flatMap ByteWriter.i16) grid.cells :=
    grid.cells_length ▸ ByteReader.reads_i16Span grid.cells
  have body : Reads (decodeBody 0 0 0 0 0) (ByteWriter.i32 0 ++ (grid.cells.flatMap ByteWriter.i16 ++ []))
      (gridRecords grid) := by
    have noAirports : (0 : UInt32) - (0 : Int32).toUInt32 = 0 := by decide
    have holds : forall available, countsFit 0 0 0 0 (0 - (0 : Int32).toUInt32) available = true := by
      intro available
      rw [noAirports]
      simp only [countsFit, UInt32.toNat_zero, Nat.zero_le, decide_true, Bool.and_self]
    apply Reads.fuse (fun _ more _ _ => holds more) (holds _)
    apply Reads.fuse
    · intro fewer more grows fits
      exact decide_eq_true (Nat.le_trans (of_decide_eq_true fits) grows)
    · rw [length]
      exact decide_eq_true (Nat.le_refl _)
    apply Reads.silent (Reads.allocate _)
    apply Reads.silent (Reads.pure [])
    apply Reads.silent (Reads.allocate _)
    apply Reads.silent (Reads.pure [])
    apply Reads.silent (Reads.allocate _)
    apply offsets.bind
    apply Reads.silent (Reads.allocate _)
    apply Reads.silent (Reads.pure [])
    apply Reads.silent (Reads.allocate _)
    apply Reads.silent (Reads.pure [])
    apply Reads.silent (Reads.allocate _)
    apply cells.bind
    apply Reads.silent (Reads.allocate _)
    apply Reads.silent (Reads.pure [])
    exact Reads.pure _
  rw [List.append_nil] at body
  apply (ByteReader.reads_u32 0).bind
  apply (ByteReader.reads_u32 0).bind
  apply (ByteReader.reads_u32 0).bind
  apply (ByteReader.reads_u32 0).bind
  apply (ByteReader.reads_u32 0).bind
  apply Reads.silent (Reads.requireOk _)
  apply Reads.silent (Reads.require rfl)
  exact body

theorem decode_gridBody (pool : Text) : (decode (gridBody grid) pool).1 = .ok (.ofGrid grid) := by
  rcases reads_gridRecords grid [] [] with ⟨allocated, ran⟩
  rw [List.append_nil] at ran
  have faultless : fault (gridRecords grid) = none := by
    simp [fault, gridRecords]
  rw [decode, decodeSection, bind_of_ok ran]
  simp only [requireOk, fuse, bind_eq, Reading.remaining, List.length_nil, beq_self_eq_true, if_true, faultless]
  simp only [assemble, gridRecords, resolveIdents, resolveEach, resolveSectors, bind_eq, List.map_nil,
    MoraGrid.fromCells_cells]
  rfl

theorem length_gridBody : (gridBody grid).length = 24 + kMoraCells * 2 := by
  simp only [gridBody, List.length_append, ByteWriter.length_u32, ByteWriter.length_i32,
    length_flatMap_of_eq grid.cells fun value _ => ByteWriter.length_i16 value, grid.cells_length]
  omega

end GraphCodec

namespace UnifiedCache

variable {grid : MoraGrid} {header : UnifiedHeader} {front : Text}

theorem build_ofGrid (written : headerBytes header [] = some front) :
    build ⟨some (.ofGrid grid), none, none, header⟩ =
      .ok (container front [] ⟨GraphCodec.gridBody grid, none, none⟩) := by
  have short : ¬ 0xFFFFFFFF < ([] : Text).length := Nat.not_lt_zero _
  simp only [build, encodeSections, GraphCodec.encode_ofGrid, encodeCifp, encodeDetail, StringPool.empty, short,
    if_false, written]

theorem openFile_ofGrid {indexSort : CifpCodec.IndexSort} {path : Text} {file : PreadFile}
    (written : headerBytes header [] = some front)
    (whole : file.bytes = container front [] ⟨GraphCodec.gridBody grid, none, none⟩) :
    openFile indexSort path (some file) = .ok ⟨header, .ofGrid grid, none, none⟩ := by
  apply openFile_container whole written (Nat.two_pow_pos 32)
  constructor
  · exact GraphCodec.decode_gridBody grid []
  · exact openCifp_none rfl
  · exact openDetail_none rfl

end UnifiedCache
end BravoFinder
