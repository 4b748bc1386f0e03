import BravoFinder.Cache.ContainerRoundTrip

namespace BravoFinder

/-!
# One changed byte anywhere

The checksums of the header, the pool, the sections and the directory leave no
byte of a file that opens unguarded but the segments, and each of these has its
own.  So a file with one changed byte does not open, or one airport cannot be
fetched; the lengths that say how far a checksum reaches are the exception.
-/

namespace UnifiedCache

open CifpCodec CifpArchive

/-! ## The number of airports -/

/-- A number in the row of the procedures, which is the second of the table. -/
def cifpRowAt (bytes : Text) (field : Nat) : Nat :=
  leNat ((bytes.drop (fixedHeaderEnd bytes + kSectionRowSize + field)).take 8)

/-- The byte belongs to the number of airports. -/
def inAirportCount (bytes : Text) (position : Nat) : Prop :=
  cifpRowAt bytes 16 ≠ 0 ∧ inField (cifpRowAt bytes 8) 4 position

instance (bytes : Text) (position : Nat) : Decidable (inAirportCount bytes position) := by
  unfold inAirportCount
  exact inferInstance

theorem leNat_u64 (value : UInt64) : leNat (ByteWriter.u64 value) = value.toNat := by
  have fits : value.toNat < 256 ^ 8 := value.toNat_lt
  rw [ByteWriter.u64, leNat_leBytes_of_lt fits]

/-- The second row of the table says where the procedures are. -/
theorem cifpRowAt_of_laid {bytes pool rest : Text} {raw : RawHeader} {first second third : SectionRow}
    (laid : Laid bytes raw [first, second, third] pool rest) :
    cifpRowAt bytes 8 = second.off.toNat ∧ cifpRowAt bytes 16 = second.len.toNat := by
  let behind := rowBytes third ++ (ByteWriter.u32 (Crc32C.compute (raw.bytes ++
    [first, second, third].flatMap rowBytes)) ++ (pool ++ rest))
  have ends : fixedHeaderEnd bytes = raw.bytes.length := fixedHeaderEnd_of_raw raw laid.bytes_eq
  have off : bytes = (raw.bytes ++ (rowBytes first ++ (ByteWriter.u32 second.type ++ ByteWriter.u32 second.crc))) ++
      (ByteWriter.u64 second.off ++ (ByteWriter.u64 second.len ++ behind)) := by
    rw [laid.bytes_eq]
    simp only [behind, List.flatMap_cons, List.flatMap_nil, rowBytes, List.append_assoc, List.append_nil]
  have len : bytes = (raw.bytes ++ (rowBytes first ++ (ByteWriter.u32 second.type ++ (ByteWriter.u32 second.crc ++
      ByteWriter.u64 second.off)))) ++ (ByteWriter.u64 second.len ++ behind) := by
    rw [off]
    simp only [List.append_assoc]
  have read {front back : Text} {value : UInt64} (whole : bytes = front ++ (ByteWriter.u64 value ++ back)) :
      leNat ((bytes.drop front.length).take 8) = value.toNat := by
    rw [whole, List.drop_left, ← ByteWriter.length_u64 value, List.take_left, leNat_u64]
  have offAt := read off
  have lenAt := read len
  simp only [List.length_append, length_rowBytes, ByteWriter.length_u32, ByteWriter.length_u64] at offAt lenAt
  rw [cifpRowAt, cifpRowAt, ends, ← offAt, ← lenAt]
  exact ⟨rfl, rfl⟩

/-! ## Sections -/

section Sections

variable {indexSort : IndexSort} {file damaged : PreadFile} {position : Nat}

/-- A section with the byte has another checksum. -/
theorem readSection_hit {before body behind : Text} (damage : Damaged file damaged position)
    (whole : file.bytes = before ++ (body ++ behind)) (type : UInt32) (after : before.length ≤ position)
    (inside : position < before.length + body.length) (truncated mismatch : String) :
    exists error, readSection damaged ⟨type, Crc32C.compute body, UInt64.ofNat before.length,
      UInt64.ofNat body.length⟩ truncated mismatch = .error error := by
  have total := file.size_lt
  rw [whole, List.length_append, List.length_append] at total
  rcases damage.readAt_inside (PreadFile.readAt_append whole) after inside with ⟨other, read, different⟩
  have mismatched : ¬ Crc32C.compute other = Crc32C.compute body := different 0
  refine ⟨bad mismatch, ?_⟩
  rw [readSection]
  simp only [toNat_ofNat_u64 (Nat.lt_of_le_of_lt (Nat.le_add_right _ _) total),
    toNat_ofNat_u64 (show body.length < 2 ^ 64 by omega), read, mismatched, if_false]

/-- A section without the byte is read as before. -/
theorem readSection_missed {row : SectionRow} (damage : Damaged file damaged position)
    (outside : position < row.off.toNat ∨ row.off.toNat + row.len.toNat ≤ position) (truncated mismatch : String) :
    readSection damaged row truncated mismatch = readSection file row truncated mismatch := by
  rw [readSection, readSection, damage.readAt_outside outside]

/-- The sections are opened one after the other. -/
theorem openSections_table {fixed : FixedHeader} {sections : Sections} {start : Nat} {pool : Text} (pos : 0 < start)
    (fits : start < 2 ^ 64) : openSections indexSort file ⟨fixed, sections.table start⟩ pool =
      (openGraph file (sections.graphRow start) pool).bind fun graph =>
        (openDetail file (some (sections.detailRow start)) pool).bind fun detail =>
          (openCifp indexSort file (some (sections.cifpRow start)) pool).map fun cifp =>
            ⟨fixed.header, graph, cifp, detail⟩ := by
  have graphPresent : present (some (sections.graphRow start)) = some (sections.graphRow start) :=
    present_of_pos pos fits
  rw [openSections, placeRows_table]
  simp only [graphPresent]
  cases openGraph file (sections.graphRow start) pool with
  | error error => rfl
  | ok graph =>
      cases openDetail file (some (sections.detailRow start)) pool with
      | error error => rfl
      | ok detail => cases openCifp indexSort file (some (sections.cifpRow start)) pool <;> rfl

/-! ## Each section -/

variable {front : Text} {sections : Sections} {pool : Text}

theorem openGraph_hit (whole : file.bytes = container front pool sections) (damage : Damaged file damaged position)
    (after : sectionsStart front pool ≤ position)
    (inside : position < sectionsStart front pool + sections.graph.length) :
    exists error, openGraph damaged (sections.graphRow (sectionsStart front pool)) pool = .error error := by
  rw [← length_beforeSections front pool sections] at after inside
  rcases readSection_hit damage (whole.trans (container_eq front pool sections)) kSectionGraph after inside
    "truncated .bfdb graph section" "corrupt .bfdb: graph section CRC mismatch" with ⟨error, failed⟩
  refine ⟨error, ?_⟩
  rw [openGraph, Sections.graphRow, ← length_beforeSections front pool sections, failed]

theorem openDetail_hit {body : Text} (there : sections.detail = some body)
    (whole : file.bytes = container front pool sections) (damage : Damaged file damaged position)
    (after : sectionsStart front pool + sections.graph.length + sections.cifpBody.length ≤ position) :
    exists error, openDetail damaged (some (sections.detailRow (sectionsStart front pool))) pool = .error error := by
  have total := damage.within
  have size := file.size_lt
  have body_eq : sections.detailBody = body := by rw [Sections.detailBody, there]; rfl
  have place : sectionsStart front pool + sections.graph.length + sections.cifpBody.length =
      (beforeSections front pool sections ++ (sections.graph ++ sections.cifpBody)).length := by
    rw [List.length_append, List.length_append, length_beforeSections, Nat.add_assoc]
  have cut : file.bytes = (beforeSections front pool sections ++ (sections.graph ++ sections.cifpBody)) ++
      (body ++ []) := by
    rw [whole, container_eq, body_eq, List.append_nil]
    simp only [List.append_assoc]
  rw [PreadFile.size] at total
  rw [place] at after
  have inside : position <
      (beforeSections front pool sections ++ (sections.graph ++ sections.cifpBody)).length + body.length := by
    rw [cut, List.append_nil, List.length_append] at total
    exact total
  rcases readSection_hit damage cut kSectionDetail after inside
    "truncated .bfdb detail section" "corrupt .bfdb: detail section CRC mismatch" with ⟨error, failed⟩
  have pos := sectionsStart_pos front pool
  refine ⟨error, ?_⟩
  rw [openDetail, Sections.detailRow, there]
  simp only [present_of_pos (show 0 < sectionsStart front pool + sections.graph.length +
    sections.cifpBody.length by omega) (show sectionsStart front pool + sections.graph.length +
    sections.cifpBody.length < 2 ^ 64 by omega)]
  simp only [place, failed]

/-- Outside the graph, the graph is read as before. -/
theorem openGraph_missed (whole : file.bytes = container front pool sections) (damage : Damaged file damaged position)
    (behind : sectionsStart front pool + sections.graph.length ≤ position) :
    openGraph damaged (sections.graphRow (sectionsStart front pool)) pool =
      openGraph file (sections.graphRow (sectionsStart front pool)) pool := by
  have size := file.size_lt
  rw [whole, length_container] at size
  have off : (UInt64.ofNat (sectionsStart front pool)).toNat = sectionsStart front pool :=
    toNat_ofNat_u64 (by omega)
  have len : (UInt64.ofNat sections.graph.length).toNat = sections.graph.length := toNat_ofNat_u64 (by omega)
  rw [openGraph, openGraph, Sections.graphRow, readSection_missed damage (.inr (by rw [off, len]; exact behind))]

/-- Before the details, the details are read as before. -/
theorem openDetail_missed (whole : file.bytes = container front pool sections) (damage : Damaged file damaged position)
    (before : position < sectionsStart front pool + sections.graph.length + sections.cifpBody.length) :
    openDetail damaged (some (sections.detailRow (sectionsStart front pool))) pool =
      openDetail file (some (sections.detailRow (sectionsStart front pool))) pool := by
  cases there : sections.detail with
  | none => rw [openDetail_none there, openDetail_none there]
  | some body =>
      have size := file.size_lt
      rw [whole, length_container] at size
      have off : (UInt64.ofNat (sectionsStart front pool + sections.graph.length + sections.cifpBody.length)).toNat =
          sectionsStart front pool + sections.graph.length + sections.cifpBody.length :=
        toNat_ofNat_u64 (by omega)
      have pos := sectionsStart_pos front pool
      rw [openDetail, openDetail, Sections.detailRow, there]
      simp only [present_of_pos (show 0 < sectionsStart front pool + sections.graph.length +
        sections.cifpBody.length by omega) (show sectionsStart front pool + sections.graph.length +
        sections.cifpBody.length < 2 ^ 64 by omega)]
      rw [readSection_missed damage (.inl (by rw [off]; exact before))]

end Sections

section Procedures

variable {indexSort : IndexSort} {file damaged : PreadFile} {position : Nat} {front behind pool : Text}
  {rows : List Row}

/-- A directory with the byte has another checksum. -/
theorem openSection_hit (placed : Placed file front rows behind) (damage : Damaged file damaged position)
    (resolved : forall row, row ∈ rows -> resolveRef pool row.ref = some row.key.text)
    (after : front.length + 4 ≤ position) (before : position < Placed.segmentsStart front rows) :
    exists error, openSection indexSort damaged (UInt64.ofNat front.length)
      (UInt64.ofNat (assembleSection (written rows)).length)
      (Crc32C.compute ((assembleSection (written rows)).take (directoryPrefixLen (UInt32.ofNat rows.length)))) pool =
        .error error := by
  cases opened : openSection indexSort damaged (UInt64.ofNat front.length)
      (UInt64.ofNat (assembleSection (written rows)).length)
      (Crc32C.compute ((assembleSection (written rows)).take (directoryPrefixLen (UInt32.ofNat rows.length)))) pool with
  | error error => exact ⟨error, rfl⟩
  | ok archive =>
      exfalso
      rcases openedRows_of_openSection (placed.openSection indexSort rfl rfl resolved) with ⟨listed, original⟩
      rcases openedRows_of_openSection opened with ⟨listed', changed⟩
      rcases original.directory with ⟨count, directory⟩
      rcases changed.directory with ⟨count', directory'⟩
      rw [placed.toNat_offset] at count directory count' directory'
      -- The number of airports is the same, and so is the checksum.
      rw [damage.readAt_outside (.inr after), count, Option.some.injEq] at count'
      have counts := congrArg UInt32.toNat (u32_inj count')
      have same : listed'.length = listed.length := by
        rw [toNat_ofNat_length original.counted, toNat_ofNat_length changed.counted] at counts
        exact counts.symm
      have rowCount : listed.length = rows.length := by
        rw [placed.readAt_count, Option.some.injEq] at count
        have numbers := congrArg UInt32.toNat (u32_inj count)
        rw [toNat_ofNat_length original.counted, placed.toNat_count] at numbers
        exact numbers.symm
      rw [same] at directory'
      rw [Placed.segmentsStart, ← rowCount] at before
      rcases damage.readAt_inside directory after (by omega) with ⟨other, read, different⟩
      rw [directory'] at read
      cases read
      have sums := changed.checked.trans original.checked.symm
      rw [← count', Crc32C.compute, Crc32C.compute, ← Crc32C.update_append, ← Crc32C.update_append] at sums
      exact different _ sums

/-- Behind the number of airports, the procedures do not open, or one airport is
affected. -/
theorem openCifp_damaged {sections : Sections} {procedures : List (Text × CifpData)} {pool : StringPool}
    (there : sections.cifp = some (UInt32.ofNat rows.length, assembleSection (written rows)))
    (encoded : EncodedSegments procedures pool (UInt32.ofNat rows.length) (assembleSection (written rows)) rows)
    (placed : Placed file (beforeSections front pool.blob sections ++ sections.graph) rows sections.detailBody)
    (small : pool.blob.length < 2 ^ 32) (short : forall row, row ∈ rows -> row.body.length < 2 ^ 32)
    (damage : Damaged file damaged position)
    (after : (beforeSections front pool.blob sections ++ sections.graph).length + 4 ≤ position)
    (before : position < (beforeSections front pool.blob sections ++ sections.graph).length +
      (assembleSection (written rows)).length) :
    (exists error, openCifp indexSort damaged (some (sections.cifpRow (sectionsStart front pool.blob))) pool.blob =
      .error error) ∨
    exists original changed icao,
      openCifp indexSort file (some (sections.cifpRow (sectionsStart front pool.blob))) pool.blob =
        .ok (some original) ∧
      openCifp indexSort damaged (some (sections.cifpRow (sectionsStart front pool.blob))) pool.blob =
        .ok (some changed) ∧
      changed.index = original.index ∧ changed.pool = original.pool ∧ OnlyHit original changed icao position := by
  have resolved := encoded.resolved small
  rw [openCifp_placed there placed, openCifp_placed there placed]
  by_cases inDirectory :
      position < Placed.segmentsStart (beforeSections front pool.blob sections ++ sections.graph) rows
  · rcases openSection_hit placed damage resolved after inDirectory with ⟨error, failed⟩
    rw [failed]
    exact .inl ⟨error, rfl⟩
  · rw [Placed.segmentsStart] at inDirectory
    rw [length_assembleSection] at before
    have keys := keys_of_stored encoded.stored
    have opens := placed.openSection indexSort rfl rfl resolved
    have opensDamaged := placed.openSection indexSort (damage.readAt_outside (.inr after))
      (damage.readAt_outside (.inr (by omega))) resolved
    rcases @onlyHit_built indexSort file _ _ pool.blob rows damaged position placed (keys ▸ encoded.nodup) damage short
      (by rw [Placed.segmentsStart]; omega) (by rw [Placed.segmentsStart]; omega) with ⟨icao, hit⟩
    refine .inr ⟨built indexSort file _ rows pool.blob, built indexSort damaged _ rows pool.blob, icao,
      ?_, ?_, rfl, rfl, hit⟩
    · rw [opens]
      rfl
    · rw [opensDamaged]
      rfl

end Procedures

/-! ## The whole file -/

/-- Between two openings, one airport was lost. -/
structure AirportLost (before after : UnifiedData) (position : Nat) : Prop where
  header : after.header = before.header
  graph : after.graph = before.graph
  detail : after.detail = before.detail
  hit : exists archive damaged icao, before.cifp = some archive ∧ after.cifp = some damaged ∧
    damaged.index = archive.index ∧ damaged.pool = archive.pool ∧ OnlyHit archive damaged icao position

/-- A file with one changed byte does not open, or one airport is lost. -/
theorem openFile_damaged (indexSort : IndexSort) {input : BuildInput} {file damaged : PreadFile} {position : Nat}
    (built : build input = .ok file.bytes)
    (short : forall procedures, input.cifp = some procedures -> forall airport, airport ∈ procedures ->
      segmentLength airport.2 < 2 ^ 32)
    (damage : Damaged file damaged position) (outside : ¬ inStringLength file.bytes position)
    (uncounted : ¬ inAirportCount file.bytes position) (path : Text) :
    (exists error, openFile indexSort path (some damaged) = .error error) ∨
      exists before after, openFile indexSort path (some file) = .ok before ∧
        openFile indexSort path (some damaged) = .ok after ∧ AirportLost before after position := by
  unfold build at built
  split at built
  · cases built
  rename_i sections pool ran
  split at built
  · cases built
  rename_i addressed
  split at built
  · cases built
  rename_i front header
  have whole : file.bytes = container front pool.blob sections := (Except.ok.inj built).symm
  have small : pool.blob.length < 2 ^ 32 := by omega
  have pos := sectionsStart_pos front pool.blob
  have total := length_container front pool.blob sections
  have size := file.size_lt
  have within := damage.within
  rw [PreadFile.size, whole, total] at within
  rw [whole, total] at size
  rcases laid_container header small (whole ▸ file.size_lt) with ⟨raw, _, _, laid⟩
  rw [← whole] at laid
  have start : file.size - (sections.graph ++ (sections.cifpBody ++ sections.detailBody)).length =
      sectionsStart front pool.blob := by
    rw [PreadFile.size, whole, total]
    simp only [List.length_append]
    omega
  by_cases inHead : position < sectionsStart front pool.blob
  · exact .inl (refused_of_head path laid damage outside (start ▸ inHead))
  rcases laid_of_sections laid damage (by rw [start]; exact Nat.le_of_not_lt inHead) with ⟨rest, laidDamaged⟩
  rw [openFile_of_laid laid, openFile_of_laid laidDamaged, openSections_table pos (by omega),
    openSections_table pos (by omega)]
  by_cases inGraph : position < sectionsStart front pool.blob + sections.graph.length
  · rcases openGraph_hit whole damage (by omega) inGraph with ⟨error, failed⟩
    rw [failed]
    exact .inl ⟨error, rfl⟩
  rw [openGraph_missed whole damage (by omega)]
  cases openGraph file (sections.graphRow (sectionsStart front pool.blob)) pool.blob with
  | error error => exact .inl ⟨error, rfl⟩
  | ok graph =>
  simp only [Except.bind]
  by_cases inDetail : sectionsStart front pool.blob + sections.graph.length + sections.cifpBody.length ≤ position
  · cases there : sections.detail with
    | none =>
        have empty : sections.detailBody.length = 0 := by rw [Sections.detailBody, there]; rfl
        omega
    | some body =>
        rcases openDetail_hit there whole damage inDetail with ⟨error, failed⟩
        rw [failed]
        exact .inl ⟨error, rfl⟩
  rw [openDetail_missed whole damage (by omega)]
  cases openDetail file (some (sections.detailRow (sectionsStart front pool.blob))) pool.blob with
  | error error => exact .inl ⟨error, rfl⟩
  | ok detail =>
  -- The byte belongs to the procedures.
  rcases sections_of_encode ran with ⟨graph', afterGraph, afterCifp, _, graphRan, cifpRan, detailRan⟩
  rcases GraphCodec.grows_encode graph' _ _ _ graphRan StringPool.consistent_empty with ⟨graphConsistent, -⟩
  rcases grows_encodeCifp cifpRan graphConsistent with ⟨cifpConsistent, -⟩
  rcases grows_encodeDetail detailRan cifpConsistent with ⟨poolConsistent, toPool⟩
  cases hasCifp : input.cifp with
  | none =>
      rw [hasCifp, encodeCifp, Except.ok.injEq, Prod.mk.injEq] at cifpRan
      have empty : sections.cifpBody.length = 0 := by rw [Sections.cifpBody, ← cifpRan.1]; rfl
      omega
  | some procedures =>
      rw [hasCifp] at cifpRan
      rcases placed_of_encodeCifp whole cifpRan graphConsistent toPool poolConsistent small with
        ⟨rows, there, encoded, placed⟩
      have body_eq : sections.cifpBody = assembleSection (written rows) := by rw [Sections.cifpBody, there]; rfl
      have place : (beforeSections front pool.blob sections ++ sections.graph).length =
          sectionsStart front pool.blob + sections.graph.length := by
        rw [List.length_append, length_beforeSections]
      have counted : sectionsStart front pool.blob + sections.graph.length + 4 ≤ position := by
        rcases cifpRowAt_of_laid laid with ⟨off, len⟩
        rw [inAirportCount, off, len, Sections.cifpRow, there, inField] at uncounted
        simp only [toNat_ofNat_u64 (show sectionsStart front pool.blob + sections.graph.length < 2 ^ 64 by omega),
          placed.toNat_length] at uncounted
        omega
      rcases openCifp_damaged there encoded placed small (length_of_stored encoded.stored (short procedures hasCifp))
        damage (by omega) (by rw [← body_eq]; omega) with
        ⟨error, failed⟩ | ⟨original, changed, icao, opens, opensDamaged, index, samePool, hit⟩
      · rw [failed]
        exact .inl ⟨error, rfl⟩
      · rw [opens, opensDamaged]
        exact .inr ⟨_, _, rfl, rfl, rfl, rfl, rfl, original, changed, icao, rfl, rfl, index, samePool, hit⟩

/-- Another first letter of the magic keeps the file of one airport from opening,
or one airport is lost. -/
theorem openFile_damaged_magic : exists (file damaged : PreadFile) (front : Text),
    file.bytes = container front kaaa (oneAirportSections .unknown) ∧ damaged.bytes = file.bytes.set 0 0 ∧
    ((exists error, openFile .stable kaaa (some damaged) = .error error) ∨
      exists before after, openFile .stable kaaa (some file) = .ok before ∧
        openFile .stable kaaa (some damaged) = .ok after ∧ AirportLost before after 0) := by
  rcases build_oneAirport .unknown with ⟨file, front, written, whole, built⟩
  have small : kaaa.length < 2 ^ 32 := by
    have pool : kaaa.length = 4 := rfl
    rw [pool]
    decide
  rcases laid_container written small (whole ▸ file.size_lt) with ⟨raw, _, _, laid⟩
  rw [← whole] at laid
  let damaged : PreadFile := ⟨file.bytes.set 0 0, by rw [List.length_set]; exact file.size_lt⟩
  have first : file.bytes[0]? = some 66 := by
    rw [laid.bytes_eq]
    rfl
  have within : 0 < file.size := by
    have long := laid.size_eq
    rw [List.length_append, RawHeader.length_bytes] at long
    omega
  have damage : Damaged file damaged 0 := ⟨within, 0, by rw [first]; decide, rfl⟩
  have outside : ¬ inStringLength file.bytes 0 := by
    have start : programVersionAt = 16 := rfl
    simp only [inStringLength, inField, dataDirAt, sourceLoaderAt, start]
    omega
  have uncounted : ¬ inAirportCount file.bytes 0 := by
    rcases cifpRowAt_of_laid laid with ⟨off, -⟩
    have total := length_container front kaaa (oneAirportSections .unknown)
    have size := file.size_lt
    have pos := sectionsStart_pos front kaaa
    rw [whole, total] at size
    have place : (UInt64.ofNat (sectionsStart front kaaa + (oneAirportSections .unknown).graph.length)).toNat =
        sectionsStart front kaaa + (oneAirportSections .unknown).graph.length := toNat_ofNat_u64 (by omega)
    have same : ((oneAirportSections .unknown).cifpRow (sectionsStart front kaaa)).off =
        UInt64.ofNat (sectionsStart front kaaa + (oneAirportSections .unknown).graph.length) := rfl
    rw [inAirportCount, off, same, place, inField]
    omega
  exact ⟨file, damaged, front, whole, rfl,
    openFile_damaged _ built (storable_oneAirport .unknown).short damage outside uncounted kaaa⟩

end UnifiedCache
end BravoFinder
