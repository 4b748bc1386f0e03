import BravoFinder.Cache.ArchiveSafety
import BravoFinder.Cache.DetailListing
import BravoFinder.Cache.GraphRoundTrip
import BravoFinder.Cache.HeaderReaders
import BravoFinder.Cache.OpenedSection
import BravoFinder.Cache.SegmentDamage

namespace BravoFinder

/-!
# A container is read as it was built

The sections share a pool that only grows, so a reference written early still
resolves in the pool of the whole file.  What `Build` writes opens to what it was
given, each airport is fetched to its own data, and no other airport is there.
-/

namespace CifpCodec

open Decoder Encoder

/-! ## Segments and their airports -/

/-- The segment was written while the pool had grown to a part of this one. -/
def SegmentWritten (after : StringPool) (data : CifpData) (body : Text) : Prop :=
  exists before between, before.Sound ∧ serializeSegment data before = .ok (body, between) ∧
    between.blob <+: after.blob

theorem SegmentWritten.mono {first second : StringPool} {data : CifpData} {body : Text}
    (written : SegmentWritten first data body) (grown : first.blob <+: second.blob) :
    SegmentWritten second data body := by
  rcases written with ⟨before, between, sound, serialized, toFirst⟩
  exact ⟨before, between, sound, serialized, toFirst.trans grown⟩

/-- The row of an airport. -/
structure Stored (after : StringPool) (airport : Text × CifpData) (row : Row) : Prop where
  key_eq : row.key.text = airport.1
  written : SegmentWritten after airport.2 row.body

theorem segments_of_serializeSegments {procedures : List (Text × CifpData)} {pool after : StringPool}
    {bodies : List Text} (ran : serializeSegments procedures pool = .ok (bodies, after))
    (consistent : pool.Consistent) :
    List.Forall₂ (fun airport body => SegmentWritten after airport.2 body) procedures bodies := by
  induction procedures generalizing pool bodies with
  | nil =>
      cases ran
      exact .nil
  | cons airport rest inductionHypothesis =>
      rcases airport with ⟨icao, data⟩
      rw [serializeSegments] at ran
      split at ran
      · cases ran
      rename_i body between serialized
      split at ran
      · cases ran
      rename_i others final serializedRest
      cases ran
      rcases grows_serializeSegment data pool body between serialized consistent with ⟨betweenConsistent, -⟩
      rcases serializeSegments_spec serializedRest betweenConsistent with ⟨-, toAfter, -⟩
      exact .cons ⟨pool, between, consistent.sound, serialized, toAfter.blob⟩
        (inductionHypothesis serializedRest betweenConsistent)

/-- The rows that are written from airports, references and segments. -/
theorem exists_stored {procedures : List (Text × CifpData)} {keys : List FixedName8} {refs : List StringRef}
    {bodies : List Text} {after : StringPool} (named : keys.map FixedName8.text = procedures.map Prod.fst)
    (counted : refs.length = procedures.length)
    (resolved : after.blob.length < 2 ^ 32 ->
      refs.map (resolveRef after.blob) = procedures.map fun airport => some airport.1)
    (segments : List.Forall₂ (fun airport body => SegmentWritten after airport.2 body) procedures bodies) :
    exists rows : List Row, written rows = refs.zip bodies ∧ List.Forall₂ (Stored after) procedures rows ∧
      (after.blob.length < 2 ^ 32 -> forall row, row ∈ rows -> resolveRef after.blob row.ref = some row.key.text) := by
  induction segments generalizing keys refs with
  | nil =>
      rw [List.length_nil, List.length_eq_zero_iff] at counted
      subst counted
      exact ⟨[], rfl, .nil, fun _ => List.forall_mem_nil _⟩
  | @cons airport body rest moreBodies here _ inductionHypothesis =>
      rcases List.map_eq_cons_iff.mp named with ⟨key, moreKeys, rfl, first, namedRest⟩
      rcases List.length_eq_succ_iff.mp counted with ⟨ref, moreRefs, rfl, countedRest⟩
      have each (small : after.blob.length < 2 ^ 32) : resolveRef after.blob ref = some airport.1 ∧
          moreRefs.map (resolveRef after.blob) = rest.map fun airport => some airport.1 :=
        List.cons_eq_cons.mp (resolved small)
      rcases inductionHypothesis namedRest countedRest fun small => (each small).2 with
        ⟨rows, sameWritten, stored, sameResolved⟩
      refine ⟨⟨key, ref, body⟩ :: rows, congrArg _ sameWritten, .cons ⟨first, here⟩ stored, ?_⟩
      intro small row member
      rcases List.mem_cons.mp member with rfl | later
      · rw [(each small).1, first]
      · exact sameResolved small row later

/-- The airports of a section that was encoded, with their segments. -/
structure EncodedSegments (procedures : List (Text × CifpData)) (after : StringPool) (airportCount : UInt32)
    (body : Text) (rows : List Row) : Prop where
  count_eq : airportCount = UInt32.ofNat rows.length
  body_eq : body = assembleSection (written rows)
  stored : List.Forall₂ (Stored after) procedures rows
  nodup : (procedures.map Prod.fst).Nodup
  there : forall icao, icao ∈ procedures.map Prod.fst -> icao ∈ after.interned.map Prod.fst
  named : forall icao, icao ∈ procedures.map Prod.fst -> exists key, FixedName8.ofText icao = .ok key
  resolved : after.blob.length < 2 ^ 32 -> forall row, row ∈ rows ->
    resolveRef after.blob row.ref = some row.key.text

theorem encodedSegments_of_encode {procedures : List (Text × CifpData)} {pool after : StringPool}
    {airportCount : UInt32} {body : Text} (ran : encode procedures pool = .ok (airportCount, body, after))
    (consistent : pool.Consistent) : exists rows, EncodedSegments procedures after airportCount body rows := by
  unfold encode at ran
  split at ran
  · cases ran
  rename_i faultless
  split at ran
  · cases ran
  rename_i apart
  split at ran
  · cases ran
  rename_i bodies between serialized
  cases ran
  rcases exists_keys faultless with ⟨keys, named⟩
  rcases serializeSegments_spec serialized consistent with ⟨betweenConsistent, -, -⟩
  have interned := interned_internIcaos procedures betweenConsistent
  have segments := (segments_of_serializeSegments serialized consistent).imp
    fun airport body wrote => SegmentWritten.mono wrote interned.extended.blob
  rcases exists_stored named interned.length_eq interned.resolved segments with ⟨rows, sameWritten, stored, resolved⟩
  refine ⟨rows, ?_⟩
  constructor
  case count_eq => rw [stored.length_eq]
  case body_eq => rw [sameWritten]
  case stored => exact stored
  case nodup => exact nodup_of_sorted apart
  case there => exact interned.there
  case named =>
    intro icao member
    rw [← named] at member
    rcases List.mem_map.mp member with ⟨key, -, rfl⟩
    exact ⟨key, FixedName8.ofText_self key⟩
  case resolved => exact resolved

/-- What was encoded stands in a pool that grew on. -/
theorem EncodedSegments.mono {procedures : List (Text × CifpData)} {first second : StringPool} {airportCount : UInt32}
    {body : Text} {rows : List Row} (encoded : EncodedSegments procedures first airportCount body rows)
    (extended : first.Extends second) : EncodedSegments procedures second airportCount body rows := by
  constructor
  case count_eq => exact encoded.count_eq
  case body_eq => exact encoded.body_eq
  case stored => exact encoded.stored.imp fun _ _ stored => ⟨stored.key_eq, stored.written.mono extended.blob⟩
  case nodup => exact encoded.nodup
  case there => exact fun icao member => extended.mem (encoded.there icao member)
  case named => exact encoded.named
  case resolved =>
    intro small row member
    rcases extended.blob with ⟨more, grown⟩
    have short := Nat.lt_of_le_of_lt extended.blob.length_le small
    rw [← grown]
    exact resolveRef_append more (encoded.resolved short row member)

theorem exists_row_of_mem {procedures : List (Text × CifpData)} {rows : List Row} {after : StringPool}
    (stored : List.Forall₂ (Stored after) procedures rows) {airport : Text × CifpData} (member : airport ∈ procedures) :
    exists row, row ∈ rows ∧ Stored after airport row := by
  induction stored with
  | nil => cases member
  | cons here _ inductionHypothesis =>
      rcases List.mem_cons.mp member with rfl | later
      · exact ⟨_, List.mem_cons_self, here⟩
      · rcases inductionHypothesis later with ⟨row, listed, stands⟩
        exact ⟨row, List.mem_cons_of_mem _ listed, stands⟩

theorem exists_airport_of_mem {procedures : List (Text × CifpData)} {rows : List Row} {after : StringPool}
    (stored : List.Forall₂ (Stored after) procedures rows) {row : Row} (member : row ∈ rows) :
    exists airport, airport ∈ procedures ∧ Stored after airport row := by
  induction stored with
  | nil => cases member
  | cons here _ inductionHypothesis =>
      rcases List.mem_cons.mp member with rfl | later
      · exact ⟨_, List.mem_cons_self, here⟩
      · rcases inductionHypothesis later with ⟨airport, listed, stands⟩
        exact ⟨airport, List.mem_cons_of_mem _ listed, stands⟩

theorem keys_of_stored {procedures : List (Text × CifpData)} {rows : List Row} {after : StringPool}
    (stored : List.Forall₂ (Stored after) procedures rows) :
    rows.map (fun row => row.key.text) = procedures.map Prod.fst := by
  induction stored with
  | nil => rfl
  | cons here _ inductionHypothesis => rw [List.map_cons, List.map_cons, here.key_eq, inductionHypothesis]

theorem length_of_stored {procedures : List (Text × CifpData)} {rows : List Row} {after : StringPool}
    (stored : List.Forall₂ (Stored after) procedures rows)
    (short : forall airport, airport ∈ procedures -> segmentLength airport.2 < 2 ^ 32) :
    forall row, row ∈ rows -> row.body.length < 2 ^ 32 := by
  induction stored with
  | nil => exact List.forall_mem_nil _
  | cons here _ inductionHypothesis =>
      rw [List.forall_mem_cons] at short ⊢
      rcases here.written with ⟨before, between, -, serialized, -⟩
      refine ⟨?_, inductionHypothesis short.2⟩
      rw [emits_serializeSegment _ before _ between serialized]
      exact short.1

/-- The directory has an entry for every row. -/
theorem mem_located (sectionOffset : UInt64) (running : Nat) (earlier later : List Row) (row : Row) :
    (row.key, (⟨sectionOffset + UInt64.ofNat (running + (segments earlier).length), UInt32.ofNat row.body.length,
      Crc32C.compute row.body⟩ : SegmentLoc)) ∈ located sectionOffset running (earlier ++ row :: later) := by
  rw [located_append]
  exact List.mem_append_right _ List.mem_cons_self

end CifpCodec

namespace CifpArchive

open CifpCodec

variable {indexSort : IndexSort} {file : PreadFile} {front behind : Text} {rows : List Row} {after : StringPool}

/-- A segment that was built is decoded to what it was written from. -/
theorem fetchSegment_built (placed : Placed file front rows behind) (small : after.blob.length < 2 ^ 32)
    {earlier later : List Row} {row : Row} (split : rows = earlier ++ row :: later)
    (short : row.body.length < 2 ^ 32) {data : CifpData} (written : SegmentWritten after data row.body)
    (valid : data.Valid) (icao : Text) :
    (built indexSort file front rows after.blob).fetchSegment ⟨UInt64.ofNat front.length +
      UInt64.ofNat (4 + rows.length * kDirEntrySize + (segments earlier).length), UInt32.ofNat row.body.length,
      Crc32C.compute row.body⟩ icao = .ok data := by
  rcases written with ⟨before, between, sound, serialized, grown⟩
  have decoded := deserializeSegment_of_serializeSegment valid serialized sound
    (Nat.lt_of_le_of_lt grown.length_le small) grown
  have length : (UInt32.ofNat row.body.length).toNat = row.body.length := UInt32.toNat_ofNat_of_lt short
  have read := placed.readAt_segment split
  simp only [fetchSegment, segmentData, built, placed.toNat_absOff split, length, read, ne_eq, not_true_eq_false,
    if_false, decoded]

/-- An archive that was built gives each airport its own data, and no other airport. -/
theorem fetch_built {procedures : List (Text × CifpData)} {airportCount : UInt32} {body : Text}
    (placed : Placed file front rows behind) (encoded : EncodedSegments procedures after airportCount body rows)
    (small : after.blob.length < 2 ^ 32) (valid : forall airport, airport ∈ procedures -> airport.2.Valid)
    (short : forall row, row ∈ rows -> row.body.length < 2 ^ 32) (icao : Text) :
    (built indexSort file front rows after.blob).fetch icao = .ok (procedures.lookup icao) := by
  have keys := keys_of_stored encoded.stored
  have nodup : (rows.map fun row => row.key.text).Nodup := keys ▸ encoded.nodup
  by_cases listed : icao ∈ procedures.map Prod.fst
  · rcases List.mem_map.mp listed with ⟨airport, member, rfl⟩
    rcases encoded.named _ listed with ⟨key, named⟩
    rcases exists_row_of_mem encoded.stored member with ⟨row, rowListed, stored⟩
    rcases List.append_of_mem rowListed with ⟨earlier, later, split⟩
    have found : (built indexSort file front rows after.blob).find airport.1 = some ⟨UInt64.ofNat front.length +
        UInt64.ofNat (4 + rows.length * kDirEntrySize + (segments earlier).length), UInt32.ofNat row.body.length,
        Crc32C.compute row.body⟩ := by
      rw [find_built named, ← stored.key_eq]
      have entered := mem_located (UInt64.ofNat front.length) (4 + rows.length * kDirEntrySize) earlier later row
      rw [← split] at entered
      exact firstLoc_of_mem (nodup_built nodup) (mem_built.mpr entered)
    have lookup : procedures.lookup airport.1 = some airport.2 := by
      rcases List.append_of_mem member with ⟨front, back, cut⟩
      refine List.lookup_eq_some_iff.mpr ⟨front, back, cut, fun other before => bne_iff_ne.mpr fun same => ?_⟩
      have distinct := encoded.nodup
      rw [cut, List.map_append, List.map_cons, List.nodup_append] at distinct
      exact distinct.2.2 _ (List.mem_map_of_mem before) _ List.mem_cons_self same.symm
    rw [fetch, found, lookup]
    simp only [fetchSegment_built placed small split (short row rowListed) stored.written (valid airport member)]
  · have lookup : procedures.lookup icao = none := by
      rw [List.lookup_eq_none_iff]
      intro airport member
      refine bne_iff_ne.mpr fun same => listed ?_
      rw [same]
      exact List.mem_map_of_mem member
    have missing : (built indexSort file front rows after.blob).find icao = none := by
      cases named : FixedName8.ofText icao with
      | error error =>
          unfold find
          simp only [named]
      | ok key =>
          rw [find_built named, Option.eq_none_iff_forall_not_mem]
          intro loc found
          rcases exists_of_firstLoc found with ⟨entry, member, name, -⟩
          rcases exists_of_mem_located (mem_built.mp member) with ⟨earlier, row, later, split, rfl⟩
          apply listed
          rw [← keys, ← name]
          exact List.mem_map_of_mem (split ▸ List.mem_append_right earlier List.mem_cons_self)
    rw [fetch, missing, lookup]

/-- All airports of an archive that was built are fetched. -/
theorem fetchAll_built {procedures : List (Text × CifpData)} {airportCount : UInt32} {body : Text}
    (placed : Placed file front rows behind) (encoded : EncodedSegments procedures after airportCount body rows)
    (small : after.blob.length < 2 ^ 32) (valid : forall airport, airport ∈ procedures -> airport.2.Valid)
    (short : forall row, row ∈ rows -> row.body.length < 2 ^ 32) :
    exists all, (built indexSort file front rows after.blob).fetchAll = .ok all ∧
      forall icao, all.lookup icao = procedures.lookup icao := by
  have each : forall entry, entry ∈ (built indexSort file front rows after.blob).index ->
      exists data, (built indexSort file front rows after.blob).fetchSegment entry.2 entry.1.text = .ok data := by
    intro entry member
    rcases exists_of_mem_located (mem_built.mp member) with ⟨earlier, row, later, split, rfl⟩
    have listed : row ∈ rows := split ▸ List.mem_append_right earlier List.mem_cons_self
    rcases exists_airport_of_mem encoded.stored listed with ⟨airport, inInput, stored⟩
    exact ⟨airport.2, fetchSegment_built placed small split (short row listed) stored.written (valid airport inInput) _⟩
  rcases (fetchEach_iff _ []).mpr each with ⟨all, fetched⟩
  rcases openedRows_of_openSection (placed.openSection indexSort rfl rfl (encoded.resolved small)) with ⟨_, opened⟩
  refine ⟨all, fetched, fun icao => ?_⟩
  have same := fetch_eq_lookup opened fetched icao
  exact Except.ok.inj (same.symm.trans (fetch_built placed encoded small valid short icao))

/-- The archive has the airports of a list, each with its data, and no other. -/
structure Answers (archive : CifpArchive) (procedures : List (Text × CifpData)) : Prop where
  fetch : forall icao, archive.fetch icao = .ok (procedures.lookup icao)
  fetchAll : exists all, archive.fetchAll = .ok all ∧ forall icao, all.lookup icao = procedures.lookup icao

end CifpArchive

namespace UnifiedCache

open CifpCodec CifpArchive

/-- An input that 32 bits count, of data its readers let through. -/
structure Storable (input : BuildInput) : Prop where
  counted : forall snapshot, input.graph = some snapshot -> GraphCodec.Counted snapshot
  valid : forall procedures, input.cifp = some procedures -> forall airport, airport ∈ procedures -> airport.2.Valid
  short : forall procedures, input.cifp = some procedures -> forall airport, airport ∈ procedures ->
    segmentLength airport.2 < 2 ^ 32
  detail : forall archive, input.detail = some archive -> NavDetailCodec.Writable archive

/-- What a file has of the input that it was built from. -/
structure ReadBack (input : BuildInput) (data : UnifiedData) : Prop where
  header : data.header = input.header
  graph : input.graph.map GraphCodec.normalized = some data.graph
  detail : data.detail = input.detail.map NavDetailArchive.finalize
  noCifp : input.cifp = none -> data.cifp = none
  cifp : forall procedures, input.cifp = some procedures ->
    exists archive, data.cifp = some archive ∧ archive.Answers procedures

/-- The sections in the order in which they were written to the pool. -/
theorem sections_of_encode {input : BuildInput} {sections : Sections} {pool : StringPool}
    (ran : encodeSections input = .ok (sections, pool)) : exists graph afterGraph afterCifp,
      input.graph = some graph ∧ GraphCodec.encode graph StringPool.empty = .ok (sections.graph, afterGraph) ∧
      encodeCifp input.cifp afterGraph = .ok (sections.cifp, afterCifp) ∧
      encodeDetail input.detail afterCifp = .ok (sections.detail, pool) := by
  unfold encodeSections at ran
  split at ran
  · cases ran
  rename_i graph present
  split at ran
  · cases ran
  rename_i graphBody afterGraph graphRan
  split at ran
  · cases ran
  rename_i cifp afterCifp cifpRan
  split at ran
  · cases ran
  rename_i detail final detailRan
  cases ran
  exact ⟨graph, afterGraph, afterCifp, present, graphRan, cifpRan, detailRan⟩

theorem grows_encodeCifp {cifp : Option (List (Text × CifpData))} {pool after : StringPool}
    {written : Option (UInt32 × Text)} (ran : encodeCifp cifp pool = .ok (written, after))
    (consistent : pool.Consistent) : after.Consistent ∧ pool.Extends after := by
  unfold encodeCifp at ran
  split at ran
  · cases ran
    exact ⟨consistent, .refl _⟩
  · split at ran
    · cases ran
    rename_i airportCount body final encoded
    cases ran
    rcases encoded_of_encode encoded consistent with ⟨afterConsistent, extended, -⟩
    exact ⟨afterConsistent, extended⟩

theorem grows_encodeDetail {detail : Option NavDetailArchive} {pool after : StringPool} {written : Option Text}
    (ran : encodeDetail detail pool = .ok (written, after)) (consistent : pool.Consistent) :
    after.Consistent ∧ pool.Extends after := by
  unfold encodeDetail at ran
  split at ran
  · cases ran
    exact ⟨consistent, .refl _⟩
  · split at ran
    · cases ran
    rename_i body final encoded
    cases ran
    exact NavDetailCodec.grows_encode _ _ _ _ encoded consistent

section Sections

variable {indexSort : CifpCodec.IndexSort} {file : PreadFile} {front : Text} {sections : Sections} {pool : StringPool}

/-- The detail section is read as it was encoded. -/
theorem openDetail_built {detail : Option NavDetailArchive} {before : StringPool}
    (whole : file.bytes = container front pool.blob sections)
    (ran : encodeDetail detail before = .ok (sections.detail, pool)) (sound : before.Sound)
    (small : pool.blob.length < 2 ^ 32)
    (writable : forall archive, detail = some archive -> NavDetailCodec.Writable archive) :
    openDetail file (some (sections.detailRow (sectionsStart front pool.blob))) pool.blob =
      .ok (detail.map NavDetailArchive.finalize) := by
  unfold encodeDetail at ran
  split at ran
  · simp only [Except.ok.injEq, Prod.mk.injEq] at ran
    exact openDetail_none ran.1.symm
  rename_i archive
  split at ran
  · cases ran
  rename_i body after encoded
  simp only [Except.ok.injEq, Prod.mk.injEq] at ran
  rcases ran with ⟨there, rfl⟩
  have decoded := NavDetailCodec.decode_of_encode (writable archive rfl) encoded sound small List.prefix_rfl
  have size := file.size_lt
  have start := whole.trans (container_eq front after.blob sections)
  have body_eq : sections.detailBody = body := by rw [Sections.detailBody, ← there]; rfl
  have place : sectionsStart front after.blob + sections.graph.length + sections.cifpBody.length =
      (beforeSections front after.blob sections ++ (sections.graph ++ sections.cifpBody)).length := by
    rw [List.length_append, List.length_append, length_beforeSections, Nat.add_assoc]
  have cut : file.bytes = (beforeSections front after.blob sections ++ (sections.graph ++ sections.cifpBody)) ++
      (body ++ []) := by
    rw [start, body_eq, List.append_nil]
    simp only [List.append_assoc]
  have fits : sectionsStart front after.blob + sections.graph.length + sections.cifpBody.length < 2 ^ 64 := by
    rw [cut, List.length_append, ← place] at size
    omega
  have pos := sectionsStart_pos front after.blob
  rw [openDetail, Sections.detailRow, ← there]
  simp only [present_of_pos (show 0 < sectionsStart front after.blob + sections.graph.length +
    sections.cifpBody.length by omega) fits]
  simp only [place, readSection_built cut, decoded]
  rfl

/-- The procedure section lies behind the graph. -/
theorem placed_of_encodeCifp {procedures : List (Text × CifpData)} {before after : StringPool}
    (whole : file.bytes = container front pool.blob sections)
    (ran : encodeCifp (some procedures) before = .ok (sections.cifp, after)) (consistent : before.Consistent)
    (extended : after.Extends pool) (poolConsistent : pool.Consistent) (small : pool.blob.length < 2 ^ 32) :
    exists rows, sections.cifp = some (UInt32.ofNat rows.length, assembleSection (written rows)) ∧
      EncodedSegments procedures pool (UInt32.ofNat rows.length) (assembleSection (written rows)) rows ∧
      Placed file (beforeSections front pool.blob sections ++ sections.graph) rows sections.detailBody := by
  rw [encodeCifp] at ran
  split at ran
  · cases ran
  rename_i airportCount body final ranEncode
  simp only [Except.ok.injEq, Prod.mk.injEq] at ran
  rcases ran with ⟨there, rfl⟩
  rcases encodedSegments_of_encode ranEncode consistent with ⟨rows, encodedFirst⟩
  have encoded := encodedFirst.mono extended
  cases encoded.count_eq
  cases encoded.body_eq
  refine ⟨rows, there.symm, encoded, ?_⟩
  have body_eq : sections.cifpBody = assembleSection (written rows) := by
    rw [Sections.cifpBody, ← there]
    rfl
  constructor
  case bytes_eq =>
    rw [whole, container_eq, body_eq]
    simp only [List.append_assoc]
  case length_lt =>
    have counted := StringPool.length_lt poolConsistent small encoded.nodup encoded.there
    rw [List.length_map, encoded.stored.length_eq] at counted
    exact counted

/-- The row of the procedures, in any file, is that of their section. -/
theorem openCifp_placed {rows : List Row} {poolBlob : Text}
    (there : sections.cifp = some (UInt32.ofNat rows.length, assembleSection (written rows)))
    (placed : Placed file (beforeSections front poolBlob sections ++ sections.graph) rows sections.detailBody)
    (reader : PreadFile) :
    openCifp indexSort reader (some (sections.cifpRow (sectionsStart front poolBlob))) poolBlob =
      (openSection indexSort reader (UInt64.ofNat (beforeSections front poolBlob sections ++ sections.graph).length)
        (UInt64.ofNat (assembleSection (written rows)).length) (Crc32C.compute ((assembleSection (written rows)).take
          (directoryPrefixLen (UInt32.ofNat rows.length)))) poolBlob).map some := by
  have place : sectionsStart front poolBlob + sections.graph.length =
      (beforeSections front poolBlob sections ++ sections.graph).length := by
    rw [List.length_append, length_beforeSections]
  have size := file.size_lt
  have fits : sectionsStart front poolBlob + sections.graph.length < 2 ^ 64 := by
    rw [placed.bytes_eq, List.length_append, ← place] at size
    omega
  have pos := sectionsStart_pos front poolBlob
  rw [openCifp, Sections.cifpRow, there]
  simp only [present_of_pos (show 0 < sectionsStart front poolBlob + sections.graph.length by omega) fits]
  rw [place]

/-- The procedure section opens to an archive that answers what was encoded. -/
theorem openCifp_built {cifp : Option (List (Text × CifpData))} {before after : StringPool}
    (whole : file.bytes = container front pool.blob sections)
    (ran : encodeCifp cifp before = .ok (sections.cifp, after)) (consistent : before.Consistent)
    (extended : after.Extends pool) (poolConsistent : pool.Consistent) (small : pool.blob.length < 2 ^ 32)
    (valid : forall procedures, cifp = some procedures -> forall airport, airport ∈ procedures -> airport.2.Valid)
    (short : forall procedures, cifp = some procedures -> forall airport, airport ∈ procedures ->
      segmentLength airport.2 < 2 ^ 32) :
    exists opened,
      openCifp indexSort file (some (sections.cifpRow (sectionsStart front pool.blob))) pool.blob = .ok opened ∧
      (cifp = none -> opened = none) ∧
      forall procedures, cifp = some procedures -> exists archive, opened = some archive ∧
        archive.Answers procedures := by
  cases cifp with
  | none =>
      rw [encodeCifp, Except.ok.injEq, Prod.mk.injEq] at ran
      refine ⟨none, openCifp_none ran.1.symm, fun _ => rfl, fun procedures absurd => ?_⟩
      cases absurd
  | some procedures =>
      rcases placed_of_encodeCifp whole ran consistent extended poolConsistent small with
        ⟨rows, there, encoded, placed⟩
      have rowShort := length_of_stored encoded.stored (short procedures rfl)
      have opens := placed.openSection indexSort rfl rfl (encoded.resolved small)
      refine ⟨some (CifpArchive.built indexSort file (beforeSections front pool.blob sections ++ sections.graph) rows
        pool.blob), ?_, ?_, ?_⟩
      · rw [openCifp_placed there placed, opens]
        rfl
      · intro absurd
        cases absurd
      · rintro _ ⟨⟩
        refine ⟨_, rfl, ?_⟩
        constructor
        case fetch => exact CifpArchive.fetch_built placed encoded small (valid procedures rfl) rowShort
        case fetchAll => exact CifpArchive.fetchAll_built placed encoded small (valid procedures rfl) rowShort

end Sections

/-- What `Build` writes opens to what it was given. -/
theorem openFile_build (indexSort : CifpCodec.IndexSort) {input : BuildInput} {file : PreadFile}
    (storable : Storable input) (built : build input = .ok file.bytes) (path : Text) :
    exists data, openFile indexSort path (some file) = .ok data ∧ ReadBack input data := by
  unfold build at built
  split at built
  · cases built
  rename_i sections pool ran
  split at built
  · cases built
  rename_i addressed
  split at built
  · cases built
  rename_i front header
  have whole : file.bytes = container front pool.blob sections := (Except.ok.inj built).symm
  have small : pool.blob.length < 2 ^ 32 := by omega
  rcases sections_of_encode ran with ⟨graph, afterGraph, afterCifp, hasGraph, graphRan, cifpRan, detailRan⟩
  rcases GraphCodec.grows_encode graph _ _ _ graphRan StringPool.consistent_empty with ⟨graphConsistent, -⟩
  rcases grows_encodeCifp cifpRan graphConsistent with ⟨cifpConsistent, toCifp⟩
  rcases grows_encodeDetail detailRan cifpConsistent with ⟨poolConsistent, toPool⟩
  have graphSmall : afterGraph.blob.length < 2 ^ 32 :=
    Nat.lt_of_le_of_lt (toCifp.trans toPool).blob.length_le small
  have graphDecoded := GraphCodec.decode_of_encode (storable.counted graph hasGraph) graphRan StringPool.sound_empty
    graphSmall (toCifp.trans toPool).blob
  have detailOpened := openDetail_built whole detailRan cifpConsistent.sound small storable.detail
  rcases openCifp_built whole cifpRan graphConsistent toPool poolConsistent small storable.valid storable.short with
    ⟨cifp, cifpOpened, noCifp, answers⟩
  refine ⟨_, openFile_container whole header small ⟨graphDecoded, cifpOpened, detailOpened⟩, ?_⟩
  constructor
  case header => rfl
  case graph => rw [hasGraph]; rfl
  case detail => rfl
  case noCifp => exact noCifp
  case cifp => exact answers

/-- A header is as long as its strings, and forty bytes. -/
theorem length_headerBytes {header : UnifiedHeader} {pool front : Text}
    (written : headerBytes header pool = some front) :
    front.length = 40 + header.programVersion.length + header.sourceLoader.length + header.dataDir.length := by
  rcases raw_of_headerBytes written with ⟨raw, rfl, rfl, -⟩
  exact raw.length_bytes

/-! ## A file of one airport -/

/-- An airport with one runway, and no details. -/
def oneAirport (grid : MoraGrid) : BuildInput :=
  ⟨some (.ofGrid grid), some [(kaaa, oneRunway)], some ⟨[], [], false⟩, headerOf 4⟩

theorem storable_oneAirport (grid : MoraGrid) : Storable (oneAirport grid) := by
  constructor
  case counted =>
    rintro _ ⟨⟩
    exact ⟨Nat.two_pow_pos 32, Nat.two_pow_pos 32, Nat.two_pow_pos 32, List.forall_mem_nil _⟩
  case valid =>
    rintro _ ⟨⟩
    rw [List.forall_mem_singleton]
    exact ⟨List.forall_mem_nil _, by decide, by decide⟩
  case short =>
    rintro _ ⟨⟩
    rw [List.forall_mem_singleton]
    decide
  case detail =>
    rintro _ ⟨⟩
    exact ⟨List.forall_mem_nil _, List.forall_mem_nil _, by decide, by decide⟩

theorem encode_oneAirport : CifpCodec.encode [(kaaa, oneRunway)] StringPool.empty =
    .ok (1, assembleSection [(⟨0, 4⟩, oneRunwaySegment 0)], ⟨kaaa, [(kaaa, ⟨0, 4⟩)]⟩) := rfl

theorem encode_noDetail : NavDetailCodec.encode ⟨[], [], false⟩ ⟨kaaa, [(kaaa, ⟨0, 4⟩)]⟩ =
    .ok (List.replicate 8 0, ⟨kaaa, [(kaaa, ⟨0, 4⟩)]⟩) := rfl

theorem length_oneAirport : (assembleSection [(⟨0, 4⟩, oneRunwaySegment 0)]).length = 64 := by
  simp only [assembleSection, directory, directoryRow, oneRunwaySegment, List.length_append, List.length_cons,
    List.length_nil, List.flatMap_cons, List.flatMap_nil, ByteWriter.length_u32, ByteWriter.length_u64,
    List.length_replicate]

theorem front_oneAirport : exists front, headerBytes (headerOf 4) kaaa = some front ∧ front.length = 44 := by
  have dataDir : (headerOf 4).dataDir.length < 2 ^ 32 := by
    rw [headerOf, List.length_replicate]
    decide
  rcases @headerBytes_of_short (headerOf 4) kaaa (Nat.two_pow_pos 32) (Nat.two_pow_pos 32) dataDir with ⟨front, written⟩
  refine ⟨front, written, ?_⟩
  rw [length_headerBytes written, headerOf, List.length_replicate]
  rfl

/-- The sections of its file. -/
def oneAirportSections (grid : MoraGrid) : Sections :=
  ⟨GraphCodec.gridBody grid, some (1, assembleSection [(⟨0, 4⟩, oneRunwaySegment 0)]), some (List.replicate 8 0)⟩

theorem fits_oneAirport (grid : MoraGrid) {front : Text} (length : front.length = 44) :
    (container front kaaa (oneAirportSections grid)).length < 2 ^ 64 := by
  have cells : kMoraCells = 64800 := rfl
  have table : kSectionCount.toNat * kSectionRowSize = 72 := rfl
  have pool : kaaa.length = 4 := rfl
  rw [length_container, sectionsStart, length, oneAirportSections, GraphCodec.length_gridBody, cells, table,
    kHeaderCrcSize, pool, Sections.cifpBody, Sections.detailBody]
  simp only [Option.map_some, Option.getD_some, length_oneAirport, List.length_replicate]
  omega

theorem build_oneAirport (grid : MoraGrid) : exists (file : PreadFile) (front : Text),
    headerBytes (headerOf 4) kaaa = some front ∧ file.bytes = container front kaaa (oneAirportSections grid) ∧
      build (oneAirport grid) = .ok file.bytes := by
  rcases front_oneAirport with ⟨front, written, length⟩
  have addressed : ¬ 0xFFFFFFFF < kaaa.length := by
    have pool : kaaa.length = 4 := rfl
    rw [pool]
    decide
  refine ⟨⟨_, fits_oneAirport grid length⟩, front, written, rfl, ?_⟩
  simp only [build, encodeSections, oneAirport, GraphCodec.encode_ofGrid, encodeCifp, encode_oneAirport, encodeDetail,
    encode_noDetail, addressed, if_false, written, oneAirportSections]

theorem openFile_build_oneAirport : exists file : PreadFile, build (oneAirport .unknown) = .ok file.bytes ∧
    exists data, openFile .stable kaaa (some file) = .ok data ∧ ReadBack (oneAirport .unknown) data := by
  rcases build_oneAirport .unknown with ⟨file, _, _, _, built⟩
  exact ⟨file, built, openFile_build _ (storable_oneAirport .unknown) built kaaa⟩

end UnifiedCache
end BravoFinder
