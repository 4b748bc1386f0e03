import BravoFinder.Cache.ContainerBuild
import BravoFinder.Cache.CifpFetch
import BravoFinder.Cache.PoolGrowth

namespace BravoFinder

/-!
# The directory is read as it was written

The rows of the directory are the airports in the order of the input, each with
the place of its segment.  Opening a section that was built reads exactly these
rows.
-/

namespace CifpCodec

open Decoder Encoder

/-! ## How long a segment is -/

def procedureLength (procedure : Procedure) : Nat :=
  kProcedureHeaderSize + kProcedureLegSize * procedure.legs.length

/-- The length of an airport's segment. -/
def segmentLength (data : CifpData) : Nat :=
  8 + (data.procedures.map procedureLength).sum + kRunwaySize * data.runways.length

theorem emits_serializeLeg (leg : ProcedureLeg) : Emits (serializeLeg leg) kProcedureLegSize := by
  have emits : Emits (serializeLeg leg) _ :=
    (Emits.ref _).append ((Emits.ref _).append ((Emits.write _).append ((Emits.write _).append
      ((Emits.write _).append ((Emits.write _).append ((Emits.write _).append ((Emits.write _).append
      ((Emits.write _).append ((Emits.write _).append ((Emits.write _).append ((Emits.write _).append
      ((Emits.write _).append ((Emits.write _).append Emits.done)))))))))))))
  simp only [ByteWriter.length_u8, ByteWriter.length_u16, ByteWriter.length_u32,
    ByteWriter.length_i32, Nat.reduceAdd] at emits
  exact emits

theorem emits_serializeProcedure (procedure : Procedure) :
    Emits (serializeProcedure procedure) (procedureLength procedure) := by
  have legs : Emits (each serializeLeg procedure.legs) (kProcedureLegSize * procedure.legs.length) := by
    have emits := Emits.each procedure.legs fun leg _ => emits_serializeLeg leg
    rw [List.map_const', List.sum_replicate_nat, Nat.mul_comm] at emits
    exact emits
  have emits := (Emits.write (ByteWriter.u8 procedure.type.toByte)).append ((Emits.write (E := Error)
    (ByteWriter.i32 procedure.routeType)).append ((Emits.ref procedure.name).append
    ((Emits.ref procedure.transitionIdent).append ((Emits.ref procedure.runway).append
    ((Emits.write (ByteWriter.u32 (UInt32.ofNat procedure.legs.length))).append (legs.append Emits.done))))))
  have total : procedureLength procedure = (ByteWriter.u8 procedure.type.toByte).length +
      ((ByteWriter.i32 procedure.routeType).length + (8 + (8 + (8 +
        ((ByteWriter.u32 (UInt32.ofNat procedure.legs.length)).length +
          (kProcedureLegSize * procedure.legs.length + 0)))))) := by
    rw [ByteWriter.length_u8, ByteWriter.length_i32, ByteWriter.length_u32, procedureLength, kProcedureHeaderSize]
    omega
  rw [total]
  exact emits

theorem emits_serializeRunway (runway : Runway) : Emits (serializeRunway runway) kRunwaySize :=
  (Emits.ref _).append ((Emits.write _).append ((Emits.write _).append ((Emits.write _).append Emits.done)))

theorem emits_serializeSegment (data : CifpData) : Emits (serializeSegment data) (segmentLength data) := by
  have procedures := Emits.each data.procedures fun procedure _ => emits_serializeProcedure procedure
  have runways : Emits (each serializeRunway data.runways) (kRunwaySize * data.runways.length) := by
    have emits := Emits.each data.runways fun runway _ => emits_serializeRunway runway
    rw [List.map_const', List.sum_replicate_nat, Nat.mul_comm] at emits
    exact emits
  have emits := (Emits.write (E := Error) (ByteWriter.u32 (UInt32.ofNat data.procedures.length))).append
    (procedures.append ((Emits.write (ByteWriter.u32 (UInt32.ofNat data.runways.length))).append
      (runways.append Emits.done)))
  have total : segmentLength data = (ByteWriter.u32 (UInt32.ofNat data.procedures.length)).length +
      ((data.procedures.map procedureLength).sum + ((ByteWriter.u32 (UInt32.ofNat data.runways.length)).length +
        (kRunwaySize * data.runways.length + 0))) := by
    rw [ByteWriter.length_u32, ByteWriter.length_u32, segmentLength]
    omega
  rw [total]
  exact emits

/-! ## The rows -/

/-- One airport of a section: its key, where its name went in the pool, and its
segment. -/
structure Row where
  key : FixedName8
  ref : StringRef
  body : Text

/-- What the directory is written from. -/
def written (rows : List Row) : List (StringRef × Text) := rows.map fun row => (row.ref, row.body)

/-- What the directory is read as. -/
def located (sectionOffset : UInt64) : Nat -> List Row -> List (FixedName8 × SegmentLoc)
  | _, [] => []
  | running, row :: rest =>
      (row.key, ⟨sectionOffset + UInt64.ofNat running, UInt32.ofNat row.body.length, Crc32C.compute row.body⟩) ::
        located sectionOffset (running + row.body.length) rest

/-- The bytes of all segments. -/
def segments (rows : List Row) : Text := rows.flatMap Row.body

theorem length_directory (running : Nat) (entries : List (StringRef × Text)) :
    (directory running entries).length = entries.length * kDirEntrySize := by
  induction entries generalizing running with
  | nil => rw [directory, List.length_nil, List.length_nil, Nat.zero_mul]
  | cons entry rest inductionHypothesis =>
      rcases entry with ⟨icao, body⟩
      simp only [directory, directoryRow, List.length_append, ByteWriter.length_u32, ByteWriter.length_u64,
        inductionHypothesis, List.length_cons, kDirEntrySize]
      omega

theorem assembleSection_written (rows : List Row) : assembleSection (written rows) =
    ByteWriter.u32 (UInt32.ofNat rows.length) ++
      directory (4 + rows.length * kDirEntrySize) (written rows) ++ segments rows := by
  rw [assembleSection, written, List.length_map, List.flatMap_map]
  rfl

theorem length_assembleSection (rows : List Row) : (assembleSection (written rows)).length =
    4 + rows.length * kDirEntrySize + (segments rows).length := by
  rw [assembleSection_written, List.length_append, List.length_append, ByteWriter.length_u32, length_directory,
    written, List.length_map]

section Reading

variable {sectionOffset sectionLength : UInt64} {airportCount : UInt32} {pool : Text}

/-- A row whose segment lies in the section, behind the directory, is read. -/
theorem reads_openEntry {row : Row} {running : Nat} (resolved : resolveRef pool row.ref = some row.key.text)
    (fits : running + row.body.length ≤ sectionLength.toNat) (behind : directoryPrefixLen airportCount ≤ running) :
    Reads (openEntry sectionOffset sectionLength airportCount pool) (directoryRow row.ref running row.body)
      (row.key, ⟨sectionOffset + UInt64.ofNat running, UInt32.ofNat row.body.length, Crc32C.compute row.body⟩) := by
  have sectionLt := sectionLength.toNat_lt
  have place : (UInt64.ofNat running).toNat = running := UnifiedCache.toNat_ofNat_u64 (by omega)
  have cut : (UInt32.ofNat row.body.length).toNat ≤ row.body.length := by
    rw [UInt32.toNat_ofNat']
    exact Nat.mod_le _ _
  have inside : ¬ (sectionLength < UInt64.ofNat running ∨
      sectionLength.toNat - (UInt64.ofNat running).toNat < (UInt32.ofNat row.body.length).toNat) := by
    rw [UInt64.lt_iff_toNat_lt, place]
    omega
  have apart : ¬ (0 < UInt32.ofNat row.body.length ∧
      (UInt64.ofNat running).toNat < directoryPrefixLen airportCount) := by
    rw [place]
    omega
  have bytes : directoryRow row.ref running row.body = (ByteWriter.u32 row.ref.offset ++
      ByteWriter.u32 row.ref.length) ++ (ByteWriter.u64 (UInt64.ofNat running) ++
        (ByteWriter.u32 (UInt32.ofNat row.body.length) ++ (ByteWriter.u32 (Crc32C.compute row.body) ++ []))) := by
    simp only [directoryRow, List.append_assoc, List.append_nil]
  rw [bytes]
  apply (reads_stringRef row.ref).bind
  apply (ByteReader.reads_u64 _).bind
  apply (ByteReader.reads_u32 _).bind
  apply (ByteReader.reads_u32 _).bind
  apply Reads.silent (Reads.requireOk _)
  simp only [resolved]
  apply Reads.silent (Reads.pure _)
  apply Reads.silent (Reads.require (by simp only [decide_eq_false inside, Bool.not_false]))
  apply Reads.silent (Reads.require (by simp only [decide_eq_false apart, Bool.not_false]))
  simp only [FixedName8.ofText_self]
  exact Reads.silent (Reads.pure row.key) (Reads.pure _)

theorem reads_directory {rows : List Row} {running : Nat}
    (resolved : forall row, row ∈ rows -> resolveRef pool row.ref = some row.key.text)
    (fits : running + (segments rows).length ≤ sectionLength.toNat)
    (behind : directoryPrefixLen airportCount ≤ running) :
    Reads (times rows.length (openEntry sectionOffset sectionLength airportCount pool))
      (directory running (written rows)) (located sectionOffset running rows) := by
  induction rows generalizing running with
  | nil => exact Reads.pure []
  | cons row rest inductionHypothesis =>
      have total : (segments (row :: rest)).length = row.body.length + (segments rest).length := by
        rw [segments, List.flatMap_cons, List.length_append]
        rfl
      rw [total] at fits
      have first := @reads_openEntry sectionOffset sectionLength airportCount pool row running
        (resolved row List.mem_cons_self) (by omega) behind
      have others := @inductionHypothesis (running + row.body.length)
        (fun other member => resolved other (List.mem_cons_of_mem _ member)) (by omega) (by omega)
      exact first.bind (others.map fun tail => _ :: tail)

end Reading

/-! ## The section -/

/-- A section as it lies in a file, fewer than 2^32 airports long. -/
structure Placed (file : PreadFile) (front : Text) (rows : List Row) (behind : Text) : Prop where
  bytes_eq : file.bytes = front ++ (assembleSection (written rows) ++ behind)
  length_lt : rows.length < 2 ^ 32

namespace Placed

variable {file : PreadFile} {front behind : Text} {rows : List Row}

theorem toNat_count (placed : Placed file front rows behind) : (UInt32.ofNat rows.length).toNat = rows.length :=
  UInt32.toNat_ofNat_of_lt placed.length_lt

theorem size_eq (placed : Placed file front rows behind) : file.size =
    front.length + (4 + rows.length * kDirEntrySize + (segments rows).length) + behind.length := by
  rw [PreadFile.size, placed.bytes_eq, List.length_append, List.length_append, length_assembleSection]
  omega

theorem toNat_offset (placed : Placed file front rows behind) : (UInt64.ofNat front.length).toNat = front.length := by
  have size := placed.size_eq
  have lt : file.size < 2 ^ 64 := file.size_lt
  exact UnifiedCache.toNat_ofNat_u64 (by omega)

theorem toNat_length (placed : Placed file front rows behind) :
    (UInt64.ofNat (assembleSection (written rows)).length).toNat =
      4 + rows.length * kDirEntrySize + (segments rows).length := by
  have size := placed.size_eq
  have lt : file.size < 2 ^ 64 := file.size_lt
  rw [length_assembleSection]
  exact UnifiedCache.toNat_ofNat_u64 (by omega)

/-- The count, and what of the directory follows it. -/
theorem readAt_count (placed : Placed file front rows behind) :
    file.readAt front.length 4 = some (ByteWriter.u32 (UInt32.ofNat rows.length)) := by
  have whole : file.bytes = front ++ (ByteWriter.u32 (UInt32.ofNat rows.length) ++
      (directory (4 + rows.length * kDirEntrySize) (written rows) ++ segments rows ++ behind)) := by
    rw [placed.bytes_eq, assembleSection_written]
    simp only [List.append_assoc]
  have read := PreadFile.readAt_append whole
  rw [ByteWriter.length_u32] at read
  exact read

theorem readAt_directory (placed : Placed file front rows behind) :
    file.readAt (front.length + 4) (rows.length * kDirEntrySize) =
      some (directory (4 + rows.length * kDirEntrySize) (written rows)) := by
  have whole : file.bytes = (front ++ ByteWriter.u32 (UInt32.ofNat rows.length)) ++
      (directory (4 + rows.length * kDirEntrySize) (written rows) ++ (segments rows ++ behind)) := by
    rw [placed.bytes_eq, assembleSection_written]
    simp only [List.append_assoc]
  have read := PreadFile.readAt_append whole
  rw [List.length_append, ByteWriter.length_u32, length_directory, written, List.length_map] at read
  exact read

/-- The checksum in the row of the table covers the count and the directory. -/
theorem compute_prefix (placed : Placed file front rows behind) :
    Crc32C.compute ((assembleSection (written rows)).take (directoryPrefixLen (UInt32.ofNat rows.length))) =
      Crc32C.update (Crc32C.update 0 (ByteWriter.u32 (UInt32.ofNat rows.length)))
        (directory (4 + rows.length * kDirEntrySize) (written rows)) := by
  have length : directoryPrefixLen (UInt32.ofNat rows.length) = (ByteWriter.u32 (UInt32.ofNat rows.length) ++
      directory (4 + rows.length * kDirEntrySize) (written rows)).length := by
    rw [directoryPrefixLen, placed.toNat_count, List.length_append, ByteWriter.length_u32, length_directory,
      written, List.length_map]
  rw [assembleSection_written, length, List.take_left, Crc32C.update_append]
  rfl

/-- A section that was built opens to its rows, in every file that has its count
and its directory. -/
theorem openSection (placed : Placed file front rows behind) (indexSort : IndexSort) {reader : PreadFile} {pool : Text}
    (sameCount : reader.readAt front.length 4 = file.readAt front.length 4)
    (sameDirectory : reader.readAt (front.length + 4) (rows.length * kDirEntrySize) =
      file.readAt (front.length + 4) (rows.length * kDirEntrySize))
    (resolved : forall row, row ∈ rows -> resolveRef pool row.ref = some row.key.text) :
    openSection indexSort reader (UInt64.ofNat front.length) (UInt64.ofNat (assembleSection (written rows)).length)
      (Crc32C.compute ((assembleSection (written rows)).take (directoryPrefixLen (UInt32.ofNat rows.length)))) pool =
      .ok ⟨reader, indexSort.sort (located (UInt64.ofNat front.length) (4 + rows.length * kDirEntrySize) rows),
        pool⟩ := by
  have long : ¬ UInt64.ofNat (assembleSection (written rows)).length < 4 := by
    have four : (4 : UInt64).toNat = 4 := rfl
    rw [UInt64.lt_iff_toNat_lt, placed.toNat_length, four]
    omega
  have counted : UInt32.ofNat (leNat (ByteWriter.u32 (UInt32.ofNat rows.length))) = UInt32.ofNat rows.length := by
    have fits : (UInt32.ofNat rows.length).toNat < 256 ^ 4 := (UInt32.ofNat rows.length).toNat_lt
    rw [ByteWriter.u32, leNat_leBytes_of_lt fits, UInt32.ofNat_toNat]
  have enough : ¬ ((UInt64.ofNat (assembleSection (written rows)).length).toNat - 4) / kDirEntrySize <
      (UInt32.ofNat rows.length).toNat := by
    rw [placed.toNat_length, placed.toNat_count, kDirEntrySize]
    omega
  have reads := @reads_directory (UInt64.ofNat front.length) (UInt64.ofNat (assembleSection (written rows)).length)
    (UInt32.ofNat rows.length) pool rows (4 + rows.length * kDirEntrySize) resolved
    (by rw [placed.toNat_length]) (by rw [directoryPrefixLen, placed.toNat_count])
  rcases reads [] [] with ⟨allocated, ran⟩
  rw [List.append_nil] at ran
  unfold CifpCodec.openSection
  rw [if_neg long, placed.toNat_offset, sameCount, placed.readAt_count]
  simp only [counted]
  rw [if_neg enough, placed.toNat_count, sameDirectory, placed.readAt_directory]
  simp only [placed.compute_prefix, ne_eq, not_true_eq_false, if_false, ran]

end Placed

/-! ## Encoding -/

theorem exists_keys {procedures : List (Text × CifpData)} (faultless : keyFault procedures = none) :
    exists keys : List FixedName8, keys.map FixedName8.text = procedures.map Prod.fst := by
  induction procedures with
  | nil => exact ⟨[], rfl⟩
  | cons airport rest inductionHypothesis =>
      rcases airport with ⟨icao, data⟩
      unfold keyFault at faultless
      split at faultless
      · cases faultless
      rename_i key named
      rcases inductionHypothesis faultless with ⟨keys, same⟩
      refine ⟨key :: keys, ?_⟩
      rw [List.map_cons, List.map_cons, FixedName8.text_of_ofText named, same]

/-- Sorted, and without two equal neighbours, nothing occurs twice. -/
theorem nodup_of_adjacentFind {sorted : List Text} (ascending : sorted.Pairwise fun a b => ¬ b < a)
    (apart : adjacentFind sorted = none) : sorted.Nodup := by
  induction sorted with
  | nil => exact List.nodup_nil
  | cons first rest inductionHypothesis =>
      rcases List.pairwise_cons.mp ascending with ⟨above, ascendingRest⟩
      cases rest with
      | nil => exact List.nodup_singleton first
      | cons second others =>
          rw [adjacentFind] at apart
          split at apart
          · cases apart
          rename_i different
          refine List.nodup_cons.mpr ⟨?_, inductionHypothesis ascendingRest apart⟩
          intro member
          rcases List.mem_cons.mp member with same | later
          · exact different same
          · have notBefore := (List.pairwise_cons.mp ascendingRest).1 first later
            exact different (List.le_antisymm (above second List.mem_cons_self) notBefore)

theorem nodup_of_sorted {icaos : List Text}
    (apart : adjacentFind (icaos.insertionSort fun a b => ¬ b < a) = none) : icaos.Nodup := by
  let order := fun a b : Text => ¬ b < a
  have total : Std.Total order := ⟨fun a b => List.le_total a b⟩
  have trans : IsTrans _ order := ⟨fun a b c first second => List.le_trans first second⟩
  have ascending := List.pairwise_insertionSort order icaos
  exact (List.perm_insertionSort order icaos).nodup_iff.mp (nodup_of_adjacentFind ascending apart)

theorem serializeSegments_spec {procedures : List (Text × CifpData)} {pool after : StringPool} {bodies : List Text}
    (ran : serializeSegments procedures pool = .ok (bodies, after)) (consistent : pool.Consistent) :
    after.Consistent ∧ pool.Extends after ∧
      bodies.map List.length = procedures.map fun airport => segmentLength airport.2 := by
  induction procedures generalizing pool bodies with
  | nil =>
      cases ran
      exact ⟨consistent, .refl _, rfl⟩
  | cons airport rest inductionHypothesis =>
      rcases airport with ⟨icao, data⟩
      rw [serializeSegments] at ran
      split at ran
      · cases ran
      rename_i body between serialized
      split at ran
      · cases ran
      rename_i others final serializedRest
      cases ran
      rcases grows_serializeSegment data pool body between serialized consistent with ⟨betweenConsistent, toBetween⟩
      rcases inductionHypothesis serializedRest betweenConsistent with ⟨afterConsistent, toAfter, lengths⟩
      refine ⟨afterConsistent, toBetween.trans toAfter, ?_⟩
      rw [List.map_cons, List.map_cons, lengths, emits_serializeSegment data pool body between serialized]

/-- The references of the airports, and what the pool makes of them. -/
structure Interned (procedures : List (Text × CifpData)) (pool : StringPool) (refs : List StringRef)
    (after : StringPool) : Prop where
  consistent : after.Consistent
  extended : pool.Extends after
  length_eq : refs.length = procedures.length
  there : forall icao, icao ∈ procedures.map Prod.fst -> icao ∈ after.interned.map Prod.fst
  resolved : after.blob.length < 2 ^ 32 ->
    refs.map (resolveRef after.blob) = procedures.map fun airport => some airport.1

theorem interned_internIcaos (procedures : List (Text × CifpData)) {pool : StringPool}
    (consistent : pool.Consistent) :
    Interned procedures pool (internIcaos procedures pool).1 (internIcaos procedures pool).2 := by
  induction procedures generalizing pool with
  | nil => exact ⟨consistent, .refl pool, rfl, List.forall_mem_nil _, fun _ => rfl⟩
  | cons airport rest inductionHypothesis =>
      rcases airport with ⟨icao, data⟩
      have others := inductionHypothesis (StringPool.consistent_add consistent icao)
      constructor
      case consistent => exact others.consistent
      case extended => exact (StringPool.extends_add pool icao).trans others.extended
      case length_eq => exact congrArg Nat.succ others.length_eq
      case there =>
        intro other member
        rcases List.mem_cons.mp member with rfl | later
        · exact others.extended.mem (StringPool.mem_add pool _)
        · exact others.there other later
      case resolved =>
        intro small
        rcases others.extended.blob with ⟨more, grown⟩
        have short : (pool.add icao).2.blob.length < 2 ^ 32 :=
          Nat.lt_of_le_of_lt others.extended.blob.length_le small
        have first : resolveRef (pool.add icao).2.blob (pool.add icao).1 = some icao :=
          (StringPool.add_spec consistent.sound rfl).2.2 short
        have kept := resolveRef_append more first
        rw [grown] at kept
        exact congrArg₂ List.cons kept (others.resolved small)

/-- The airports of a section that was encoded, with the pool it left. -/
structure Encoded (procedures : List (Text × CifpData)) (after : StringPool) (airportCount : UInt32) (body : Text)
    (rows : List Row) : Prop where
  count_eq : airportCount = UInt32.ofNat rows.length
  body_eq : body = assembleSection (written rows)
  keys_eq : rows.map (fun row => row.key.text) = procedures.map Prod.fst
  lengths_eq : rows.map (fun row => row.body.length) = procedures.map fun airport => segmentLength airport.2
  nodup : (procedures.map Prod.fst).Nodup
  there : forall icao, icao ∈ procedures.map Prod.fst -> icao ∈ after.interned.map Prod.fst
  resolved : after.blob.length < 2 ^ 32 -> forall row, row ∈ rows ->
    resolveRef after.blob row.ref = some row.key.text

theorem exists_rows {small : Prop} {blob : Text} {procedures : List (Text × CifpData)} {keys : List FixedName8}
    {refs : List StringRef} {bodies : List Text}
    (named : keys.map FixedName8.text = procedures.map Prod.fst) (counted : refs.length = procedures.length)
    (resolved : small -> refs.map (resolveRef blob) = procedures.map fun airport => some airport.1)
    (lengths : bodies.map List.length = procedures.map fun airport => segmentLength airport.2) :
    exists rows : List Row, written rows = refs.zip bodies ∧
      rows.map (fun row => row.key.text) = procedures.map Prod.fst ∧
      rows.map (fun row => row.body.length) = procedures.map (fun airport => segmentLength airport.2) ∧
      (small -> forall row, row ∈ rows -> resolveRef blob row.ref = some row.key.text) := by
  induction procedures generalizing keys refs bodies with
  | nil =>
      rw [List.map_nil, List.map_eq_nil_iff] at named lengths
      rw [List.length_nil, List.length_eq_zero_iff] at counted
      subst counted
      exact ⟨[], rfl, rfl, rfl, fun _ => List.forall_mem_nil _⟩
  | cons airport rest inductionHypothesis =>
      rcases List.map_eq_cons_iff.mp named with ⟨key, moreKeys, rfl, first, namedRest⟩
      rcases List.map_eq_cons_iff.mp lengths with ⟨body, moreBodies, rfl, length, lengthsRest⟩
      rcases List.length_eq_succ_iff.mp counted with ⟨ref, moreRefs, rfl, countedRest⟩
      have each : small -> resolveRef blob ref = some airport.1 ∧
          moreRefs.map (resolveRef blob) = rest.map fun airport => some airport.1 := by
        intro holds
        exact List.cons_eq_cons.mp (resolved holds)
      rcases inductionHypothesis namedRest countedRest (fun holds => (each holds).2) lengthsRest with
        ⟨rows, sameWritten, sameKeys, sameLengths, sameResolved⟩
      refine ⟨⟨key, ref, body⟩ :: rows, ?_, ?_, ?_, ?_⟩
      · exact congrArg _ sameWritten
      · exact congrArg₂ List.cons first sameKeys
      · exact congrArg₂ List.cons length sameLengths
      · intro holds row member
        rcases List.mem_cons.mp member with rfl | later
        · rw [(each holds).1, first]
        · exact sameResolved holds row later

theorem encoded_of_encode {procedures : List (Text × CifpData)} {pool after : StringPool} {airportCount : UInt32}
    {body : Text} (ran : encode procedures pool = .ok (airportCount, body, after)) (consistent : pool.Consistent) :
    after.Consistent ∧ pool.Extends after ∧ exists rows, Encoded procedures after airportCount body rows := by
  unfold encode at ran
  split at ran
  · cases ran
  rename_i faultless
  split at ran
  · cases ran
  rename_i apart
  split at ran
  · cases ran
  rename_i bodies between serialized
  cases ran
  rcases exists_keys faultless with ⟨keys, named⟩
  rcases serializeSegments_spec serialized consistent with ⟨betweenConsistent, toBetween, lengths⟩
  have interned := interned_internIcaos procedures betweenConsistent
  rcases exists_rows named interned.length_eq interned.resolved lengths with
    ⟨rows, sameWritten, sameKeys, sameLengths, resolved⟩
  refine ⟨interned.consistent, toBetween.trans interned.extended, rows, ?_⟩
  constructor
  case count_eq =>
    have counted := congrArg List.length sameKeys
    rw [List.length_map, List.length_map] at counted
    rw [counted]
  case body_eq => rw [sameWritten]
  case keys_eq => exact sameKeys
  case lengths_eq => exact sameLengths
  case nodup => exact nodup_of_sorted apart
  case there => exact interned.there
  case resolved => exact resolved

end CifpCodec
end BravoFinder
