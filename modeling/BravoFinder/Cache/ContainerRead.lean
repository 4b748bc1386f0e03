import BravoFinder.Cache.UnifiedCache

namespace BravoFinder

/-!
# The layout of the header

Both readers of the header accept the same bytes, those of a `RawHeader`: each
field, written where the layout puts it.  What a reader accepts is written
back, and what is written is read.
-/

namespace UnifiedCache

open Decoder

/-- The fields of a header as they lie in the file. -/
structure RawHeader where
  sectionCount : UInt32
  cycle : UInt32
  programVersion : Text
  sourceLoader : Text
  dataDir : Text
  airwayDirection : UInt8
  altitudeBands : UInt8
  moraGrid : UInt8
  msaSectors : UInt8
  poolLen : UInt32
  poolCrc : UInt32
  programVersion_lt : programVersion.length < 2 ^ 32
  sourceLoader_lt : sourceLoader.length < 2 ^ 32
  dataDir_lt : dataDir.length < 2 ^ 32

/-- A string behind its length. -/
def strBytes (s : Text) : Text := ByteWriter.u32 (UInt32.ofNat s.length) ++ s

namespace RawHeader

/-- What the fields say. -/
def header (raw : RawHeader) : UnifiedHeader :=
  ⟨raw.cycle, raw.programVersion, raw.sourceLoader, raw.dataDir,
    capabilitiesOf raw.airwayDirection raw.altitudeBands raw.moraGrid raw.msaSectors⟩

def fixed (raw : RawHeader) : FixedHeader := ⟨raw.header, raw.poolLen, raw.poolCrc⟩

/-- The fields after the magic and the version. -/
def tailBytes (raw : RawHeader) : Text :=
  ByteWriter.u32 raw.sectionCount ++ (ByteWriter.u32 raw.cycle ++ (strBytes raw.programVersion ++
    (strBytes raw.sourceLoader ++ (strBytes raw.dataDir ++ (ByteWriter.u8 raw.airwayDirection ++
    (ByteWriter.u8 raw.altitudeBands ++ (ByteWriter.u8 raw.moraGrid ++ (ByteWriter.u8 raw.msaSectors ++
    (ByteWriter.u32 raw.poolLen ++ ByteWriter.u32 raw.poolCrc)))))))))

def bytes (raw : RawHeader) : Text :=
  kMagic ++ (ByteWriter.u32 kFormatVersion ++ raw.tailBytes)

theorem length_bytes (raw : RawHeader) : raw.bytes.length =
    40 + raw.programVersion.length + raw.sourceLoader.length + raw.dataDir.length := by
  simp only [bytes, tailBytes, strBytes, kMagic, List.length_append, List.length_cons, List.length_nil,
    ByteWriter.length_u32, ByteWriter.length_u8]
  omega

end RawHeader

/-! ## Reading through the file -/

namespace FileCursor

variable {error : Error}

theorem consumes_read (count : Nat) : Consumes (read count error) id := by
  intro reading bytes after ran ok
  rcases bind_eq_ok ran with ⟨value, between, taken, finished⟩
  cases value with
  | none => cases finished
  | some found =>
      cases finished
      rcases take_eq_ok taken ok with ⟨_, same, _, readingOk, earlier⟩
      cases same
      exact ⟨readingOk, earlier⟩

theorem length_read (count : Nat) : Ensures (read count error) fun bytes => bytes.length = count := by
  intro reading bytes after ran
  rcases bind_eq_ok ran with ⟨value, between, taken, finished⟩
  cases value with
  | none => cases finished
  | some found =>
      cases finished
      unfold take at taken
      split at taken
      · rename_i within
        cases taken
        exact List.length_take_of_le within
      · cases taken

theorem reads_read (bytes : Text) : Reads (read bytes.length error) bytes bytes := by
  intro tail allocated
  rcases Reads.take (E := Error) bytes tail allocated with ⟨after, taken⟩
  exact ⟨after, bind_of_ok taken⟩

theorem consumes_readU8 : Consumes (readU8 error) ByteWriter.u8 := by
  intro reading value after ran ok
  rcases bind_eq_ok ran with ⟨bytes, between, started, finished⟩
  have length := length_read 1 reading bytes between started
  cases finished
  rcases consumes_read 1 reading bytes after started ok with ⟨readingOk, earlier⟩
  rcases List.length_eq_one_iff.mp length with ⟨byte, rfl⟩
  have same : UInt8.ofNat (leNat [byte]) = byte := by
    rw [leNat, leNat, Nat.mul_zero, Nat.add_zero, UInt8.ofNat_toNat]
  rw [same]
  exact ⟨readingOk, earlier⟩

theorem consumes_readU32 : Consumes (readU32 error) ByteWriter.u32 := by
  intro reading value after ran ok
  rcases bind_eq_ok ran with ⟨bytes, between, started, finished⟩
  have length := length_read 4 reading bytes between started
  cases finished
  rcases consumes_read 4 reading bytes after started ok with ⟨readingOk, earlier⟩
  rw [ByteWriter.u32_leNat length]
  exact ⟨readingOk, earlier⟩

theorem consumes_readU64 : Consumes (readU64 error) ByteWriter.u64 := by
  intro reading value after ran ok
  rcases bind_eq_ok ran with ⟨bytes, between, started, finished⟩
  have length := length_read 8 reading bytes between started
  cases finished
  rcases consumes_read 8 reading bytes after started ok with ⟨readingOk, earlier⟩
  rw [ByteWriter.u64_leNat length]
  exact ⟨readingOk, earlier⟩

theorem consumes_readStr : Consumes (readStr error) strBytes := by
  intro reading s after ran ok
  rcases consumes_readU32.step ran with ⟨len, between, ran, back⟩
  rcases bind_fuse ran with ⟨_, finished⟩
  have length := length_read len.toNat between s after finished
  rcases consumes_read len.toNat between s after finished ok with ⟨betweenOk, later⟩
  rcases back betweenOk with ⟨readingOk, earlier⟩
  refine ⟨readingOk, ?_⟩
  rw [earlier, later, strBytes, length, UInt32.ofNat_toNat, List.append_assoc]
  rfl

theorem length_readStr : Ensures (readStr error) fun s => s.length < 2 ^ 32 := by
  apply Ensures.after
  intro len reading s after ran
  rcases bind_fuse ran with ⟨_, finished⟩
  rw [length_read len.toNat reading s after finished]
  exact len.toNat_lt

theorem reads_readU8 (value : UInt8) : Reads (readU8 error) (ByteWriter.u8 value) value := by
  have taken : Reads (read (ByteWriter.u8 value).length error) _ _ := reads_read (ByteWriter.u8 value)
  have read := taken.map fun bytes => UInt8.ofNat (leNat bytes)
  rw [ByteWriter.u8, leNat, leNat, Nat.mul_zero, Nat.add_zero, UInt8.ofNat_toNat] at read
  exact read

theorem reads_readU32 (value : UInt32) : Reads (readU32 error) (ByteWriter.u32 value) value := by
  have taken : Reads (read (ByteWriter.u32 value).length error) _ _ := reads_read (ByteWriter.u32 value)
  have read := taken.map fun bytes => UInt32.ofNat (leNat bytes)
  have fits : value.toNat < 256 ^ 4 := value.toNat_lt
  rw [ByteWriter.length_u32, ByteWriter.u32, leNat_leBytes_of_lt fits, UInt32.ofNat_toNat] at read
  exact read

theorem reads_readU64 (value : UInt64) : Reads (readU64 error) (ByteWriter.u64 value) value := by
  have taken : Reads (read (ByteWriter.u64 value).length error) _ _ := reads_read (ByteWriter.u64 value)
  have read := taken.map fun bytes => UInt64.ofNat (leNat bytes)
  have fits : value.toNat < 256 ^ 8 := value.toNat_lt
  rw [ByteWriter.length_u64, ByteWriter.u64, leNat_leBytes_of_lt fits, UInt64.ofNat_toNat] at read
  exact read

theorem reads_readStr {s : Text} (short : s.length < 2 ^ 32) : Reads (readStr error) (strBytes s) s := by
  have length : (UInt32.ofNat s.length).toNat = s.length := UInt32.toNat_ofNat_of_lt short
  apply (reads_readU32 (UInt32.ofNat s.length)).bind
  rw [length]
  apply Reads.fuse
  · intro fewer more grows enough
    exact decide_eq_true (Nat.le_trans (of_decide_eq_true enough) grows)
  · exact decide_eq_true (Nat.le_refl _)
  · exact reads_read s

theorem steady_read (count : Nat) : Steady (read count error) := by
  intro reading bytes after ran
  rcases bind_eq_ok ran with ⟨value, between, taken, finished⟩
  cases value with
  | none => cases finished
  | some found =>
      cases finished
      unfold take at taken
      split at taken
      · cases taken
        rfl
      · cases taken

theorem steady_readU8 : Steady (readU8 error) := (steady_read 1).bind fun _ => Steady.pure _
theorem steady_readU32 : Steady (readU32 error) := (steady_read 4).bind fun _ => Steady.pure _
theorem steady_readU64 : Steady (readU64 error) := (steady_read 8).bind fun _ => Steady.pure _

theorem steady_readStr : Steady (readStr error) :=
  steady_readU32.bind fun len => (Steady.fuse _ _).bind fun _ => steady_read len.toNat

end FileCursor

/-! ## Both readers of the header -/

open FileCursor

/-- Opening reads the bytes of a header of three sections. -/
theorem raw_of_readFixedHeader {reading after : Reading} {fixed : FixedHeader}
    (ran : readFixedHeader reading = (.ok fixed, after)) (ok : after.ok = true) :
    reading.ok = true ∧ exists raw : RawHeader, raw.sectionCount = kSectionCount ∧ fixed = raw.fixed ∧
      reading.rest = raw.bytes ++ after.rest := by
  rcases (consumes_read 4).step ran with ⟨magic, r1, ran, b1⟩
  rcases bind_require ran with ⟨isMagic, ran⟩
  rcases consumes_readU32.step ran with ⟨format, r2, ran, b2⟩
  rcases bind_require ran with ⟨isVersion, ran⟩
  rcases consumes_readU32.step ran with ⟨sectionCount, r3, ran, b3⟩
  rcases bind_require ran with ⟨three, ran⟩
  rcases consumes_readU32.step ran with ⟨cycle, r4, ran, b4⟩
  rcases bind_eq_ok ran with ⟨programVersion, r5, ran5, ran⟩
  rcases bind_eq_ok ran with ⟨sourceLoader, r6, ran6, ran⟩
  rcases bind_eq_ok ran with ⟨dataDir, r7, ran7, ran⟩
  rcases consumes_readU8.step ran with ⟨airwayDirection, r8, ran, b8⟩
  rcases consumes_readU8.step ran with ⟨altitudeBands, r9, ran, b9⟩
  rcases consumes_readU8.step ran with ⟨moraGrid, r10, ran, b10⟩
  rcases consumes_readU8.step ran with ⟨msaSectors, r11, ran, b11⟩
  rcases consumes_readU32.step ran with ⟨poolLen, r12, ran, b12⟩
  rcases consumes_readU32.step ran with ⟨poolCrc, r13, finished, b13⟩
  cases finished
  -- Each flag is set because the next one is.
  rcases b13 ok with ⟨ok, e13⟩
  rcases b12 ok with ⟨ok, e12⟩
  rcases b11 ok with ⟨ok, e11⟩
  rcases b10 ok with ⟨ok, e10⟩
  rcases b9 ok with ⟨ok, e9⟩
  rcases b8 ok with ⟨ok, e8⟩
  rcases consumes_readStr r6 dataDir r7 ran7 ok with ⟨ok, e7⟩
  rcases consumes_readStr r5 sourceLoader r6 ran6 ok with ⟨ok, e6⟩
  rcases consumes_readStr r4 programVersion r5 ran5 ok with ⟨ok, e5⟩
  rcases b4 ok with ⟨ok, e4⟩
  rcases b3 ok with ⟨ok, e3⟩
  rcases b2 ok with ⟨ok, e2⟩
  rcases b1 ok with ⟨ok, e1⟩
  refine ⟨ok, ⟨sectionCount, cycle, programVersion, sourceLoader, dataDir, airwayDirection, altitudeBands, moraGrid,
    msaSectors, poolLen, poolCrc, length_readStr _ _ _ ran5, length_readStr _ _ _ ran6,
    length_readStr _ _ _ ran7⟩, eq_of_beq three, rfl, ?_⟩
  rw [e1, e2, e3, e4, e5, e6, e7, e8, e9, e10, e11, e12, e13, eq_of_beq isMagic, eq_of_beq isVersion]
  simp only [RawHeader.bytes, RawHeader.tailBytes, id, List.append_assoc]

theorem reads_readFixedHeader {raw : RawHeader} (three : raw.sectionCount = kSectionCount) :
    Reads readFixedHeader raw.bytes raw.fixed := by
  apply (reads_read kMagic).bind
  apply Reads.silent (Reads.require rfl)
  apply (reads_readU32 kFormatVersion).bind
  apply Reads.silent (Reads.require rfl)
  apply (reads_readU32 raw.sectionCount).bind
  apply Reads.silent (Reads.require (beq_iff_eq.mpr three))
  apply (reads_readU32 raw.cycle).bind
  apply (reads_readStr raw.programVersion_lt).bind
  apply (reads_readStr raw.sourceLoader_lt).bind
  apply (reads_readStr raw.dataDir_lt).bind
  apply (reads_readU8 raw.airwayDirection).bind
  apply (reads_readU8 raw.altitudeBands).bind
  apply (reads_readU8 raw.moraGrid).bind
  apply (reads_readU8 raw.msaSectors).bind
  apply (reads_readU32 raw.poolLen).bind
  exact (reads_readU32 raw.poolCrc).map (FixedHeader.mk raw.header raw.poolLen)

/-- Reading the header alone reads the bytes of a header, and a table. -/
theorem raw_of_readHeaderFields {reading after : Reading} {header : UnifiedHeader}
    (ran : readHeaderFields reading = (.ok header, after)) (ok : after.ok = true) :
    exists (raw : RawHeader) (table : Text), header = raw.header ∧
      table.length = kSectionCount.toNat * kSectionRowSize ∧
      kMagic ++ reading.rest = raw.bytes ++ (table ++ after.rest) := by
  rcases ByteReader.consumes_u32.step ran with ⟨format, r2, ran, b2⟩
  rcases bind_require ran with ⟨isVersion, ran⟩
  rcases ByteReader.consumes_u32.step ran with ⟨sectionCount, r3, ran, b3⟩
  rcases ByteReader.consumes_u32.step ran with ⟨cycle, r4, ran, b4⟩
  rcases bind_eq_ok ran with ⟨programVersion, r5, ran5, ran⟩
  rcases bind_eq_ok ran with ⟨sourceLoader, r6, ran6, ran⟩
  rcases bind_eq_ok ran with ⟨dataDir, r7, ran7, ran⟩
  rcases ByteReader.consumes_u8.step ran with ⟨airwayDirection, r8, ran, b8⟩
  rcases ByteReader.consumes_u8.step ran with ⟨altitudeBands, r9, ran, b9⟩
  rcases ByteReader.consumes_u8.step ran with ⟨moraGrid, r10, ran, b10⟩
  rcases ByteReader.consumes_u8.step ran with ⟨msaSectors, r11, ran, b11⟩
  rcases ByteReader.consumes_u32.step ran with ⟨poolLen, r12, ran, b12⟩
  rcases ByteReader.consumes_u32.step ran with ⟨poolCrc, r13, ran, b13⟩
  rcases bind_eq_ok ran with ⟨taken, r14, ran14, finished⟩
  cases finished
  -- Each flag is set because the next one is.
  rcases take_eq_ok ran14 ok with ⟨table, _, length, ok, e14⟩
  rcases b13 ok with ⟨ok, e13⟩
  rcases b12 ok with ⟨ok, e12⟩
  rcases b11 ok with ⟨ok, e11⟩
  rcases b10 ok with ⟨ok, e10⟩
  rcases b9 ok with ⟨ok, e9⟩
  rcases b8 ok with ⟨ok, e8⟩
  rcases ByteReader.consumes_str r6 dataDir r7 ran7 ok with ⟨ok, e7⟩
  rcases ByteReader.consumes_str r5 sourceLoader r6 ran6 ok with ⟨ok, e6⟩
  rcases ByteReader.consumes_str r4 programVersion r5 ran5 ok with ⟨ok, e5⟩
  rcases b4 ok with ⟨ok, e4⟩
  rcases b3 ok with ⟨ok, e3⟩
  rcases b2 ok with ⟨ok, e2⟩
  refine ⟨⟨sectionCount, cycle, programVersion, sourceLoader, dataDir, airwayDirection, altitudeBands, moraGrid,
    msaSectors, poolLen, poolCrc, ByteReader.length_str _ _ _ ran5, ByteReader.length_str _ _ _ ran6,
    ByteReader.length_str _ _ _ ran7⟩, table, rfl, length, ?_⟩
  rw [e2, e3, e4, e5, e6, e7, e8, e9, e10, e11, e12, e13, e14, eq_of_beq isVersion]
  simp only [RawHeader.bytes, RawHeader.tailBytes, strBytes, List.append_assoc]

theorem reads_readHeaderFields (raw : RawHeader) {table : Text}
    (length : table.length = kSectionCount.toNat * kSectionRowSize) :
    Reads readHeaderFields (ByteWriter.u32 kFormatVersion ++ raw.tailBytes ++ table) raw.header := by
  have taken : Reads (take (E := Error) (kSectionCount.toNat * kSectionRowSize)) table (some table) :=
    length ▸ Reads.take table
  have written : ByteWriter.u32 kFormatVersion ++ raw.tailBytes ++ table =
      ByteWriter.u32 kFormatVersion ++ (ByteWriter.u32 raw.sectionCount ++ (ByteWriter.u32 raw.cycle ++
        (strBytes raw.programVersion ++ (strBytes raw.sourceLoader ++ (strBytes raw.dataDir ++
        (ByteWriter.u8 raw.airwayDirection ++ (ByteWriter.u8 raw.altitudeBands ++ (ByteWriter.u8 raw.moraGrid ++
        (ByteWriter.u8 raw.msaSectors ++ (ByteWriter.u32 raw.poolLen ++ (ByteWriter.u32 raw.poolCrc ++
        table))))))))))) := by
    simp only [RawHeader.tailBytes, List.append_assoc]
  rw [written]
  apply (ByteReader.reads_u32 kFormatVersion).bind
  apply Reads.silent (Reads.require rfl)
  apply (ByteReader.reads_u32 raw.sectionCount).bind
  apply (ByteReader.reads_u32 raw.cycle).bind
  apply (ByteReader.reads_str raw.programVersion_lt).bind
  apply (ByteReader.reads_str raw.sourceLoader_lt).bind
  apply (ByteReader.reads_str raw.dataDir_lt).bind
  apply (ByteReader.reads_u8 raw.airwayDirection).bind
  apply (ByteReader.reads_u8 raw.altitudeBands).bind
  apply (ByteReader.reads_u8 raw.moraGrid).bind
  apply (ByteReader.reads_u8 raw.msaSectors).bind
  apply (ByteReader.reads_u32 raw.poolLen).bind
  apply (ByteReader.reads_u32 raw.poolCrc).bind
  exact taken.map fun _ => raw.header

/-- The bytes of a header, whatever follows them, determine it. -/
theorem RawHeader.header_unique {raw other : RawHeader} {tail tail' : Text}
    (same : raw.bytes ++ tail = other.bytes ++ tail') : raw.header = other.header := by
  -- Zeros stand in for a table that is cut short.
  let size := kSectionCount.toNat * kSectionRowSize
  have read : forall (fields : RawHeader) (rest : Text), exists after,
      readHeaderFields ⟨(fields.bytes ++ rest).drop 4 ++ List.replicate size 0, true, true, []⟩ =
        (.ok fields.header, after) := by
    intro fields rest
    have noMore : kMagic.drop 4 = [] := rfl
    have length : ((rest ++ List.replicate size 0).take size).length = size := by
      rw [List.length_take, List.length_append, List.length_replicate]
      exact Nat.min_eq_left (Nat.le_add_left _ _)
    rcases reads_readHeaderFields fields length ((rest ++ List.replicate size 0).drop size) [] with ⟨allocated, ran⟩
    have whole : (fields.bytes ++ rest).drop 4 ++ List.replicate size 0 =
        ByteWriter.u32 kFormatVersion ++ fields.tailBytes ++ (rest ++ List.replicate size 0).take size ++
          (rest ++ List.replicate size 0).drop size := by
      rw [List.append_assoc _ (List.take _ _), List.take_append_drop, RawHeader.bytes, List.append_assoc kMagic,
        List.drop_append_of_le_length (Nat.le_refl 4), noMore, List.nil_append]
      simp only [List.append_assoc]
    rw [whole]
    exact ⟨_, ran⟩
  rcases read raw tail with ⟨first, ranFirst⟩
  rcases read other tail' with ⟨second, ranSecond⟩
  rw [same, ranSecond] at ranFirst
  exact (Except.ok.inj (Prod.mk.inj ranFirst).1).symm

theorem steady_readFixedHeader : Steady readFixedHeader :=
  (steady_read 4).bind fun _ => (Steady.require _ _).bind fun _ => steady_readU32.bind fun _ =>
    (Steady.require _ _).bind fun _ => steady_readU32.bind fun _ => (Steady.require _ _).bind fun _ =>
    steady_readU32.bind fun _ => steady_readStr.bind fun _ => steady_readStr.bind fun _ =>
    steady_readStr.bind fun _ => steady_readU8.bind fun _ => steady_readU8.bind fun _ =>
    steady_readU8.bind fun _ => steady_readU8.bind fun _ => steady_readU32.bind fun _ =>
    steady_readU32.bind fun _ => Steady.pure _

/-! ## The table and the pool -/

/-- A row that is present lies within the file. -/
def rowWithin (fileSize : Nat) (row : SectionRow) : Bool :=
  row.off == 0 && row.len == 0 || decide (row.off.toNat ≤ fileSize ∧ row.len.toNat ≤ fileSize - row.off.toNat)

@[simp] theorem length_rowBytes (row : SectionRow) : (rowBytes row).length = kSectionRowSize := by
  simp only [rowBytes, List.length_append, ByteWriter.length_u32, ByteWriter.length_u64]
  rfl

theorem steady_readRow (fileSize : Nat) : Steady (readRow fileSize) :=
  steady_readU32.bind fun _ => steady_readU32.bind fun _ => steady_readU64.bind fun _ =>
    steady_readU64.bind fun _ => (Steady.require _ _).bind fun _ => Steady.pure _

theorem consumes_readRow (fileSize : Nat) : Consumes (readRow fileSize) rowBytes := by
  intro reading row after ran ok
  rcases consumes_readU32.step ran with ⟨type, r1, ran, b1⟩
  rcases consumes_readU32.step ran with ⟨crc, r2, ran, b2⟩
  rcases consumes_readU64.step ran with ⟨off, r3, ran, b3⟩
  rcases consumes_readU64.step ran with ⟨len, r4, ran, b4⟩
  rcases bind_require ran with ⟨_, finished⟩
  cases finished
  rcases b4 ok with ⟨ok, e4⟩
  rcases b3 ok with ⟨ok, e3⟩
  rcases b2 ok with ⟨ok, e2⟩
  rcases b1 ok with ⟨ok, e1⟩
  refine ⟨ok, ?_⟩
  rw [e1, e2, e3, e4]
  simp only [rowBytes, List.append_assoc]

theorem within_readRow (fileSize : Nat) : Ensures (readRow fileSize) fun row => rowWithin fileSize row = true := by
  apply Ensures.after
  intro type
  apply Ensures.after
  intro crc
  apply Ensures.after
  intro off
  apply Ensures.after
  intro len
  refine (Ensures.require _ _).bind fun _ holds => ?_
  exact Ensures.pure holds

theorem reads_readRow {fileSize : Nat} {row : SectionRow} (within : rowWithin fileSize row = true) :
    Reads (readRow fileSize) (rowBytes row) row := by
  have written : rowBytes row = ByteWriter.u32 row.type ++ (ByteWriter.u32 row.crc ++
      (ByteWriter.u64 row.off ++ (ByteWriter.u64 row.len ++ []))) := by
    simp only [rowBytes, List.append_assoc, List.append_nil]
  rw [written]
  apply (reads_readU32 row.type).bind
  apply (reads_readU32 row.crc).bind
  apply (reads_readU64 row.off).bind
  apply (reads_readU64 row.len).bind
  exact Reads.silent (Reads.require within) (Reads.pure row)

/-- A container as it lies in a file: the header, the table, the checksum of
both, and the pool. -/
structure Laid (bytes : Text) (raw : RawHeader) (rows : List SectionRow) (pool rest : Text) : Prop where
  bytes_eq : bytes = raw.bytes ++ (rows.flatMap rowBytes ++
    (ByteWriter.u32 (Crc32C.compute (raw.bytes ++ rows.flatMap rowBytes)) ++ (pool ++ rest)))
  sectionCount : raw.sectionCount = kSectionCount
  rows_length : rows.length = kSectionCount.toNat
  rows_within : forall row, row ∈ rows -> rowWithin bytes.length row = true
  pool_length : pool.length = raw.poolLen.toNat
  pool_crc : Crc32C.compute pool = raw.poolCrc

theorem laid_of_readContainer {file : PreadFile} {head : Head} {pool : Text} {after : Reading}
    (ran : readContainer file ⟨file.bytes, true, true, []⟩ = (.ok (head, pool), after)) :
    exists raw : RawHeader, head.toFixedHeader = raw.fixed ∧ Laid file.bytes raw head.rows pool after.rest := by
  rcases bind_eq_ok ran with ⟨found, afterHead, ranHead, ran⟩
  rcases bind_eq_ok ranHead with ⟨fixed, afterFixed, ranFixed, ranHead⟩
  rcases bind_fuse ranHead with ⟨_, ranHead⟩
  rcases bind_eq_ok ranHead with ⟨rows, afterRows, ranRows, finishedHead⟩
  cases finishedHead
  rcases bind_eq_ok ran with ⟨headerEnd, afterPos, ranPos, ran⟩
  cases ranPos
  rcases bind_eq_ok ran with ⟨headerCrc, afterCrc, ranCrc, ran⟩
  rcases bind_ofExcept ran with ⟨covered, ranCovered, ran⟩
  rcases bind_require ran with ⟨crcHolds, ran⟩
  rcases bind_eq_ok ran with ⟨pool, afterPool, ranPool, ran⟩
  rcases bind_require ran with ⟨poolHolds, finished⟩
  cases finished
  have okFixed : afterFixed.ok = true := steady_readFixedHeader _ _ _ ranFixed
  have okRows : afterHead.ok = true := ((steady_readRow _).times _ _ _ _ ranRows).trans okFixed
  have okCrc : afterCrc.ok = true := (steady_readU32 _ _ _ ranCrc).trans okRows
  have okPool : after.ok = true := (steady_read _ _ _ _ ranPool).trans okCrc
  rcases raw_of_readFixedHeader ranFixed okFixed with ⟨_, raw, three, same, fixedBytes⟩
  have rowsBytes := ((consumes_readRow _).times _ _ _ _ ranRows okRows).2
  have crcBytes := (consumes_readU32 _ _ _ ranCrc okCrc).2
  have poolBytes := (consumes_read _ _ _ _ ranPool okPool).2
  have counted := ((within_readRow _).times _ _ _ _ ranRows)
  simp only at fixedBytes
  have whole : file.bytes = raw.bytes ++ (rows.flatMap rowBytes ++ afterHead.rest) := by
    rw [fixedBytes, rowsBytes]
  have covers : covered = raw.bytes ++ rows.flatMap rowBytes := by
    have length : file.size - afterHead.rest.length = (raw.bytes ++ rows.flatMap rowBytes).length := by
      rw [PreadFile.size, whole]
      simp only [List.length_append]
      omega
    have start : file.bytes = [] ++ ((raw.bytes ++ rows.flatMap rowBytes) ++ afterHead.rest) := by
      rw [whole, List.nil_append, List.append_assoc]
    have read := PreadFile.readAt_append start
    rw [List.length_nil, ← length] at read
    rw [read] at ranCovered
    exact (Except.ok.inj ranCovered).symm
  refine ⟨raw, same, ?_⟩
  constructor
  case bytes_eq =>
    rw [whole, crcBytes, poolBytes, ← eq_of_beq crcHolds, covers]
    rfl
  case sectionCount => exact three
  case rows_length => exact counted.1
  case rows_within => exact counted.2
  case pool_length =>
    rw [length_read _ _ _ _ ranPool, same]
    rfl
  case pool_crc =>
    rw [eq_of_beq poolHolds, same]
    rfl

/-- The checksum of a container covers what lies before it. -/
theorem Laid.readAt {file : PreadFile} {raw : RawHeader} {rows : List SectionRow} {pool rest : Text}
    (laid : Laid file.bytes raw rows pool rest) :
    file.readAt 0 (raw.bytes ++ rows.flatMap rowBytes).length = some (raw.bytes ++ rows.flatMap rowBytes) := by
  have start : file.bytes = [] ++ ((raw.bytes ++ rows.flatMap rowBytes) ++
      (ByteWriter.u32 (Crc32C.compute (raw.bytes ++ rows.flatMap rowBytes)) ++ (pool ++ rest))) := by
    rw [List.nil_append, List.append_assoc]
    exact laid.bytes_eq
  exact PreadFile.readAt_append start

theorem readHead_of_laid {bytes : Text} {raw : RawHeader} {rows : List SectionRow} {pool rest : Text}
    (laid : Laid bytes raw rows pool rest) : exists allocated,
      readHead bytes.length ⟨bytes, true, true, []⟩ = (.ok ⟨raw.fixed, rows⟩,
        ⟨ByteWriter.u32 (Crc32C.compute (raw.bytes ++ rows.flatMap rowBytes)) ++ (pool ++ rest),
          true, true, allocated⟩) := by
  let behind := ByteWriter.u32 (Crc32C.compute (raw.bytes ++ rows.flatMap rowBytes)) ++ (pool ++ rest)
  have readRows : Reads (times kSectionCount.toNat (readRow bytes.length)) (rows.flatMap rowBytes) rows := by
    have reads : Reads (times rows.length (readRow bytes.length)) (rows.flatMap rowBytes) (rows.map id) :=
      Reads.times fun row member => reads_readRow (laid.rows_within row member)
    rw [laid.rows_length, List.map_id] at reads
    exact reads
  rcases reads_readFixedHeader laid.sectionCount (rows.flatMap rowBytes ++ behind) [] with ⟨first, ranFixed⟩
  rcases readRows behind first with ⟨second, ranRows⟩
  have fits : raw.poolLen.toNat ≤ (rows.flatMap rowBytes ++ behind).length := by
    rw [← laid.pool_length]
    simp only [behind, List.length_append]
    omega
  refine ⟨second, ?_⟩
  have start : bytes = raw.bytes ++ (rows.flatMap rowBytes ++ behind) := laid.bytes_eq
  have fused : fuse (fun available => decide (raw.fixed.poolLen.toNat ≤ available))
      (bad "corrupt .bfdb: pool length exceeds file") ⟨rows.flatMap rowBytes ++ behind, true, true, first⟩ =
        (.ok (), ⟨rows.flatMap rowBytes ++ behind, true, true, first⟩) := by
    rw [fuse, Reading.remaining, if_pos rfl]
    exact congrArg (fun result => (result, _)) (if_pos (decide_eq_true fits))
  have ran : readHead bytes.length ⟨raw.bytes ++ (rows.flatMap rowBytes ++ behind), true, true, []⟩ =
      (.ok ⟨raw.fixed, rows⟩, ⟨behind, true, true, second⟩) := by
    rw [readHead, bind_of_ok ranFixed, bind_of_ok fused, bind_of_ok ranRows]
    rfl
  rw [← start] at ran
  exact ran

theorem readContainer_of_laid {file : PreadFile} {raw : RawHeader} {rows : List SectionRow} {pool rest : Text}
    (laid : Laid file.bytes raw rows pool rest) :
    (readContainer file ⟨file.bytes, true, true, []⟩).1 = .ok (⟨raw.fixed, rows⟩, pool) := by
  rcases readHead_of_laid laid with ⟨first, ranHead⟩
  change readHead file.size _ = _ at ranHead
  let crc := Crc32C.compute (raw.bytes ++ rows.flatMap rowBytes)
  have readCrc : Reads (readU32 (bad "truncated .bfdb header")) (ByteWriter.u32 crc) crc := reads_readU32 crc
  have readPool : Reads (read pool.length (bad "truncated .bfdb string pool")) pool pool := reads_read pool
  rcases readCrc (pool ++ rest) first with ⟨second, ranCrc⟩
  rcases readPool rest second with ⟨third, ranPool⟩
  have position : file.size - (ByteWriter.u32 crc ++ (pool ++ rest)).length =
      (raw.bytes ++ rows.flatMap rowBytes).length := by
    rw [PreadFile.size, laid.bytes_eq]
    simp only [crc, List.length_append]
    omega
  have ranPos : pos file.size ⟨ByteWriter.u32 crc ++ (pool ++ rest), true, true, first⟩ =
      (.ok (raw.bytes ++ rows.flatMap rowBytes).length,
        ⟨ByteWriter.u32 crc ++ (pool ++ rest), true, true, first⟩) := by
    rw [pos, position]
  have poolLength : pool.length = (Head.mk raw.fixed rows).poolLen.toNat := laid.pool_length
  have poolCrc : (Crc32C.compute pool == (Head.mk raw.fixed rows).poolCrc) = true := beq_iff_eq.mpr laid.pool_crc
  rw [poolLength] at ranPool
  rw [readContainer, bind_of_ok ranHead, bind_of_ok ranPos, bind_of_ok ranCrc, laid.readAt]
  simp only [Decoder.ofExcept, Decoder.require, bind_eq, ranPool, poolCrc, crc, beq_self_eq_true, if_true, pure_eq]

/-- Where a container is laid out, opening goes on to its sections. -/
theorem openFile_of_laid {indexSort : CifpCodec.IndexSort} {path : Text} {file : PreadFile} {raw : RawHeader}
    {rows : List SectionRow} {pool rest : Text} (laid : Laid file.bytes raw rows pool rest) :
    openFile indexSort path (some file) = openSections indexSort file ⟨raw.fixed, rows⟩ pool := by
  have long : ¬ file.size < 4 := by
    rw [PreadFile.size, laid.bytes_eq, List.length_append, RawHeader.length_bytes]
    omega
  rw [openFile]
  simp only [long, if_false, readContainer_of_laid laid]

/-- A file that opens has a container laid out in it, and opening went on to its
sections. -/
theorem laid_of_openFile {indexSort : CifpCodec.IndexSort} {path : Text} {file : PreadFile} {data : UnifiedData}
    (opened : openFile indexSort path (some file) = .ok data) :
    exists raw rows pool rest, Laid file.bytes raw rows pool rest ∧
      openSections indexSort file ⟨raw.fixed, rows⟩ pool = .ok data := by
  rw [openFile] at opened
  split at opened
  · cases opened
  generalize ran : readContainer file ⟨file.bytes, true, true, []⟩ = outcome at opened
  rcases outcome with ⟨error | ⟨head, pool⟩, after⟩
  · cases opened
  rcases laid_of_readContainer ran with ⟨raw, same, laid⟩
  refine ⟨raw, head.rows, pool, after.rest, laid, ?_⟩
  rw [← same]
  exact opened

end UnifiedCache
end BravoFinder
