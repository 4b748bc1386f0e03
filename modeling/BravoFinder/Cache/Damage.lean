import BravoFinder.Cache.HeaderReaders

namespace BravoFinder

/-!
# One changed byte before the sections

A byte of the header, of the table, of their checksum or of the pool is covered
by a checksum.  When it changes, the file does not open, unless the byte belongs
to a length that says how far the checksum reaches.
-/

/-- A copy of a file in which one byte is another one. -/
structure Damaged (file damaged : PreadFile) (position : Nat) : Prop where
  within : position < file.size
  changed : exists byte, file.bytes[position]? ≠ some byte ∧ damaged.bytes = file.bytes.set position byte

namespace Damaged

variable {file damaged : PreadFile} {position offset count : Nat}

theorem size_eq (damage : Damaged file damaged position) : damaged.size = file.size := by
  rcases damage.changed with ⟨byte, _, same⟩
  rw [PreadFile.size, same, List.length_set]
  rfl

/-- What does not contain the byte is the same. -/
theorem slice_outside (damage : Damaged file damaged position)
    (outside : position < offset ∨ offset + count ≤ position) :
    (damaged.bytes.drop offset).take count = (file.bytes.drop offset).take count := by
  rcases damage.changed with ⟨byte, _, same⟩
  rw [same, List.drop_set]
  split
  · rfl
  · rename_i behind
    rw [List.take_set, List.set_eq_of_length_le]
    exact Nat.le_trans (List.length_take_le _ _) (by omega)

theorem readAt_outside (damage : Damaged file damaged position)
    (outside : position < offset ∨ offset + count ≤ position) :
    damaged.readAt offset count = file.readAt offset count := by
  unfold PreadFile.readAt
  rw [damage.size_eq, damage.slice_outside outside]

/-- What contains the byte has another checksum. -/
theorem readAt_inside (damage : Damaged file damaged position) {bytes : Text}
    (read : file.readAt offset count = some bytes) (after : offset ≤ position) (before : position < offset + count) :
    exists other, damaged.readAt offset count = some other ∧
      forall crc, Crc32C.update crc other ≠ Crc32C.update crc bytes := by
  rcases damage.changed with ⟨byte, different, same⟩
  unfold PreadFile.readAt at read ⊢
  rw [damage.size_eq]
  split at read
  case isFalse => cases read
  case isTrue fits =>
    cases read
    rw [if_pos fits]
    refine ⟨_, rfl, fun crc => ?_⟩
    have within := damage.within
    rw [PreadFile.size] at within
    have length : position - offset < ((file.bytes.drop offset).take count).length := by
      rw [List.length_take, List.length_drop]
      omega
    have there : ((file.bytes.drop offset).take count)[position - offset] ≠ byte := by
      intro held
      apply different
      rw [List.getElem_take, List.getElem_drop] at held
      rw [List.getElem?_eq_getElem within, ← held]
      congr 2
      omega
    rw [same, List.drop_set, if_neg (by omega), List.take_set]
    exact Crc32C.update_set_ne crc _ _ length there

end Damaged

namespace UnifiedCache

open Decoder

/-! ## The parts of a container in its file -/

namespace Laid

variable {file : PreadFile} {raw : RawHeader} {rows : List SectionRow} {pool rest : Text}

theorem length_covered (laid : Laid file.bytes raw rows pool rest) :
    (raw.bytes ++ rows.flatMap rowBytes).length = raw.bytes.length + kSectionCount.toNat * kSectionRowSize := by
  rw [List.length_append, length_table laid.rows_length]

/-- The stored checksum. -/
theorem readAt_crc (laid : Laid file.bytes raw rows pool rest) :
    file.readAt (raw.bytes ++ rows.flatMap rowBytes).length 4 =
      some (ByteWriter.u32 (Crc32C.compute (raw.bytes ++ rows.flatMap rowBytes))) := by
  have whole := laid.bytes_eq
  rw [← List.append_assoc] at whole
  have read := PreadFile.readAt_append whole
  rw [ByteWriter.length_u32] at read
  exact read

theorem readAt_pool (laid : Laid file.bytes raw rows pool rest) :
    file.readAt ((raw.bytes ++ rows.flatMap rowBytes).length + 4) pool.length = some pool := by
  have whole : file.bytes = (raw.bytes ++ rows.flatMap rowBytes ++
      ByteWriter.u32 (Crc32C.compute (raw.bytes ++ rows.flatMap rowBytes))) ++ (pool ++ rest) := by
    rw [laid.bytes_eq]
    simp only [List.append_assoc]
  have read := PreadFile.readAt_append whole
  rw [List.length_append, ByteWriter.length_u32] at read
  exact read

theorem readAt_fixed (laid : Laid file.bytes raw rows pool rest) :
    file.readAt 0 raw.bytes.length = some raw.bytes := by
  have whole := laid.bytes_eq
  rw [← List.nil_append raw.bytes, List.append_assoc] at whole
  exact PreadFile.readAt_append whole

/-- The sections come last. -/
theorem size_eq (laid : Laid file.bytes raw rows pool rest) : file.size =
    (raw.bytes ++ rows.flatMap rowBytes).length + 4 + pool.length + rest.length := by
  rw [PreadFile.size, laid.bytes_eq]
  simp only [List.length_append, ByteWriter.length_u32]
  omega

end Laid

/-- The bytes of a header say what its fields are. -/
theorem RawHeader.fixed_inj {raw other : RawHeader} (three : raw.sectionCount = kSectionCount)
    (otherThree : other.sectionCount = kSectionCount) (same : raw.bytes = other.bytes) : raw.fixed = other.fixed := by
  rcases reads_readFixedHeader three [] [] with ⟨first, ran⟩
  rcases reads_readFixedHeader otherThree [] [] with ⟨second, ranOther⟩
  rw [same, ranOther] at ran
  exact (Except.ok.inj (Prod.mk.inj ran).1).symm

theorem u32_inj {first second : UInt32} (same : ByteWriter.u32 first = ByteWriter.u32 second) : first = second := by
  have firstFits : first.toNat < 256 ^ 4 := first.toNat_lt
  have secondFits : second.toNat < 256 ^ 4 := second.toNat_lt
  have values := congrArg leNat same
  rw [ByteWriter.u32, ByteWriter.u32, leNat_leBytes_of_lt firstFits, leNat_leBytes_of_lt secondFits] at values
  exact UInt32.toNat_inj.mp values

/-! ## The lengths that a checksum relies on -/

/-- A byte of the field of so many bytes at an offset. -/
def inField (offset size position : Nat) : Prop := offset ≤ position ∧ position < offset + size

instance (offset size position : Nat) : Decidable (inField offset size position) := by
  unfold inField
  exact inferInstance

/-- The byte belongs to the length of one of the three strings of the header. -/
def inStringLength (bytes : Text) (position : Nat) : Prop :=
  inField programVersionAt 4 position ∨ inField (sourceLoaderAt bytes) 4 position ∨
    inField (dataDirAt bytes) 4 position

instance (bytes : Text) (position : Nat) : Decidable (inStringLength bytes position) := by
  unfold inStringLength
  exact inferInstance

section Header

variable {indexSort : CifpCodec.IndexSort} {file damaged : PreadFile} {position : Nat}

theorem fixedHeaderEnd_damaged (damage : Damaged file damaged position)
    (outside : ¬ inStringLength file.bytes position) :
    fixedHeaderEnd damaged.bytes = fixedHeaderEnd file.bytes := by
  simp only [inStringLength, inField, not_or, not_and, not_lt] at outside
  rcases outside with ⟨first, second, third⟩
  have lengths : forall offset, (offset ≤ position -> offset + 4 ≤ position) ->
      lengthAt damaged.bytes offset = lengthAt file.bytes offset := by
    intro offset apart
    unfold lengthAt
    rw [damage.slice_outside (by omega)]
  have source : sourceLoaderAt damaged.bytes = sourceLoaderAt file.bytes := by
    unfold sourceLoaderAt
    rw [lengths _ first]
  have dataDir : dataDirAt damaged.bytes = dataDirAt file.bytes := by
    unfold dataDirAt
    rw [source, lengths _ second]
  unfold fixedHeaderEnd
  rw [dataDir, lengths _ third]

variable {raw : RawHeader} {rows : List SectionRow} {pool rest : Text}

/-- A changed byte before the sections keeps the file from opening. -/
theorem refused_of_head (path : Text) (laid : Laid file.bytes raw rows pool rest)
    (damage : Damaged file damaged position) (outside : ¬ inStringLength file.bytes position)
    (before : position < file.size - rest.length) :
    exists error, openFile indexSort path (some damaged) = .error error := by
  cases opened : openFile indexSort path (some damaged) with
  | error error => exact ⟨error, rfl⟩
  | ok data =>
      exfalso
      rcases laid_of_openFile opened with ⟨raw', rows', pool', rest', laid', _⟩
      have ends := fixedHeaderEnd_damaged damage outside
      rw [fixedHeaderEnd_of_raw raw' laid'.bytes_eq, fixedHeaderEnd_of_raw raw laid.bytes_eq] at ends
      have covered := laid.readAt
      have covered' := laid'.readAt
      have crc := laid.readAt_crc
      have crc' := laid'.readAt_crc
      have pool_ := laid.readAt_pool
      have pool'_ := laid'.readAt_pool
      have size := laid.size_eq
      rw [laid.length_covered] at covered crc pool_ size
      rw [laid'.length_covered, ends] at covered' crc' pool'_
      let coveredEnd := raw.bytes.length + kSectionCount.toNat * kSectionRowSize
      by_cases inCovered : position < coveredEnd
      · -- The checksum changes, and the stored one does not.
        rcases damage.readAt_inside covered (Nat.zero_le _) (by omega) with ⟨other, read, different⟩
        rw [covered'] at read
        cases read
        rw [damage.readAt_outside (.inl inCovered), crc] at crc'
        exact different 0 (u32_inj (Option.some.inj crc')).symm
      · by_cases inCrc : position < coveredEnd + 4
        · -- The stored checksum changes, and the bytes it covers do not.
          rw [damage.readAt_outside (.inr (by omega)), covered] at covered'
          rcases damage.readAt_inside crc (by omega) inCrc with ⟨other, read, different⟩
          rw [crc', ← Option.some.inj covered'] at read
          cases read
          exact different 0 rfl
        · -- The pool changes, and its length and checksum do not.
          have fixed := laid.readAt_fixed
          have fixed' := laid'.readAt_fixed
          rw [ends, damage.readAt_outside (.inr (by omega)), fixed] at fixed'
          have same := RawHeader.fixed_inj laid.sectionCount laid'.sectionCount (Option.some.inj fixed')
          have lengths : pool'.length = pool.length := by
            have equal := congrArg FixedHeader.poolLen same
            rw [laid.pool_length, laid'.pool_length]
            exact congrArg UInt32.toNat equal.symm
          rw [lengths] at pool'_
          rcases damage.readAt_inside pool_ (by omega) (by omega) with ⟨other, read, different⟩
          rw [pool'_] at read
          cases read
          have equal := congrArg FixedHeader.poolCrc same
          exact different 0 (laid'.pool_crc.trans (equal.symm.trans laid.pool_crc.symm))

/-- A changed byte behind the pool changes the sections alone. -/
theorem laid_of_sections (laid : Laid file.bytes raw rows pool rest) (damage : Damaged file damaged position)
    (behind : file.size - rest.length ≤ position) : exists rest', Laid damaged.bytes raw rows pool rest' := by
  let front := raw.bytes ++ (rows.flatMap rowBytes ++
    (ByteWriter.u32 (Crc32C.compute (raw.bytes ++ rows.flatMap rowBytes)) ++ pool))
  have whole : file.bytes = front ++ rest := by
    rw [laid.bytes_eq]
    simp only [front, List.append_assoc]
  have length : front.length ≤ position := by
    have total := congrArg List.length whole
    rw [List.length_append] at total
    rw [PreadFile.size] at behind
    omega
  rcases damage.changed with ⟨byte, _, same⟩
  refine ⟨rest.set (position - front.length) byte, ?_⟩
  constructor
  case bytes_eq =>
    rw [same, whole, List.set_append_right _ _ length]
    simp only [front, List.append_assoc]
  case sectionCount => exact laid.sectionCount
  case rows_length => exact laid.rows_length
  case rows_within =>
    intro row member
    rw [same, List.length_set]
    exact laid.rows_within row member
  case pool_length => exact laid.pool_length
  case pool_crc => exact laid.pool_crc

end Header
end UnifiedCache
end BravoFinder
