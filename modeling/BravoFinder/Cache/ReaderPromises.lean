import BravoFinder.Cache.ByteCursor

namespace BravoFinder

/-!
# What the byte reader promises

The class documents that reads after a failure return zero.  A read keeps this,
and stays within its span, exactly where it is harmless: a scalar read after a
failure must find only zeros ahead, and the end of a bulk read, which is worked
out in `size_t`, must not have wrapped.
-/

namespace ByteCursor

variable {span : ByteSpan} {before after : ByteCursor} {read : ByteRead} {field : ByteField}

/-- A read from here does what is documented. -/
def Keeps (span : ByteSpan) (before : ByteCursor) (read : ByteRead) : Prop :=
  exists field after, step span read before = some (field, after) ∧ Promised span before read field after

/-- What a read does decides whether it keeps its promise. -/
theorem keeps_iff_of_ran (ran : step span read before = some (field, after)) :
    Keeps span before read ↔ Promised span before read field after := by
  constructor
  · rintro ⟨field', after', ran', promised⟩
    rw [ran] at ran'
    cases ran'
    exact promised
  · exact fun promised => ⟨field, after, ran, promised⟩

/-! ### Scalars -/

/-- A scalar read is a number made into a field, `width` bytes wide. -/
structure IsScalar (span : ByteSpan) (read : ByteRead) (width : Nat) (convert : Nat -> ByteField) : Prop where
  ran : forall cursor : ByteCursor, cursor.pos.toNat ≤ span.bytes.length -> step span read cursor =
    some (convert (leNat ((span.bytes.drop cursor.pos.toNat).take width)), skip span width cursor)
  silent : forall value, value < 256 ^ width -> ((convert value).Silent ↔ value = 0)
  encode : forall value, value < 256 ^ width -> (convert value).encode = leBytes width value
  answers : forall value, (convert value).Answers read

theorem IsScalar.keeps_iff {width : Nat} {convert : Nat -> ByteField}
    (scalar : IsScalar span read width convert) (within : before.pos.toNat ≤ span.bytes.length) :
    Keeps span before read ↔ Exhausted span before width := by
  have small : leNat ((span.bytes.drop before.pos.toNat).take width) < 256 ^ width :=
    Nat.lt_of_lt_of_le (leNat_lt _) (Nat.pow_le_pow_right (by decide) (List.length_take_le _ _))
  have moved := toNat_pos_skip within width
  rw [keeps_iff_of_ran (scalar.ran before within), Exhausted, ← leNat_eq_zero]
  constructor
  · intro promised failed
    exact (scalar.silent _ small).mp (promised.sticky failed).2
  · intro exhausted
    refine ⟨by omega, fun failed => ⟨?_, (scalar.silent _ small).mpr (exhausted failed)⟩,
      fun failed => ?_, ?_⟩
    · rw [skip, failed, Bool.false_and]
    · rw [remaining, failed]
      rfl
    · intro ok
      rcases ok_skip.mp ok with ⟨beforeOk, fits⟩
      have length : ((span.bytes.drop before.pos.toNat).take width).length = width := by
        rw [List.length_take, List.length_drop]
        omega
      have written := leBytes_leNat ((span.bytes.drop before.pos.toNat).take width)
      have there : (skip span width before).pos.toNat = before.pos.toNat + width := by omega
      rw [length] at written
      refine ⟨beforeOk, scalar.answers _, ?_⟩
      rw [scalar.encode _ small, written, there, ← List.drop_drop, List.take_append_drop]

theorem u8_eq (within : before.pos.toNat ≤ span.bytes.length) :
    u8 span before =
      some (UInt8.ofNat (leNat ((span.bytes.drop before.pos.toNat).take 1)), skip span 1 before) := by
  have one : word span 1 before = (u8 span before).map fun low => (low.1.toNat, low.2) := by
    show (u8 span before).bind _ = _
    cases u8 span before <;> rfl
  rw [word_eq within] at one
  rcases Option.map_eq_some_iff.mp one.symm with ⟨⟨low, moved⟩, ran, same⟩
  rw [Prod.mk.injEq] at same
  rw [ran, ← same.1, ← same.2, UInt8.ofNat_toNat]

theorem u16_eq (within : before.pos.toNat ≤ span.bytes.length) :
    u16 span before =
      some (UInt16.ofNat (leNat ((span.bytes.drop before.pos.toNat).take 2)), skip span 2 before) :=
  bind_of_some (word_eq within 2)

theorem u32_eq (within : before.pos.toNat ≤ span.bytes.length) :
    u32 span before =
      some (UInt32.ofNat (leNat ((span.bytes.drop before.pos.toNat).take 4)), skip span 4 before) :=
  bind_of_some (word_eq within 4)

theorem u64_eq (within : before.pos.toNat ≤ span.bytes.length) :
    u64 span before =
      some (UInt64.ofNat (leNat ((span.bytes.drop before.pos.toNat).take 8)), skip span 8 before) :=
  bind_of_some (word_eq within 8)

theorem i16_eq (within : before.pos.toNat ≤ span.bytes.length) :
    i16 span before =
      some ((UInt16.ofNat (leNat ((span.bytes.drop before.pos.toNat).take 2))).toInt16, skip span 2 before) :=
  bind_of_some (u16_eq within)

theorem i32_eq (within : before.pos.toNat ≤ span.bytes.length) :
    i32 span before =
      some ((UInt32.ofNat (leNat ((span.bytes.drop before.pos.toNat).take 4))).toInt32, skip span 4 before) :=
  bind_of_some (u32_eq within)

theorem ofNat_u8_eq_zero {value : Nat} (small : value < 256 ^ 1) : UInt8.ofNat value = 0 ↔ value = 0 := by
  rw [← UInt8.toNat_inj, UInt8.toNat_ofNat']
  exact Eq.congr_left (Nat.mod_eq_of_lt small)

theorem ofNat_u16_eq_zero {value : Nat} (small : value < 256 ^ 2) : UInt16.ofNat value = 0 ↔ value = 0 := by
  rw [← UInt16.toNat_inj, UInt16.toNat_ofNat']
  exact Eq.congr_left (Nat.mod_eq_of_lt small)

theorem ofNat_u32_eq_zero {value : Nat} (small : value < 256 ^ 4) : UInt32.ofNat value = 0 ↔ value = 0 := by
  rw [← UInt32.toNat_inj, UInt32.toNat_ofNat']
  exact Eq.congr_left (Nat.mod_eq_of_lt small)

theorem ofNat_u64_eq_zero {value : Nat} (small : value < 256 ^ 8) : UInt64.ofNat value = 0 ↔ value = 0 := by
  rw [← UInt64.toNat_inj, UInt64.toNat_ofNat']
  exact Eq.congr_left (Nat.mod_eq_of_lt small)

theorem toInt16_eq_zero {value : UInt16} : value.toInt16 = 0 ↔ value = 0 :=
  ⟨fun none => congrArg Int16.toUInt16 none, fun none => congrArg UInt16.toInt16 none⟩

theorem toInt32_eq_zero {value : UInt32} : value.toInt32 = 0 ↔ value = 0 :=
  ⟨fun none => congrArg Int32.toUInt32 none, fun none => congrArg UInt32.toInt32 none⟩

theorem isScalar_u8 (span : ByteSpan) : IsScalar span .u8 1 fun value => .u8 (UInt8.ofNat value) where
  ran _ within := bind_of_some (u8_eq within)
  silent _ small := ofNat_u8_eq_zero small
  encode _ _ := rfl
  answers _ := trivial

theorem isScalar_u16 (span : ByteSpan) : IsScalar span .u16 2 fun value => .u16 (UInt16.ofNat value) where
  ran _ within := bind_of_some (u16_eq within)
  silent _ small := ofNat_u16_eq_zero small
  encode _ small := congrArg (leBytes 2) (UInt16.toNat_ofNat_of_lt small)
  answers _ := trivial

theorem isScalar_u32 (span : ByteSpan) : IsScalar span .u32 4 fun value => .u32 (UInt32.ofNat value) where
  ran _ within := bind_of_some (u32_eq within)
  silent _ small := ofNat_u32_eq_zero small
  encode _ small := congrArg (leBytes 4) (UInt32.toNat_ofNat_of_lt small)
  answers _ := trivial

theorem isScalar_u64 (span : ByteSpan) : IsScalar span .u64 8 fun value => .u64 (UInt64.ofNat value) where
  ran _ within := bind_of_some (u64_eq within)
  silent _ small := ofNat_u64_eq_zero small
  encode _ small := congrArg (leBytes 8) (UInt64.toNat_ofNat_of_lt small)
  answers _ := trivial

theorem isScalar_i16 (span : ByteSpan) :
    IsScalar span .i16 2 fun value => .i16 (UInt16.ofNat value).toInt16 where
  ran _ within := bind_of_some (i16_eq within)
  silent _ small := toInt16_eq_zero.trans (ofNat_u16_eq_zero small)
  encode _ small := congrArg (leBytes 2) (UInt16.toNat_ofNat_of_lt small)
  answers _ := trivial

theorem isScalar_i32 (span : ByteSpan) :
    IsScalar span .i32 4 fun value => .i32 (UInt32.ofNat value).toInt32 where
  ran _ within := bind_of_some (i32_eq within)
  silent _ small := toInt32_eq_zero.trans (ofNat_u32_eq_zero small)
  encode _ small := congrArg (leBytes 4) (UInt32.toNat_ofNat_of_lt small)
  answers _ := trivial

theorem isScalar_f32 (span : ByteSpan) : IsScalar span .f32 4 fun value => .f32 (UInt32.ofNat value) where
  ran _ within := bind_of_some (u32_eq within)
  silent _ small := ofNat_u32_eq_zero small
  encode _ small := congrArg (leBytes 4) (UInt32.toNat_ofNat_of_lt small)
  answers _ := trivial

theorem isScalar_f64 (span : ByteSpan) : IsScalar span .f64 8 fun value => .f64 (UInt64.ofNat value) where
  ran _ within := bind_of_some (u64_eq within)
  silent _ small := ofNat_u64_eq_zero small
  encode _ small := congrArg (leBytes 8) (UInt64.toNat_ofNat_of_lt small)
  answers _ := trivial

/-! ### Bulk reads -/

/-- A bulk read is so many bytes made into a field of elements of one width. -/
structure IsBulk (span : ByteSpan) (read : ByteRead) (n width : UInt64) (convert : List UInt8 -> ByteField) :
    Prop where
  divides : width.toNat ∣ 2 ^ 64
  ran : forall cursor : ByteCursor, step span read cursor =
    (bulk span (n * width) cursor).map fun copied => (convert copied.1, copied.2)
  silent : forall copied, width.toNat ∣ copied.length -> ((convert copied).Silent ↔ copied = [])
  encode : forall copied, width.toNat ∣ copied.length -> (convert copied).encode = copied
  answers : forall copied, width.toNat ∣ copied.length ->
    ((convert copied).Answers read ↔ copied.length = n.toNat * width.toNat)

theorem IsBulk.divides_count {n width : UInt64} {convert : List UInt8 -> ByteField}
    (isBulk : IsBulk span read n width convert) : width.toNat ∣ (n * width).toNat := by
  rw [UInt64.toNat_mul]
  exact (Nat.dvd_mod_iff isBulk.divides).mpr (Nat.dvd_mul_left _ _)

theorem bulk_of_gt {count : UInt64} (past : before.pos + count > span.size) :
    bulk span count before = some ([], { before with ok := false }) := by
  rw [bulk, if_pos past]

theorem bulk_of_le {count : UInt64} (fits : ¬ before.pos + count > span.size) :
    bulk span count before = copy span count before := by
  rw [bulk, if_neg fits]

theorem IsBulk.keeps_iff {n width : UInt64} {convert : List UInt8 -> ByteField}
    (isBulk : IsBulk span read n width convert) (within : before.pos.toNat ≤ span.bytes.length) :
    Keeps span before read ↔ Counted span before n width := by
  have bound := span.bounded
  have divides := isBulk.divides_count
  have ran := isBulk.ran before
  have wrapped : (n * width).toNat ≤ n.toNat * width.toNat := by
    rw [UInt64.toNat_mul]
    exact Nat.mod_le _ _
  rw [Counted]
  by_cases past : before.pos + n * width > span.size
  · -- The read is refused.
    rw [bulk_of_gt past] at ran
    have refused : Promised span before read (convert []) { before with ok := false } :=
      ⟨within, fun _ => ⟨rfl, (isBulk.silent [] (Nat.dvd_zero _)).mpr rfl⟩, fun _ => rfl,
        fun ok => (by cases ok)⟩
    exact iff_of_true ((keeps_iff_of_ran ran).mpr refused) fun fits => absurd past (UInt64.not_lt.mpr fits)
  · have accepted : before.pos + n * width ≤ span.size := UInt64.not_lt.mp past
    rw [bulk_of_le past, copy] at ran
    by_cases inside : before.pos.toNat + (n * width).toNat ≤ span.bytes.length
    · rw [if_pos inside] at ran
      have length : ((span.bytes.drop before.pos.toNat).take (n * width).toNat).length = (n * width).toNat := by
        rw [List.length_take, List.length_drop]
        omega
      generalize sliced : (span.bytes.drop before.pos.toNat).take (n * width).toNat = slice at ran length
      rw [← length] at divides
      have moved : (before.pos + n * width).toNat = before.pos.toNat + (n * width).toNat := by
        rw [UInt64.toNat_add]
        omega
      rw [keeps_iff_of_ran ran]
      rcases before with ⟨pos, ok⟩
      dsimp only at sliced moved inside within accepted ⊢
      cases ok with
      | true =>
          rw [if_pos rfl]
          constructor
          · intro promised _
            have counted := (isBulk.answers slice divides).mp (promised.decoded rfl).2.1
            omega
          · intro counted
            have same : (n * width).toNat = n.toNat * width.toNat := by
              rw [UInt64.toNat_mul]
              exact Nat.mod_eq_of_lt (by have there := counted accepted; omega)
            refine ⟨by dsimp only; omega, fun failed => (by cases failed), fun failed => (by cases failed),
              fun _ => ⟨rfl, (isBulk.answers slice divides).mpr (length.trans same), ?_⟩⟩
            dsimp only
            rw [isBulk.encode slice divides, moved, ← sliced, ← List.drop_drop, List.take_append_drop]
      | false =>
          rw [if_neg Bool.false_ne_true]
          constructor
          · intro promised _
            have nothing := (isBulk.silent slice divides).mp (promised.sticky rfl).2
            rw [nothing, List.length_nil] at length
            exact UInt64.toNat_inj.mp length.symm
          · intro nothing
            have none := nothing accepted
            rw [none] at length moved
            have silent := (isBulk.silent slice divides).mpr (List.length_eq_zero_iff.mp length)
            refine ⟨?_, fun _ => ⟨rfl, silent⟩, fun _ => rfl, fun ok => (by cases ok)⟩
            dsimp only
            rw [none, moved]
            exact within
    · -- The bytes copied are not all in the span.
      rw [if_neg inside] at ran
      apply iff_of_false
      · rintro ⟨field, after, ran', promised⟩
        rw [ran] at ran'
        cases ran'
      · intro counted
        have there := counted accepted
        cases flag : before.ok with
        | true =>
            rw [flag, if_pos rfl] at there
            omega
        | false =>
            rw [flag, if_neg Bool.false_ne_true] at there
            rw [there] at inside
            exact inside within

theorem isBulk_bytes (span : ByteSpan) (n : UInt64) : IsBulk span (.bytes n) n 1 .bytes where
  divides := Nat.one_dvd _
  ran cursor := by
    rw [UInt64.mul_one]
    show (bulk span n cursor).bind _ = _
    cases bulk span n cursor <;> rfl
  silent _ _ := Iff.rfl
  encode _ _ := rfl
  answers copied _ := by
    have one : n.toNat * (1 : UInt64).toNat = n.toNat := Nat.mul_one _
    rw [one]
    exact Iff.rfl

theorem isBulk_i16Span (span : ByteSpan) (n : UInt64) :
    IsBulk span (.i16Span n) n 2 fun copied =>
      .i16Span ((ByteReader.fields 2 (copied.length / 2) copied).map fun value =>
        (UInt16.ofNat value).toInt16) where
  divides := ⟨2 ^ 63, rfl⟩
  ran cursor := by
    show ((bulk span (n * 2) cursor).bind _).bind _ = _
    cases bulk span (n * 2) cursor <;> rfl
  silent copied divides := by
    have even : 2 ∣ copied.length := divides
    rw [ByteField.Silent, List.map_eq_nil_iff, ← List.length_eq_zero_iff, ByteReader.length_fields,
      ← List.length_eq_zero_iff]
    omega
  encode copied divides := by
    have whole : copied.length / 2 * 2 = copied.length := Nat.div_mul_cancel divides
    rw [ByteField.encode, List.flatMap_map]
    exact ByteReader.flatMap_fields
      whole.symm fun value => (congrArg (leBytes 2) UInt16.toNat_ofNat').trans (leBytes_mod 2 value)
  answers copied divides := by
    have even : 2 ∣ copied.length := divides
    have two : n.toNat * (2 : UInt64).toNat = n.toNat * 2 := rfl
    rw [ByteField.Answers, List.length_map, ByteReader.length_fields, two]
    omega

theorem isBulk_i32Span (span : ByteSpan) (n : UInt64) :
    IsBulk span (.i32Span n) n 4 fun copied =>
      .i32Span ((ByteReader.fields 4 (copied.length / 4) copied).map fun value =>
        (UInt32.ofNat value).toInt32) where
  divides := ⟨2 ^ 62, rfl⟩
  ran cursor := by
    show ((bulk span (n * 4) cursor).bind _).bind _ = _
    cases bulk span (n * 4) cursor <;> rfl
  silent copied divides := by
    have fourfold : 4 ∣ copied.length := divides
    rw [ByteField.Silent, List.map_eq_nil_iff, ← List.length_eq_zero_iff, ByteReader.length_fields,
      ← List.length_eq_zero_iff]
    omega
  encode copied divides := by
    have whole : copied.length / 4 * 4 = copied.length := Nat.div_mul_cancel divides
    rw [ByteField.encode, List.flatMap_map]
    exact ByteReader.flatMap_fields
      whole.symm fun value => (congrArg (leBytes 4) UInt32.toNat_ofNat').trans (leBytes_mod 4 value)
  answers copied divides := by
    have fourfold : 4 ∣ copied.length := divides
    have four : n.toNat * (4 : UInt64).toNat = n.toNat * 4 := rfl
    rw [ByteField.Answers, List.length_map, ByteReader.length_fields, four]
    omega

/-! ### Strings -/

/-- A string is refused, or all of it is ahead. -/
theorem characters_cases (within : before.pos.toNat ≤ span.bytes.length) (len : UInt32) :
    ¬ (before.ok = true ∧ before.pos.toNat + len.toNat ≤ span.bytes.length) ∧
        characters span len before = some ([], { before with ok := false }) ∨
      before.ok = true ∧ before.pos.toNat + len.toNat ≤ span.bytes.length ∧
        characters span len before = some ((span.bytes.drop before.pos.toNat).take len.toNat,
          { before with pos := before.pos + len.toUInt64 }) := by
  have bound := span.bounded
  have wide : len.toUInt64.toNat = len.toNat := UInt32.toNat_toUInt64 len
  have beforeEnd : before.pos ≤ span.size := by
    rw [UInt64.le_iff_toNat_le, ByteSpan.toNat_size]
    exact within
  unfold characters
  by_cases refused : before.ok = false ∨ len.toUInt64 > before.remaining span
  · refine Or.inl ⟨fun ⟨ok, inside⟩ => ?_, if_pos refused⟩
    rcases refused with failed | more
    · exact absurd ok (by rw [failed]; exact Bool.false_ne_true)
    · rw [remaining, if_pos ok, gt_iff_lt, UInt64.lt_iff_toNat_lt, UInt64.toNat_sub_of_le _ _ beforeEnd,
        ByteSpan.toNat_size, wide] at more
      omega
  · rcases not_or.mp refused with ⟨flag, enough⟩
    have ok : before.ok = true := Bool.eq_true_of_not_eq_false flag
    have ahead : len.toUInt64 ≤ span.size - before.pos := by
      have there := UInt64.not_lt.mp enough
      rw [remaining, if_pos ok] at there
      exact there
    have inside : before.pos.toNat + len.toNat ≤ span.bytes.length := by
      rw [UInt64.le_iff_toNat_le, UInt64.toNat_sub_of_le _ _ beforeEnd, ByteSpan.toNat_size, wide] at ahead
      omega
    rw [if_neg refused, copy, if_pos (by rw [wide]; exact inside), wide]
    exact Or.inr ⟨ok, inside, rfl⟩

theorem keeps_str (within : before.pos.toNat ≤ span.bytes.length) : Keeps span before .str := by
  have bound := span.bounded
  have moved := toNat_pos_skip within 4
  have lenRan := u32_eq within
  have length : ((span.bytes.drop before.pos.toNat).take 4).length ≤ 4 := List.length_take_le _ _
  generalize sliced : (span.bytes.drop before.pos.toNat).take 4 = slice at lenRan length
  have afterLen : (skip span 4 before).pos.toNat ≤ span.bytes.length := by omega
  have ran : step span .str before =
      (characters span (UInt32.ofNat (leNat slice)) (skip span 4 before)).map fun text =>
        (.str text.1, text.2) := by
    show (((u32 span before).bind _).bind _) = _
    rw [lenRan]
    show ((characters span (UInt32.ofNat (leNat slice)) (skip span 4 before)).bind _) = _
    cases characters span (UInt32.ofNat (leNat slice)) (skip span 4 before) <;> rfl
  rcases characters_cases afterLen (UInt32.ofNat (leNat slice)) with ⟨-, refused⟩ | ⟨ok, inside, taken⟩
  · rw [refused] at ran
    exact ⟨_, _, ran, afterLen, fun _ => ⟨rfl, rfl⟩, fun _ => rfl, fun ok => (by cases ok)⟩
  · rw [taken] at ran
    rcases ok_skip.mp ok with ⟨beforeOk, fits⟩
    have four : slice.length = 4 := by
      rw [← sliced, List.length_take, List.length_drop]
      omega
    have small := (UInt32.ofNat (leNat slice)).toNat_lt
    generalize counted : UInt32.ofNat (leNat slice) = len at ran inside small
    have textLength : ((span.bytes.drop (skip span 4 before).pos.toNat).take len.toNat).length = len.toNat := by
      rw [List.length_take, List.length_drop]
      omega
    have wide : len.toUInt64.toNat = len.toNat := UInt32.toNat_toUInt64 len
    have last : ((skip span 4 before).pos + len.toUInt64).toNat =
        (skip span 4 before).pos.toNat + len.toNat := by
      rw [UInt64.toNat_add, wide]
      omega
    refine ⟨_, _, ran, ?_, fun failed => ?_, fun failed => ?_, fun _ => ⟨beforeOk, ?_, ?_⟩⟩
    · dsimp only
      omega
    · exact absurd beforeOk (by rw [failed]; exact Bool.false_ne_true)
    · exact absurd ok (by rw [show (skip span 4 before).ok = false from failed]; exact Bool.false_ne_true)
    · dsimp only [ByteField.Answers]
      omega
    · have there : (skip span 4 before).pos.toNat = before.pos.toNat + 4 := by omega
      dsimp only [ByteField.encode]
      rw [textLength, UInt32.ofNat_toNat, ← counted, ByteWriter.u32_leNat four, counted, last, there,
        ← List.drop_drop (i := len.toNat), List.append_assoc, List.take_append_drop, ← sliced,
        ← List.drop_drop, List.take_append_drop]

/-! ### Sequences of reads -/

theorem keeps_iff_harmless (within : before.pos.toNat ≤ span.bytes.length) (read : ByteRead) :
    Keeps span before read ↔ Harmless span before read := by
  cases read with
  | u8 => exact (isScalar_u8 span).keeps_iff within
  | u16 => exact (isScalar_u16 span).keeps_iff within
  | u32 => exact (isScalar_u32 span).keeps_iff within
  | u64 => exact (isScalar_u64 span).keeps_iff within
  | i16 => exact (isScalar_i16 span).keeps_iff within
  | i32 => exact (isScalar_i32 span).keeps_iff within
  | f32 => exact (isScalar_f32 span).keeps_iff within
  | f64 => exact (isScalar_f64 span).keeps_iff within
  | str => exact iff_of_true (keeps_str within) trivial
  | bytes n => exact (isBulk_bytes span n).keeps_iff within
  | i16Span n => exact (isBulk_i16Span span n).keeps_iff within
  | i32Span n => exact (isBulk_i32Span span n).keeps_iff within

theorem keepsPromises_iff (within : before.pos.toNat ≤ span.bytes.length) (reads : List ByteRead) :
    KeepsPromises span before reads ↔ AllHarmless span before reads := by
  induction reads generalizing before with
  | nil => exact Iff.rfl
  | cons read rest inductionHypothesis =>
      rw [KeepsPromises, AllHarmless, ← keeps_iff_harmless within]
      constructor
      · rintro ⟨field, after, ran, promised, others⟩
        refine ⟨⟨field, after, ran, promised⟩, fun field' after' ran' => ?_⟩
        rw [ran] at ran'
        cases ran'
        exact (inductionHypothesis promised.within).mp others
      · rintro ⟨⟨field, after, ran, promised⟩, others⟩
        exact ⟨field, after, ran, promised, (inductionHypothesis promised.within).mpr (others field after ran)⟩

/-! ### The decoders' view -/

section Decoders

variable {E A B : Type}

/-- The bytes ahead of a cursor, as the decoders keep them. -/
structure Follows (span : ByteSpan) (cursor : ByteCursor) (reading : Reading) : Prop where
  within : cursor.pos.toNat ≤ span.bytes.length
  rest : reading.rest = span.bytes.drop cursor.pos.toNat
  ok : reading.ok = cursor.ok

/-- The decoder gives what the read gives, and stays with it. -/
def Simulates (span : ByteSpan) (read : Read A) (decoder : Decoder E A) : Prop :=
  forall cursor reading, Follows span cursor reading -> exists value after left,
    read cursor = some (value, after) ∧ decoder reading = (.ok value, left) ∧ Follows span after left

namespace Simulates

theorem pure (value : A) : Simulates (E := E) span (Pure.pure value) (Pure.pure value) :=
  fun cursor reading follows => ⟨value, cursor, reading, rfl, rfl, follows⟩

theorem bind {read : Read A} {decoder : Decoder E A} {next : A -> Read B} {nextDecoder : A -> Decoder E B}
    (first : Simulates span read decoder) (second : forall value, Simulates span (next value) (nextDecoder value)) :
    Simulates span (read >>= next) (decoder >>= nextDecoder) := by
  intro cursor reading follows
  rcases first cursor reading follows with ⟨value, between, left, ran, decoded, still⟩
  rcases second value between left still with ⟨result, after, last, ran', decoded', stays⟩
  exact ⟨result, after, last, (bind_of_some ran).trans ran', (Decoder.bind_of_ok decoded).trans decoded', stays⟩

theorem u8 : Simulates (E := E) span (ByteCursor.u8 span) ByteReader.u8 := by
  intro cursor reading follows
  rcases follows with ⟨within, rest, ok⟩
  rcases Nat.lt_or_eq_of_le within with more | done
  · have bound := span.bounded
    have one : (cursor.pos + 1).toNat = cursor.pos.toNat + 1 := by
      rw [UInt64.toNat_add]
      have one : (1 : UInt64).toNat = 1 := rfl
      omega
    rw [List.drop_eq_getElem_cons more] at rest
    refine ⟨_, _, { reading with rest := span.bytes.drop (cursor.pos.toNat + 1) }, u8_of_lt more, ?_, ?_⟩
    · rw [ByteReader.u8, Decoder.byte, rest]
    · exact ⟨one ▸ more, congrArg span.bytes.drop one.symm, ok⟩
  · rw [done, List.drop_length] at rest
    refine ⟨_, _, { reading with ok := false }, u8_of_eq done, ?_, within, ?_, rfl⟩
    · rw [ByteReader.u8, Decoder.byte, rest]
    · rw [done, List.drop_length, rest]

theorem word (width : Nat) : Simulates (E := E) span (ByteCursor.word span width) (ByteReader.word width) := by
  induction width with
  | zero => exact Simulates.pure 0
  | succ width inductionHypothesis =>
      exact Simulates.u8.bind fun low => inductionHypothesis.bind fun high => Simulates.pure _

theorem u16 : Simulates (E := E) span (ByteCursor.u16 span) ByteReader.u16 :=
  (Simulates.word 2).bind fun _ => Simulates.pure _

theorem u32 : Simulates (E := E) span (ByteCursor.u32 span) ByteReader.u32 :=
  (Simulates.word 4).bind fun _ => Simulates.pure _

theorem u64 : Simulates (E := E) span (ByteCursor.u64 span) ByteReader.u64 :=
  (Simulates.word 8).bind fun _ => Simulates.pure _

theorem i16 : Simulates (E := E) span (ByteCursor.i16 span) ByteReader.i16 :=
  Simulates.u16.bind fun _ => Simulates.pure _

theorem i32 : Simulates (E := E) span (ByteCursor.i32 span) ByteReader.i32 :=
  Simulates.u32.bind fun _ => Simulates.pure _

/-- The string reads agree, whatever length the bytes claim. -/
theorem str : Simulates (E := E) span (ByteCursor.str span) ByteReader.str := by
  refine Simulates.u32.bind fun len => ?_
  intro cursor reading follows
  rcases follows with ⟨within, rest, ok⟩
  have ahead : reading.rest.length = span.bytes.length - cursor.pos.toNat := by rw [rest, List.length_drop]
  rcases characters_cases within len with ⟨short, refused⟩ | ⟨flag, inside, taken⟩
  · have few : ¬ (reading.ok = true ∧ len.toNat ≤ reading.rest.length) := by
      rintro ⟨flag, fits⟩
      exact short ⟨ok.symm.trans flag, by omega⟩
    refine ⟨_, _, { reading with ok := false }, refused, ?_, within, rest, rfl⟩
    rw [ByteReader.characters, if_neg few]
  · have fits : reading.ok = true ∧ len.toNat ≤ reading.rest.length := ⟨ok.trans flag, by omega⟩
    have moved : (cursor.pos + len.toUInt64).toNat = cursor.pos.toNat + len.toNat := by
      have bound := span.bounded
      rw [UInt64.toNat_add, UInt32.toNat_toUInt64]
      omega
    refine ⟨_, _, { reading with rest := reading.rest.drop len.toNat }, taken, ?_, ?_⟩
    · rw [ByteReader.characters, if_pos fits, rest]
    · refine ⟨by dsimp only; omega, ?_, ok⟩
      dsimp only
      rw [moved, rest, List.drop_drop]

/-- The bulk reads agree as long as no count wraps. -/
theorem bulk {count : UInt64} (small : count.toNat < 2 ^ 63) :
    Simulates (E := E) span (ByteCursor.bulk span count) (do
      let copied ← Decoder.take count.toNat
      Pure.pure (copied.getD [])) := by
  intro cursor reading follows
  rcases follows with ⟨within, rest, ok⟩
  have bound := span.bounded
  have ahead : reading.rest.length = span.bytes.length - cursor.pos.toNat := by rw [rest, List.length_drop]
  have moved : (cursor.pos + count).toNat = cursor.pos.toNat + count.toNat := by
    rw [UInt64.toNat_add]
    omega
  have past : cursor.pos + count > span.size ↔ span.bytes.length < cursor.pos.toNat + count.toNat := by
    rw [gt_iff_lt, UInt64.lt_iff_toNat_lt, ByteSpan.toNat_size, moved]
  by_cases inside : cursor.pos.toNat + count.toNat ≤ span.bytes.length
  · have taken : ByteCursor.bulk span count cursor = copy span count cursor :=
      bulk_of_le fun gone => absurd (past.mp gone) (Nat.not_lt.mpr inside)
    rw [copy, if_pos inside] at taken
    refine ⟨_, _, { reading with rest := reading.rest.drop count.toNat }, taken, ?_, ?_⟩
    · rw [Decoder.bind_eq, Decoder.take, if_pos (by omega), rest]
      rfl
    · refine ⟨by dsimp only; omega, ?_, ok⟩
      dsimp only
      rw [moved, rest, List.drop_drop]
  · refine ⟨_, _, { reading with ok := false }, bulk_of_gt (past.mpr (Nat.lt_of_not_le inside)), ?_,
      within, rest, rfl⟩
    rw [Decoder.bind_eq, Decoder.take, if_neg (by omega)]
    rfl

end Simulates

end Decoders

/-! ### Reading back -/

/-- A reader on the bytes of a field gives the field, and stands behind it. -/
def ReadsBack (span : ByteSpan) (before : ByteCursor) (field : ByteField) : Prop :=
  step span field.matchingRead before = some (field, ⟨before.pos + UInt64.ofNat field.encode.length, true⟩)

/-- A sound reader with these bytes ahead. -/
structure Ahead (span : ByteSpan) (before : ByteCursor) (bytes tail : List UInt8) : Prop where
  ok : before.ok = true
  within : before.pos.toNat ≤ span.bytes.length
  drop : span.bytes.drop before.pos.toNat = bytes ++ tail

namespace Ahead

variable {bytes tail : List UInt8}

theorem fits (ahead : Ahead span before bytes tail) :
    before.pos.toNat + bytes.length + tail.length = span.bytes.length := by
  have length := congrArg List.length ahead.drop
  have within := ahead.within
  rw [List.length_drop, List.length_append] at length
  omega

theorem skip (ahead : Ahead span before bytes tail) :
    ByteCursor.skip span bytes.length before = ⟨before.pos + UInt64.ofNat bytes.length, true⟩ := by
  have fits := ahead.fits
  have least : min bytes.length (span.bytes.length - before.pos.toNat) = bytes.length := by omega
  have inside : before.pos.toNat + bytes.length ≤ span.bytes.length := by omega
  rw [ByteCursor.skip, least, ahead.ok, decide_eq_true inside]
  rfl

/-- The reader behind the bytes has the tail ahead. -/
theorem next {first rest : List UInt8} (ahead : Ahead span before (first ++ rest) tail) :
    Ahead span ⟨before.pos + UInt64.ofNat first.length, true⟩ rest tail := by
  have fits := ahead.fits
  have bound := span.bounded
  rw [List.length_append] at fits
  have there : (before.pos + UInt64.ofNat first.length).toNat = before.pos.toNat + first.length := by
    rw [UInt64.toNat_add, UInt64.toNat_ofNat']
    omega
  refine ⟨rfl, by dsimp only; omega, ?_⟩
  dsimp only
  rw [there, ← List.drop_drop, ahead.drop, List.append_assoc, List.drop_left]

theorem scalar {width value : Nat} {convert : Nat -> ByteField} (ahead : Ahead span before field.encode tail)
    (scalar : IsScalar span field.matchingRead width convert) (small : value < 256 ^ width)
    (back : convert value = field) : ReadsBack span before field := by
  have written := scalar.encode value small
  rw [back] at written
  have length : field.encode.length = width := by rw [written, length_leBytes]
  have skipped := ahead.skip
  rw [length] at skipped
  rw [ReadsBack, scalar.ran before ahead.within, ahead.drop, ← length, List.take_left, length, written,
    leNat_leBytes_of_lt small, skipped, back]

theorem bulk {n width : UInt64} {field : ByteField} {convert : List UInt8 -> ByteField}
    (ahead : Ahead span before field.encode tail) (isBulk : IsBulk span field.matchingRead n width convert)
    (count : field.encode.length = n.toNat * width.toNat) (back : convert field.encode = field) :
    ReadsBack span before field := by
  have fits := ahead.fits
  have bound := span.bounded
  have exact_count : (n * width).toNat = field.encode.length := by
    rw [UInt64.toNat_mul, ← count]
    exact Nat.mod_eq_of_lt (by omega)
  have same : UInt64.ofNat field.encode.length = n * width := by rw [← exact_count, UInt64.ofNat_toNat]
  have accepted : ¬ before.pos + n * width > span.size := by
    rw [gt_iff_lt, UInt64.lt_iff_toNat_lt, ByteSpan.toNat_size, UInt64.toNat_add, exact_count]
    omega
  have inside : before.pos.toNat + (n * width).toNat ≤ span.bytes.length := by omega
  rw [ReadsBack, isBulk.ran, bulk_of_le accepted, copy, if_pos inside, ahead.drop, exact_count, List.take_left,
    same, ahead.ok, Option.map_some, back]

end Ahead

theorem readsBack_str {value : Text} {tail : List UInt8} (short : value.length < 2 ^ 32)
    (ahead : Ahead span before (ByteField.str value).encode tail) : ReadsBack span before (.str value) := by
  have bound := span.bounded
  have counted : (UInt32.ofNat value.length).toNat = value.length := UInt32.toNat_ofNat_of_lt short
  have wide : (UInt32.ofNat value.length).toUInt64.toNat = value.length :=
    (UInt32.toNat_toUInt64 _).trans counted
  have prefixAhead : Ahead span before (ByteWriter.u32 (UInt32.ofNat value.length)) (value ++ tail) :=
    ⟨ahead.ok, ahead.within, ahead.drop.trans (List.append_assoc _ _ _)⟩
  have behind : Ahead span ⟨before.pos + UInt64.ofNat 4, true⟩ value tail := ahead.next
  have lenRan := u32_eq ahead.within
  have skipped := prefixAhead.skip
  rw [ByteWriter.length_u32] at skipped
  rw [prefixAhead.drop, List.take_left' (ByteWriter.length_u32 _), skipped, ByteWriter.u32,
    leNat_leBytes_of_lt (UInt32.toNat_lt _), UInt32.ofNat_toNat] at lenRan
  have taken : characters span (UInt32.ofNat value.length) ⟨before.pos + UInt64.ofNat 4, true⟩ =
      some (value, ⟨before.pos + UInt64.ofNat 4 + UInt64.ofNat value.length, true⟩) := by
    have fits := behind.fits
    have same : (UInt32.ofNat value.length).toUInt64 = UInt64.ofNat value.length := by
      apply UInt64.toNat_inj.mp
      rw [wide, UInt64.toNat_ofNat']
      omega
    have beforeEnd : before.pos + UInt64.ofNat 4 ≤ span.size := by
      rw [UInt64.le_iff_toNat_le, ByteSpan.toNat_size]
      exact behind.within
    have enough : ¬ (UInt32.ofNat value.length).toUInt64 > span.size - (before.pos + UInt64.ofNat 4) := by
      rw [gt_iff_lt, UInt64.lt_iff_toNat_lt, UInt64.toNat_sub_of_le _ _ beforeEnd, ByteSpan.toNat_size, wide]
      dsimp only at fits
      omega
    have accepted : ¬ ((true : Bool) = false ∨ (UInt32.ofNat value.length).toUInt64 >
        remaining span ⟨before.pos + UInt64.ofNat 4, true⟩) := by
      rintro (failed | more)
      · cases failed
      · exact enough more
    have inside : (before.pos + UInt64.ofNat 4).toNat + (UInt32.ofNat value.length).toUInt64.toNat ≤
        span.bytes.length := by
      rw [wide]
      dsimp only at fits
      omega
    rw [characters, if_neg accepted, copy, if_pos inside, wide, same]
    dsimp only
    rw [behind.drop, List.take_left]
  have length : (ByteField.str value).encode.length = 4 + value.length := by
    rw [ByteField.encode, List.length_append, ByteWriter.length_u32]
  have joined : before.pos + UInt64.ofNat 4 + UInt64.ofNat value.length =
      before.pos + UInt64.ofNat (4 + value.length) := by
    rw [UInt64.ofNat_add, UInt64.add_assoc]
  rw [joined] at taken
  rw [ReadsBack, length]
  exact bind_of_some ((bind_of_some lenRan).trans taken)

theorem readsBack {tail : List UInt8} (ahead : Ahead span before field.encode tail)
    (written : field.write = some field.encode) : ReadsBack span before field := by
  have bound := span.bounded
  have fits := ahead.fits
  cases field with
  | u8 value => exact ahead.scalar (isScalar_u8 span) value.toNat_lt (congrArg _ UInt8.ofNat_toNat)
  | u16 value => exact ahead.scalar (isScalar_u16 span) value.toNat_lt (congrArg _ UInt16.ofNat_toNat)
  | u32 value => exact ahead.scalar (isScalar_u32 span) value.toNat_lt (congrArg _ UInt32.ofNat_toNat)
  | u64 value => exact ahead.scalar (isScalar_u64 span) value.toNat_lt (congrArg _ UInt64.ofNat_toNat)
  | i16 value =>
      exact ahead.scalar (isScalar_i16 span) value.toUInt16.toNat_lt
        (congrArg (fun bits : UInt16 => ByteField.i16 bits.toInt16) UInt16.ofNat_toNat)
  | i32 value =>
      exact ahead.scalar (isScalar_i32 span) value.toUInt32.toNat_lt
        (congrArg (fun bits : UInt32 => ByteField.i32 bits.toInt32) UInt32.ofNat_toNat)
  | f32 value => exact ahead.scalar (isScalar_f32 span) value.toNat_lt (congrArg _ UInt32.ofNat_toNat)
  | f64 value => exact ahead.scalar (isScalar_f64 span) value.toNat_lt (congrArg _ UInt64.ofNat_toNat)
  | str value =>
      rw [ByteField.write, ByteWriter.str] at written
      split at written
      · rename_i short
        exact readsBack_str (Nat.lt_succ_of_le short) ahead
      · cases written
  | bytes values =>
      have length : (ByteField.bytes values).encode.length = values.length := rfl
      refine ahead.bulk (isBulk_bytes span _) ?_ rfl
      rw [length, UInt64.toNat_ofNat_of_lt' (by rw [UInt64.size]; omega)]
      exact (Nat.mul_one _).symm
  | i16Span values =>
      have length : (ByteField.i16Span values).encode.length = values.length * 2 :=
        length_flatMap_of_eq values fun value _ => ByteWriter.length_i16 value
      refine ahead.bulk (isBulk_i16Span span _) ?_ ?_
      · rw [length, UInt64.toNat_ofNat_of_lt' (by rw [UInt64.size]; omega)]
        rfl
      · rw [length, Nat.mul_div_cancel _ (by decide)]
        exact congrArg _ (ByteReader.map_fields_i16 values)
  | i32Span values =>
      have length : (ByteField.i32Span values).encode.length = values.length * 4 :=
        length_flatMap_of_eq values fun value _ => ByteWriter.length_i32 value
      refine ahead.bulk (isBulk_i32Span span _) ?_ ?_
      · rw [length, UInt64.toNat_ofNat_of_lt' (by rw [UInt64.size]; omega)]
        rfl
      · rw [length, Nat.mul_div_cancel _ (by decide)]
        exact congrArg _ (ByteReader.map_fields_i32 values)

/-- What is written is the bytes of the field. -/
theorem write_eq {bytes : List UInt8} (written : field.write = some bytes) : bytes = field.encode := by
  cases field with
  | str value =>
      rw [ByteField.write, ByteWriter.str] at written
      split at written
      · exact (Option.some.inj written).symm
      · cases written
  | _ => exact (Option.some.inj written).symm

theorem run_writeAll {fields : List ByteField} {bytes tail : List UInt8}
    (written : ByteField.writeAll fields = some bytes) (ahead : Ahead span before bytes tail) :
    run span (fields.map ByteField.matchingRead) before =
      some (fields, ⟨before.pos + UInt64.ofNat bytes.length, true⟩) := by
  induction fields generalizing before bytes with
  | nil =>
      cases written
      rcases before with ⟨pos, ok⟩
      cases ahead.ok
      exact congrArg (fun pos : UInt64 => some (([] : List ByteField), (⟨pos, true⟩ : ByteCursor)))
        (UInt64.add_zero pos).symm
  | cons field rest inductionHypothesis =>
      rcases Option.bind_eq_some_iff.mp written with ⟨first, firstWritten, more⟩
      rcases Option.bind_eq_some_iff.mp more with ⟨others, othersWritten, joined⟩
      cases joined
      cases write_eq firstWritten
      have fieldAhead : Ahead span before field.encode (others ++ tail) :=
        ⟨ahead.ok, ahead.within, ahead.drop.trans (List.append_assoc _ _ _)⟩
      have firstRead := readsBack fieldAhead firstWritten
      have othersRead := inductionHypothesis othersWritten ahead.next
      rw [List.map_cons, run, bind_of_some firstRead, bind_of_some othersRead, List.length_append,
        UInt64.ofNat_add, ← UInt64.add_assoc]
      rfl

/-- A run of reads from the start of a span keeps within it, stays failed once
it has failed, gives nothing afterwards and decodes consecutive bytes before,
exactly when each read is harmless where it stands; and what a writer wrote is
read back. -/
theorem byteReader_promises (span : ByteSpan) :
    (forall reads : List ByteRead, KeepsPromises span start reads ↔ AllHarmless span start reads) ∧
    (forall (fields : List ByteField) (bytes tail : List UInt8),
      ByteField.writeAll fields = some bytes -> span.bytes = bytes ++ tail ->
        run span (fields.map ByteField.matchingRead) start =
          some (fields, ⟨UInt64.ofNat bytes.length, true⟩)) := by
  refine ⟨keepsPromises_iff (Nat.zero_le _), ?_⟩
  intro fields bytes tail written whole
  have ran := run_writeAll written (⟨rfl, Nat.zero_le _, whole⟩ : Ahead span start bytes tail)
  rw [start, UInt64.zero_add] at ran
  exact ran

theorem byteReader_promises_written :
    run ⟨[7, 0, 2, 0, 0, 0, 104, 105], by decide⟩ [.u16, .str] start =
      some ([.u16 7, .str [104, 105]], ⟨8, true⟩) :=
  (byteReader_promises ⟨[7, 0, 2, 0, 0, 0, 104, 105], by decide⟩).2 [.u16 7, .str [104, 105]]
    [7, 0, 2, 0, 0, 0, 104, 105] [] rfl rfl

/-- Two bytes are asked for where there is one, and a byte after that. -/
theorem not_keepsPromises :
    ¬ forall (span : ByteSpan) (reads : List ByteRead), KeepsPromises span start reads := by
  intro always
  rcases always ⟨[7], by decide⟩ [.bytes 2, .u8] with
    ⟨first, between, failed, -, second, after, ran, promised, -⟩
  cases failed
  cases ran
  have zero : (7 : UInt8) = 0 := (promised.sticky rfl).2
  exact absurd zero (by decide)

end ByteCursor
end BravoFinder
