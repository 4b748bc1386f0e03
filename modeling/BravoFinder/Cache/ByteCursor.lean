import BravoFinder.Cache.ByteIo

namespace BravoFinder

/-!
# The byte reader as it is kept

The class keeps a cursor and a flag over a span and adds lengths in `size_t`.
`Decoder` keeps the bytes ahead instead, and its lengths never wrap.  Here the
cursor is the state, and an access outside the span, on which nothing can be
relied, is `none`.

A read that fails leaves the cursor where it stands, and the reads of one byte
do not look at the flag: what they return afterwards is whatever is ahead.
-/

/-- The bytes a reader is made over.  No object is larger than half of what an
address can tell apart. -/
structure ByteSpan where
  bytes : List UInt8
  bounded : bytes.length < 2 ^ 63

namespace ByteSpan

/-- `size_`. -/
def size (span : ByteSpan) : UInt64 := UInt64.ofNat span.bytes.length

@[simp] theorem toNat_size (span : ByteSpan) : span.size.toNat = span.bytes.length :=
  UInt64.toNat_ofNat_of_lt (Nat.lt_trans span.bounded (by decide))

end ByteSpan

/-- What a reader keeps besides its span. -/
@[ext] structure ByteCursor where
  pos : UInt64
  ok : Bool
deriving DecidableEq

namespace ByteCursor

/-- A reader as it is made. -/
def start : ByteCursor := ⟨0, true⟩

/-- `remaining()`. -/
def remaining (span : ByteSpan) (cursor : ByteCursor) : UInt64 :=
  if cursor.ok then span.size - cursor.pos else 0

/-- A read, or nothing when it leaves the span. -/
abbrev Read (A : Type) := StateT ByteCursor Option A

/-- `U8`. -/
def u8 (span : ByteSpan) : Read UInt8 := fun cursor =>
  if cursor.pos + 1 > span.size then some (0, { cursor with ok := false })
  else (span.bytes[cursor.pos.toNat]?).map fun byte => (byte, { cursor with pos := cursor.pos + 1 })

/-- The shift-and-or loop. -/
def word (span : ByteSpan) : Nat -> Read Nat
  | 0 => pure 0
  | width + 1 => do
      let low ← u8 span
      let high ← word span width
      pure (low.toNat + 256 * high)

def u16 (span : ByteSpan) : Read UInt16 := do pure (UInt16.ofNat (← word span 2))

def u32 (span : ByteSpan) : Read UInt32 := do pure (UInt32.ofNat (← word span 4))

def u64 (span : ByteSpan) : Read UInt64 := do pure (UInt64.ofNat (← word span 8))

def i16 (span : ByteSpan) : Read Int16 := do pure (← u16 span).toInt16

def i32 (span : ByteSpan) : Read Int32 := do pure (← u32 span).toInt32

/-- `F32`, as the bit pattern. -/
def f32 (span : ByteSpan) : Read F32 := u32 span

/-- `F64`, as the bit pattern. -/
def f64 (span : ByteSpan) : Read F64 := u64 span

/-- The `memcpy` of so many bytes from the cursor, which then moves past them. -/
def copy (span : ByteSpan) (count : UInt64) : Read (List UInt8) := fun cursor =>
  if cursor.pos.toNat + count.toNat ≤ span.bytes.length then
    some ((span.bytes.drop cursor.pos.toNat).take count.toNat, { cursor with pos := cursor.pos + count })
  else none

/-- A copy of so many bytes, or nothing when the check finds fewer ahead. -/
def bulk (span : ByteSpan) (count : UInt64) : Read (List UInt8) := fun cursor =>
  if cursor.pos + count > span.size then some ([], { cursor with ok := false })
  else copy span count cursor

/-- `Bytes`: what is written at the destination. -/
def bytes (span : ByteSpan) (n : UInt64) : Read (List UInt8) := bulk span n

/-- `I16Span`: what is written at the destination. -/
def i16Span (span : ByteSpan) (n : UInt64) : Read (List Int16) := do
  let copied ← bulk span (n * 2)
  pure ((ByteReader.fields 2 (copied.length / 2) copied).map fun value => (UInt16.ofNat value).toInt16)

/-- `I32Span`: what is written at the destination. -/
def i32Span (span : ByteSpan) (n : UInt64) : Read (List Int32) := do
  let copied ← bulk span (n * 4)
  pure ((ByteReader.fields 4 (copied.length / 4) copied).map fun value => (UInt32.ofNat value).toInt32)

/-- The characters of a string, once its length has been read. -/
def characters (span : ByteSpan) (len : UInt32) : Read Text := fun cursor =>
  if cursor.ok = false ∨ len.toUInt64 > cursor.remaining span then some ([], { cursor with ok := false })
  else copy span len.toUInt64 cursor

/-- `Str`. -/
def str (span : ByteSpan) : Read Text := do
  let len ← u32 span
  characters span len

end ByteCursor

/-- A read of the class. -/
inductive ByteRead where
  | u8 | u16 | u32 | u64 | i16 | i32 | f32 | f64 | str
  | bytes (n : UInt64)
  | i16Span (n : UInt64)
  | i32Span (n : UInt64)
deriving DecidableEq

/-- What a read returns, or writes at its destination. -/
inductive ByteField where
  | u8 (value : UInt8)
  | u16 (value : UInt16)
  | u32 (value : UInt32)
  | u64 (value : UInt64)
  | i16 (value : Int16)
  | i32 (value : Int32)
  | f32 (value : F32)
  | f64 (value : F64)
  | str (value : Text)
  | bytes (written : List UInt8)
  | i16Span (written : List Int16)
  | i32Span (written : List Int32)
deriving DecidableEq

namespace ByteField

/-- Zero, the empty string, or a destination left alone. -/
def Silent : ByteField -> Prop
  | .u8 value => value = 0
  | .u16 value => value = 0
  | .u32 value => value = 0
  | .u64 value => value = 0
  | .i16 value => value = 0
  | .i32 value => value = 0
  | .f32 value => value = 0
  | .f64 value => value = 0
  | .str value => value = []
  | .bytes written => written = []
  | .i16Span written => written = []
  | .i32Span written => written = []

/-- The bytes of a field, as `ByteWriter` writes them. -/
def encode : ByteField -> List UInt8
  | .u8 value => ByteWriter.u8 value
  | .u16 value => ByteWriter.u16 value
  | .u32 value => ByteWriter.u32 value
  | .u64 value => ByteWriter.u64 value
  | .i16 value => ByteWriter.i16 value
  | .i32 value => ByteWriter.i32 value
  | .f32 value => ByteWriter.u32 value
  | .f64 value => ByteWriter.u64 value
  | .str value => ByteWriter.u32 (UInt32.ofNat value.length) ++ value
  | .bytes written => written
  | .i16Span written => written.flatMap ByteWriter.i16
  | .i32Span written => written.flatMap ByteWriter.i32

/-- What a read asks for: a field of its kind, with as many elements. -/
def Answers : ByteRead -> ByteField -> Prop
  | .u8, .u8 _ => True
  | .u16, .u16 _ => True
  | .u32, .u32 _ => True
  | .u64, .u64 _ => True
  | .i16, .i16 _ => True
  | .i32, .i32 _ => True
  | .f32, .f32 _ => True
  | .f64, .f64 _ => True
  | .str, .str value => value.length < 2 ^ 32
  | .bytes n, .bytes written => written.length = n.toNat
  | .i16Span n, .i16Span written => written.length = n.toNat
  | .i32Span n, .i32Span written => written.length = n.toNat
  | _, _ => False

/-- The writes of a field, unless its length does not fit. -/
def write : ByteField -> Option (List UInt8)
  | .str value => ByteWriter.str value
  | field => some field.encode

/-- The writes of a sequence of fields, while the writer's flag stays set. -/
def writeAll : List ByteField -> Option (List UInt8)
  | [] => some []
  | field :: rest => do
      let first ← field.write
      let others ← writeAll rest
      pure (first ++ others)

/-- The read that matches a write. -/
def matchingRead : ByteField -> ByteRead
  | .u8 _ => .u8
  | .u16 _ => .u16
  | .u32 _ => .u32
  | .u64 _ => .u64
  | .i16 _ => .i16
  | .i32 _ => .i32
  | .f32 _ => .f32
  | .f64 _ => .f64
  | .str _ => .str
  | .bytes written => .bytes (UInt64.ofNat written.length)
  | .i16Span written => .i16Span (UInt64.ofNat written.length)
  | .i32Span written => .i32Span (UInt64.ofNat written.length)

end ByteField

namespace ByteCursor

/-! ### What each part does -/

variable {span : ByteSpan} {cursor before after : ByteCursor}

/-- Where a read of so many single bytes leaves the reader. -/
def skip (span : ByteSpan) (width : Nat) (cursor : ByteCursor) : ByteCursor where
  pos := cursor.pos + UInt64.ofNat (min width (span.bytes.length - cursor.pos.toNat))
  ok := cursor.ok && decide (cursor.pos.toNat + width ≤ span.bytes.length)

theorem toNat_pos_skip (within : cursor.pos.toNat ≤ span.bytes.length) (width : Nat) :
    (skip span width cursor).pos.toNat =
      cursor.pos.toNat + min width (span.bytes.length - cursor.pos.toNat) := by
  have bound := span.bounded
  rw [skip, UInt64.toNat_add, UInt64.toNat_ofNat']
  omega

theorem ok_skip {width : Nat} : (skip span width cursor).ok = true ↔
    cursor.ok = true ∧ cursor.pos.toNat + width ≤ span.bytes.length := by
  rw [skip, Bool.and_eq_true, decide_eq_true_iff]

theorem u8_of_lt (more : cursor.pos.toNat < span.bytes.length) :
    u8 span cursor = some (span.bytes[cursor.pos.toNat], { cursor with pos := cursor.pos + 1 }) := by
  have bound := span.bounded
  have fits : ¬ cursor.pos + 1 > span.size := by
    rw [gt_iff_lt, UInt64.lt_iff_toNat_lt, ByteSpan.toNat_size, UInt64.toNat_add]
    have one : (1 : UInt64).toNat = 1 := rfl
    omega
  rw [u8, if_neg fits, List.getElem?_eq_getElem more, Option.map_some]

theorem u8_of_eq (done : cursor.pos.toNat = span.bytes.length) :
    u8 span cursor = some (0, { cursor with ok := false }) := by
  have bound := span.bounded
  have past : cursor.pos + 1 > span.size := by
    rw [gt_iff_lt, UInt64.lt_iff_toNat_lt, ByteSpan.toNat_size, UInt64.toNat_add]
    have one : (1 : UInt64).toNat = 1 := rfl
    omega
  rw [u8, if_pos past]

theorem bind_of_some {A B : Type} {read : Read A} {next : A -> Read B} {value : A}
    (ran : read before = some (value, after)) : (read >>= next) before = next value after := by
  show (read before).bind _ = _
  rw [ran]
  rfl

/-- Whatever the flag, the bytes ahead are read, and zeros past the end. -/
theorem word_eq (within : cursor.pos.toNat ≤ span.bytes.length) (width : Nat) :
    word span width cursor =
      some (leNat ((span.bytes.drop cursor.pos.toNat).take width), skip span width cursor) := by
  have bound := span.bounded
  induction width generalizing cursor with
  | zero =>
      have unmoved : skip span 0 cursor = cursor := by
        ext
        · exact congrArg UInt64.toNat (by rw [skip, Nat.zero_min]; exact UInt64.add_zero _)
        · rw [skip, decide_eq_true (by omega), Bool.and_true]
      rw [unmoved]
      rfl
  | succ width inductionHypothesis =>
      rw [word]
      rcases Nat.lt_or_eq_of_le within with more | done
      · have one : (cursor.pos + 1).toNat = cursor.pos.toNat + 1 := by
          rw [UInt64.toNat_add]
          have one : (1 : UInt64).toNat = 1 := rfl
          omega
        have next : ({ cursor with pos := cursor.pos + 1 } : ByteCursor).pos.toNat ≤ span.bytes.length :=
          one ▸ more
        have moved : skip span width { cursor with pos := cursor.pos + 1 } = skip span (width + 1) cursor := by
          ext
          · apply congrArg UInt64.toNat
            apply UInt64.toNat_inj.mp
            rw [toNat_pos_skip next, toNat_pos_skip within, one]
            omega
          · simp only [skip, one, Nat.add_assoc, Nat.add_comm 1]
        rw [bind_of_some (u8_of_lt more), bind_of_some (inductionHypothesis next), moved, one,
          List.drop_eq_getElem_cons more, List.take_succ_cons]
        rfl
      · have failed : ({ cursor with ok := false } : ByteCursor).pos.toNat ≤ span.bytes.length := within
        have moved : skip span width { cursor with ok := false } = skip span (width + 1) cursor := by
          ext
          · apply congrArg UInt64.toNat
            apply UInt64.toNat_inj.mp
            rw [toNat_pos_skip failed, toNat_pos_skip within]
            dsimp only
            omega
          · have short : ¬ cursor.pos.toNat + (width + 1) ≤ span.bytes.length := by omega
            simp only [skip, Bool.false_and, decide_eq_false short, Bool.and_false]
        rw [bind_of_some (u8_of_eq done), bind_of_some (inductionHypothesis failed), moved, done,
          List.drop_length, List.take_nil, List.take_nil]
        rfl

/-- One read. -/
def step (span : ByteSpan) : ByteRead -> Read ByteField
  | .u8 => do pure (.u8 (← u8 span))
  | .u16 => do pure (.u16 (← u16 span))
  | .u32 => do pure (.u32 (← u32 span))
  | .u64 => do pure (.u64 (← u64 span))
  | .i16 => do pure (.i16 (← i16 span))
  | .i32 => do pure (.i32 (← i32 span))
  | .f32 => do pure (.f32 (← f32 span))
  | .f64 => do pure (.f64 (← f64 span))
  | .str => do pure (.str (← str span))
  | .bytes n => do pure (.bytes (← bytes span n))
  | .i16Span n => do pure (.i16Span (← i16Span span n))
  | .i32Span n => do pure (.i32Span (← i32Span span n))

/-- A sequence of reads. -/
def run (span : ByteSpan) : List ByteRead -> Read (List ByteField)
  | [] => pure []
  | read :: rest => do
      let first ← step span read
      let others ← run span rest
      pure (first :: others)

/-- What the class documents of one read. -/
structure Promised (span : ByteSpan) (before : ByteCursor) (read : ByteRead) (field : ByteField)
    (after : ByteCursor) : Prop where
  within : after.pos.toNat ≤ span.bytes.length
  sticky : before.ok = false -> after.ok = false ∧ field.Silent
  nothingLeft : after.ok = false -> after.remaining span = 0
  decoded : after.ok = true -> before.ok = true ∧ field.Answers read ∧
    span.bytes.drop before.pos.toNat = field.encode ++ span.bytes.drop after.pos.toNat

/-- Every read of a sequence stays within the span and does what is documented. -/
def KeepsPromises (span : ByteSpan) : ByteCursor -> List ByteRead -> Prop
  | _, [] => True
  | before, read :: rest => exists field after, step span read before = some (field, after) ∧
      Promised span before read field after ∧ KeepsPromises span after rest

/-- A scalar read after a failure finds only zeros ahead. -/
def Exhausted (span : ByteSpan) (cursor : ByteCursor) (width : Nat) : Prop :=
  cursor.ok = false -> forall byte, byte ∈ (span.bytes.drop cursor.pos.toNat).take width -> byte = 0

/-- A bulk read is taken only when its elements are ahead, and after a failure
only when it copies nothing. -/
def Counted (span : ByteSpan) (cursor : ByteCursor) (n width : UInt64) : Prop :=
  cursor.pos + n * width ≤ span.size ->
    if cursor.ok then cursor.pos.toNat + n.toNat * width.toNat ≤ span.bytes.length else n * width = 0

/-- The reads that do not meet what a failed or wrapped read leaves behind. -/
def Harmless (span : ByteSpan) (cursor : ByteCursor) : ByteRead -> Prop
  | .u8 => Exhausted span cursor 1
  | .u16 => Exhausted span cursor 2
  | .u32 => Exhausted span cursor 4
  | .u64 => Exhausted span cursor 8
  | .i16 => Exhausted span cursor 2
  | .i32 => Exhausted span cursor 4
  | .f32 => Exhausted span cursor 4
  | .f64 => Exhausted span cursor 8
  | .str => True
  | .bytes n => Counted span cursor n 1
  | .i16Span n => Counted span cursor n 2
  | .i32Span n => Counted span cursor n 4

/-- Each read of a sequence is harmless where it stands. -/
def AllHarmless (span : ByteSpan) : ByteCursor -> List ByteRead -> Prop
  | _, [] => True
  | before, read :: rest => Harmless span before read ∧
      forall field after, step span read before = some (field, after) -> AllHarmless span after rest

end ByteCursor
end BravoFinder
