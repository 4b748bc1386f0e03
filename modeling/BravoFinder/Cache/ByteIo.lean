import BravoFinder.Core.Domain
import BravoFinder.Library.Decoder
import BravoFinder.Library.LittleEndian

namespace BravoFinder

/-!
# Little-endian fields and the string pool

Fields are written least significant byte first.  Floating-point fields are
written as their bit patterns, so a `double` is kept as 64 bits and a `float`
as 32.  Strings live in one pool, which holds each distinct string once; a
record stores where its string lies in the pool.
-/

/-- The bit pattern of a `double`. -/
abbrev F64 := UInt64

/-- The bit pattern of a `float`. -/
abbrev F32 := UInt32

/-- A number that is not negative is the same unsigned. -/
theorem toNat_toUInt32_of_nonneg {value : Int32} (nonneg : 0 ≤ value.toInt) :
    (value.toUInt32.toNat : Int) = value.toInt := by
  have signed : value.toInt = value.toBitVec.toInt := rfl
  have unsigned : value.toUInt32.toNat = value.toBitVec.toNat := rfl
  rw [BitVec.toInt_eq_toNat_cond] at signed
  split at signed <;> omega

namespace ByteWriter

def u8 (value : UInt8) : List UInt8 := [value]

def u16 (value : UInt16) : List UInt8 := leBytes 2 value.toNat

def u32 (value : UInt32) : List UInt8 := leBytes 4 value.toNat

def u64 (value : UInt64) : List UInt8 := leBytes 8 value.toNat

def i16 (value : Int16) : List UInt8 := u16 value.toUInt16

def i32 (value : Int32) : List UInt8 := u32 value.toUInt32

/-- `Str`, which refuses a string too long for its length field. -/
def str (value : Text) : Option (List UInt8) :=
  if value.length ≤ 0xFFFFFFFF then some (u32 (UInt32.ofNat value.length) ++ value) else none

@[simp] theorem length_u8 (value : UInt8) : (u8 value).length = 1 := rfl
@[simp] theorem length_u16 (value : UInt16) : (u16 value).length = 2 := length_leBytes 2 _
@[simp] theorem length_u32 (value : UInt32) : (u32 value).length = 4 := length_leBytes 4 _
@[simp] theorem length_u64 (value : UInt64) : (u64 value).length = 8 := length_leBytes 8 _
@[simp] theorem length_i16 (value : Int16) : (i16 value).length = 2 := length_leBytes 2 _
@[simp] theorem length_i32 (value : Int32) : (i32 value).length = 4 := length_leBytes 4 _

/-- Four bytes are the number they stand for. -/
theorem u32_leNat {bytes : List UInt8} (length : bytes.length = 4) :
    u32 (UInt32.ofNat (leNat bytes)) = bytes := by
  have wide : (2 : Nat) ^ 32 = 256 ^ bytes.length := by rw [length]; rfl
  rw [u32, UInt32.toNat_ofNat', wide, ← length, leBytes_mod, leBytes_leNat]

theorem u64_leNat {bytes : List UInt8} (length : bytes.length = 8) :
    u64 (UInt64.ofNat (leNat bytes)) = bytes := by
  have wide : (2 : Nat) ^ 64 = 256 ^ bytes.length := by rw [length]; rfl
  rw [u64, UInt64.toNat_ofNat', wide, ← length, leBytes_mod, leBytes_leNat]

end ByteWriter

namespace ByteReader

open Decoder

variable {E : Type}

/-- The shift-and-or loop of the reader. -/
def word : Nat -> Decoder E Nat
  | 0 => pure 0
  | width + 1 => do
      let low ← byte
      let high ← word width
      pure (low.toNat + 256 * high)

def u8 : Decoder E UInt8 := byte

def u16 : Decoder E UInt16 := do
  let value ← word 2
  pure (UInt16.ofNat value)

def u32 : Decoder E UInt32 := do
  let value ← word 4
  pure (UInt32.ofNat value)

def u64 : Decoder E UInt64 := do
  let value ← word 8
  pure (UInt64.ofNat value)

def i16 : Decoder E Int16 := do
  let value ← u16
  pure value.toInt16

def i32 : Decoder E Int32 := do
  let value ← u32
  pure value.toInt32

/-- The characters of a string: nothing once a read has failed, or when fewer
are left. -/
def characters (len : UInt32) : Decoder E Text := fun reading =>
  if reading.ok = true ∧ len.toNat ≤ reading.rest.length then
    (.ok (reading.rest.take len.toNat), { reading with rest := reading.rest.drop len.toNat })
  else (.ok [], { reading with ok := false })

/-- `Str`. -/
def str : Decoder E Text := do
  let len ← u32
  characters len

/-- The numbers in a run of fields. -/
def fields (width : Nat) : Nat -> List UInt8 -> List Nat
  | 0, _ => []
  | count + 1, bytes => leNat (bytes.take width) :: fields width count (bytes.drop width)

/-- `I16Span`: the whole run at once, or zeros when it is cut short. -/
def i16Span (count : Nat) : Decoder E (List Int16) := do
  let bytes ← take (count * 2)
  pure (match bytes with
    | none => List.replicate count 0
    | some bytes => (fields 2 count bytes).map fun value => (UInt16.ofNat value).toInt16)

/-- `I32Span`. -/
def i32Span (count : Nat) : Decoder E (List Int32) := do
  let bytes ← take (count * 4)
  pure (match bytes with
    | none => List.replicate count 0
    | some bytes => (fields 4 count bytes).map fun value => (UInt32.ofNat value).toInt32)

/-! ### Reading back -/

theorem reads_word (bytes : List UInt8) : Reads (E := E) (word bytes.length) bytes (leNat bytes) := by
  induction bytes with
  | nil => exact Reads.pure 0
  | cons first rest inductionHypothesis =>
      exact (Reads.byte first).bind (inductionHypothesis.map fun high => first.toNat + 256 * high)

theorem reads_leBytes (width : Nat) {value : Nat} (fits : value < 256 ^ width) :
    Reads (E := E) (word width) (leBytes width value) value := by
  have read := reads_word (E := E) (leBytes width value)
  rw [length_leBytes, leNat_leBytes_of_lt fits] at read
  exact read

theorem reads_u8 (value : UInt8) : Reads (E := E) u8 (ByteWriter.u8 value) value :=
  Reads.byte value

theorem reads_u16 (value : UInt16) : Reads (E := E) u16 (ByteWriter.u16 value) value := by
  have read := (reads_leBytes (E := E) 2 value.toNat_lt).map UInt16.ofNat
  rw [UInt16.ofNat_toNat] at read
  exact read

theorem reads_u32 (value : UInt32) : Reads (E := E) u32 (ByteWriter.u32 value) value := by
  have read := (reads_leBytes (E := E) 4 value.toNat_lt).map UInt32.ofNat
  rw [UInt32.ofNat_toNat] at read
  exact read

theorem reads_u64 (value : UInt64) : Reads (E := E) u64 (ByteWriter.u64 value) value := by
  have read := (reads_leBytes (E := E) 8 value.toNat_lt).map UInt64.ofNat
  rw [UInt64.ofNat_toNat] at read
  exact read

theorem reads_i16 (value : Int16) : Reads (E := E) i16 (ByteWriter.i16 value) value :=
  (reads_u16 value.toUInt16).map UInt16.toInt16

theorem reads_i32 (value : Int32) : Reads (E := E) i32 (ByteWriter.i32 value) value :=
  (reads_u32 value.toUInt32).map UInt32.toInt32

theorem fields_append (width count : Nat) (value : Nat) (rest : List UInt8) :
    fields width (count + 1) (leBytes width value ++ rest) =
      value % 256 ^ width :: fields width count rest := by
  have length : (leBytes width value).length = width := length_leBytes width value
  rw [fields, List.take_left' length, List.drop_left' length, leNat_leBytes]

theorem map_fields_i16 (values : List Int16) :
    (fields 2 values.length (values.flatMap ByteWriter.i16)).map
      (fun value => (UInt16.ofNat value).toInt16) = values := by
  induction values with
  | nil => rfl
  | cons value rest inductionHypothesis =>
      have fits : value.toUInt16.toNat < 256 ^ 2 := value.toUInt16.toNat_lt
      rw [List.length_cons, List.flatMap_cons, ByteWriter.i16, ByteWriter.u16, fields_append,
        Nat.mod_eq_of_lt fits, List.map_cons, inductionHypothesis, UInt16.ofNat_toNat]
      rfl

theorem reads_i16Span (values : List Int16) :
    Reads (E := E) (i16Span values.length) (values.flatMap ByteWriter.i16) values := by
  have length := length_flatMap_of_eq values fun value _ => ByteWriter.length_i16 value
  have read := (Reads.take (E := E) (values.flatMap ByteWriter.i16)).map fun bytes => match bytes with
    | none => List.replicate values.length 0
    | some bytes => (fields 2 values.length bytes).map fun value => (UInt16.ofNat value).toInt16
  simp only [map_fields_i16, length] at read
  exact read

theorem map_fields_i32 (values : List Int32) :
    (fields 4 values.length (values.flatMap ByteWriter.i32)).map
      (fun value => (UInt32.ofNat value).toInt32) = values := by
  induction values with
  | nil => rfl
  | cons value rest inductionHypothesis =>
      have fits : value.toUInt32.toNat < 256 ^ 4 := value.toUInt32.toNat_lt
      rw [List.length_cons, List.flatMap_cons, ByteWriter.i32, ByteWriter.u32, fields_append,
        Nat.mod_eq_of_lt fits, List.map_cons, inductionHypothesis, UInt32.ofNat_toNat]
      rfl

theorem reads_i32Span (values : List Int32) :
    Reads (E := E) (i32Span values.length) (values.flatMap ByteWriter.i32) values := by
  have length := length_flatMap_of_eq values fun value _ => ByteWriter.length_i32 value
  have read := (Reads.take (E := E) (values.flatMap ByteWriter.i32)).map fun bytes => match bytes with
    | none => List.replicate values.length 0
    | some bytes => (fields 4 values.length bytes).map fun value => (UInt32.ofNat value).toInt32
  simp only [map_fields_i32, length] at read
  exact read

theorem reads_str {s : Text} (short : s.length < 2 ^ 32) :
    Reads (E := E) str (ByteWriter.u32 (UInt32.ofNat s.length) ++ s) s := by
  have length : (UInt32.ofNat s.length).toNat = s.length := UInt32.toNat_ofNat_of_lt short
  apply (reads_u32 (UInt32.ofNat s.length)).bind
  intro tail allocated
  refine ⟨allocated, ?_⟩
  have within : (UInt32.ofNat s.length).toNat ≤ (s ++ tail).length := by
    rw [length, List.length_append]
    exact Nat.le_add_right _ _
  rw [characters, if_pos ⟨rfl, within⟩, length, List.take_left, List.drop_left]

/-! ### Reading nothing else -/

theorem consumes_word (width : Nat) : Consumes (E := E) (word width) (leBytes width) := by
  induction width with
  | zero => exact Consumes.pure 0 rfl
  | succ width inductionHypothesis =>
      intro reading value after ran ok
      rcases Consumes.byte.step ran with ⟨low, afterLow, ran, backLow⟩
      rcases inductionHypothesis.step ran with ⟨high, afterHigh, finished, backHigh⟩
      cases finished
      rcases backHigh ok with ⟨lowOk, later⟩
      rcases backLow lowOk with ⟨readingOk, earlier⟩
      have bound := low.toNat_lt
      have lowByte : UInt8.ofNat (low.toNat + 256 * high) = low := by
        apply UInt8.toNat_inj.mp
        rw [UInt8.toNat_ofNat']
        omega
      have highBytes : (low.toNat + 256 * high) / 256 = high := by omega
      refine ⟨readingOk, ?_⟩
      rw [earlier, later, leBytes, lowByte, highBytes]
      rfl

theorem consumes_u8 : Consumes (E := E) u8 ByteWriter.u8 := Consumes.byte

theorem consumes_u32 : Consumes (E := E) u32 ByteWriter.u32 := by
  apply (consumes_word 4).map
  intro value
  rw [ByteWriter.u32, UInt32.toNat_ofNat']
  exact leBytes_mod 4 value

theorem consumes_u64 : Consumes (E := E) u64 ByteWriter.u64 := by
  apply (consumes_word 8).map
  intro value
  rw [ByteWriter.u64, UInt64.toNat_ofNat']
  exact leBytes_mod 8 value

theorem consumes_str : Consumes (E := E) str fun s => ByteWriter.u32 (UInt32.ofNat s.length) ++ s := by
  intro reading s after ran ok
  rcases consumes_u32.step ran with ⟨len, between, finished, back⟩
  unfold characters at finished
  split at finished
  · rename_i within
    cases finished
    rcases back ok with ⟨readingOk, earlier⟩
    have length : (between.rest.take len.toNat).length = len.toNat := List.length_take_of_le within.2
    refine ⟨readingOk, ?_⟩
    simp only [length, UInt32.ofNat_toNat, earlier, List.append_assoc, List.take_append_drop]
  · cases finished
    cases ok

theorem length_str : Ensures (E := E) str fun s => s.length < 2 ^ 32 := by
  apply Ensures.after
  intro len reading s after ran
  unfold characters at ran
  split at ran
  · cases ran
    exact Nat.lt_of_le_of_lt (List.length_take_le _ _) len.toNat_lt
  · cases ran
    exact Nat.two_pow_pos 32

/-! ### Failing on anything else -/

theorem exact_word (width : Nat) : Exact (E := E) (word width) := by
  induction width with
  | zero => exact Exact.pure 0
  | succ width inductionHypothesis =>
      exact Exact.byte.bind fun _ => inductionHypothesis.bind fun _ => Exact.pure _

theorem exact_u8 : Exact (E := E) u8 := Exact.byte
theorem exact_u16 : Exact (E := E) u16 := (exact_word 2).bind fun _ => Exact.pure _
theorem exact_u32 : Exact (E := E) u32 := (exact_word 4).bind fun _ => Exact.pure _
theorem exact_u64 : Exact (E := E) u64 := (exact_word 8).bind fun _ => Exact.pure _
theorem exact_i16 : Exact (E := E) i16 := exact_u16.bind fun _ => Exact.pure _
theorem exact_i32 : Exact (E := E) i32 := exact_u32.bind fun _ => Exact.pure _

theorem exact_i16Span (count : Nat) : Exact (E := E) (i16Span count) :=
  (Exact.take _).bind fun _ => Exact.pure _

theorem exact_i32Span (count : Nat) : Exact (E := E) (i32Span count) :=
  (Exact.take _).bind fun _ => Exact.pure _

theorem length_fields (width count : Nat) (bytes : List UInt8) : (fields width count bytes).length = count := by
  induction count generalizing bytes with
  | zero => rfl
  | succ count inductionHypothesis => rw [fields, List.length_cons, inductionHypothesis]

/-- Fields that are written back as their bytes give the run back. -/
theorem flatMap_fields {width : Nat} {written : Nat -> List UInt8} {count : Nat} {bytes : List UInt8}
    (whole : bytes.length = count * width) (same : forall value, written value = leBytes width value) :
    (fields width count bytes).flatMap written = bytes := by
  induction count generalizing bytes with
  | zero => exact (List.length_eq_zero_iff.mp (by rw [whole, Nat.zero_mul])).symm
  | succ count inductionHypothesis =>
      rw [Nat.succ_mul] at whole
      have first : (bytes.take width).length = width := List.length_take_of_le (by omega)
      have others : (bytes.drop width).length = count * width := by
        rw [List.length_drop]
        omega
      have back := leBytes_leNat (bytes.take width)
      rw [first] at back
      rw [fields, List.flatMap_cons, inductionHypothesis others, same, back, List.take_append_drop]

theorem length_i32Span (count : Nat) :
    Ensures (E := E) (i32Span count) fun values => values.length = count := by
  refine Ensures.after fun bytes => Ensures.pure ?_
  cases bytes with
  | none => exact List.length_replicate
  | some bytes => rw [List.length_map, length_fields]

/-! ### Allocating nothing -/

variable {limit : Nat}

theorem within_word (width : Nat) : Within (E := E) limit (word width) := by
  induction width with
  | zero => exact Within.pure 0
  | succ width inductionHypothesis =>
      exact Within.byte.bind fun _ => inductionHypothesis.bind fun _ => Within.pure _

theorem within_u8 : Within (E := E) limit u8 := Within.byte
theorem within_u16 : Within (E := E) limit u16 := (within_word 2).bind fun _ => Within.pure _
theorem within_u32 : Within (E := E) limit u32 := (within_word 4).bind fun _ => Within.pure _
theorem within_u64 : Within (E := E) limit u64 := (within_word 8).bind fun _ => Within.pure _
theorem within_i16 : Within (E := E) limit i16 := within_u16.bind fun _ => Within.pure _
theorem within_i32 : Within (E := E) limit i32 := within_u32.bind fun _ => Within.pure _

theorem within_i16Span (count : Nat) : Within (E := E) limit (i16Span count) :=
  (Within.take _).bind fun _ => Within.pure _

theorem within_i32Span (count : Nat) : Within (E := E) limit (i32Span count) :=
  (Within.take _).bind fun _ => Within.pure _

end ByteReader
end BravoFinder
