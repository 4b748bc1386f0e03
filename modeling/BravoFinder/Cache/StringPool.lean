import BravoFinder.Cache.ByteIo

namespace BravoFinder

/-!
# The string pool and encoders

An encoder writes bytes and adds the strings it meets to the pool.  `Encodes`
relates it to a decoder: whatever the encoder writes, the decoder reads, with
every pool that extends the one the encoder left.
-/

/-- Where a string lies in the pool. -/
structure StringRef where
  offset : UInt32
  length : UInt32
deriving DecidableEq

/-- `ResolveRef`: the string a reference points at, unless it is out of range. -/
def resolveRef (pool : Text) (ref : StringRef) : Option Text :=
  if pool.length < ref.offset.toNat ∨ pool.length - ref.offset.toNat < ref.length.toNat then none
  else some ((pool.drop ref.offset.toNat).take ref.length.toNat)

/-- The pool under construction: its bytes, and where each string went. -/
structure StringPool where
  blob : Text
  interned : List (Text × StringRef)

namespace StringPool

def empty : StringPool := ⟨[], []⟩

/-- `Add`: a string that is there already keeps its place. -/
def add (pool : StringPool) (s : Text) : StringRef × StringPool :=
  match pool.interned.lookup s with
  | some ref => (ref, pool)
  | none =>
      let ref : StringRef := ⟨UInt32.ofNat pool.blob.length, UInt32.ofNat s.length⟩
      (ref, ⟨pool.blob ++ s, (s, ref) :: pool.interned⟩)

/-- While 32 bits address it, the pool resolves every reference it gave out. -/
def Sound (pool : StringPool) : Prop :=
  pool.blob.length < 2 ^ 32 -> forall s ref, pool.interned.lookup s = some ref ->
    resolveRef pool.blob ref = some s

theorem sound_empty : empty.Sound := by
  intro _ s ref found
  cases found

end StringPool

theorem resolveRef_append {pool : Text} {ref : StringRef} {s : Text} (more : Text)
    (resolved : resolveRef pool ref = some s) : resolveRef (pool ++ more) ref = some s := by
  unfold resolveRef at resolved ⊢
  split at resolved
  · cases resolved
  rename_i inRange
  rw [not_or, not_lt, not_lt] at inRange
  cases resolved
  rw [if_neg (by rw [List.length_append]; omega), List.drop_append_of_le_length inRange.1,
    List.take_append_of_le_length (by rw [List.length_drop]; omega)]

namespace StringPool

theorem add_spec {pool pool' : StringPool} {s : Text} {ref : StringRef} (sound : pool.Sound)
    (added : pool.add s = (ref, pool')) : pool'.Sound ∧ pool.blob <+: pool'.blob ∧
      (pool'.blob.length < 2 ^ 32 -> resolveRef pool'.blob ref = some s) := by
  unfold add at added
  split at added
  · rename_i old found
    cases added
    exact ⟨sound, List.prefix_rfl, fun small => sound small s _ found⟩
  · cases added
    have resolves : (pool.blob ++ s).length < 2 ^ 32 ->
        resolveRef (pool.blob ++ s) ⟨UInt32.ofNat pool.blob.length, UInt32.ofNat s.length⟩ = some s := by
      intro small
      rw [List.length_append] at small
      have before : pool.blob.length < 2 ^ 32 := by omega
      have short : s.length < 2 ^ 32 := by omega
      have offset : (UInt32.ofNat pool.blob.length).toNat = pool.blob.length :=
        UInt32.toNat_ofNat_of_lt before
      have length : (UInt32.ofNat s.length).toNat = s.length := UInt32.toNat_ofNat_of_lt short
      unfold resolveRef
      simp only [offset, length]
      rw [if_neg (by rw [List.length_append]; omega), List.drop_left, List.take_length]
    refine ⟨fun small other ref found => ?_, List.prefix_append _ _, resolves⟩
    rw [List.lookup_cons] at found
    split at found
    · rename_i same
      cases found
      rw [eq_of_beq same]
      exact resolves small
    · have before : pool.blob.length < 2 ^ 32 := by
        rw [List.length_append] at small
        omega
      exact resolveRef_append s (sound before other ref found)

end StringPool

/-! ## Encoders -/

/-- A step of an encoder: it may fail, and otherwise appends bytes and may add
to the pool. -/
def Encoder (E : Type) : Type :=
  StringPool -> Except E (List UInt8 × StringPool)

namespace Encoder

variable {E : Type}

/-- Append nothing. -/
def done : Encoder E := fun pool => .ok ([], pool)

/-- One step after the other. -/
def append (first second : Encoder E) : Encoder E := fun pool =>
  match first pool with
  | .error error => .error error
  | .ok (front, between) =>
      match second between with
      | .error error => .error error
      | .ok (back, after) => .ok (front ++ back, after)

instance : Append (Encoder E) where
  append := append

/-- Append bytes. -/
def write (bytes : List UInt8) : Encoder E := fun pool => .ok (bytes, pool)

/-- Fail unless a condition holds. -/
def check (condition : Bool) (error : E) : Encoder E := fun pool =>
  if condition then .ok ([], pool) else .error error

/-- Add a string to the pool and append its reference. -/
def ref (s : Text) : Encoder E := fun pool =>
  .ok (ByteWriter.u32 (pool.add s).1.offset ++ ByteWriter.u32 (pool.add s).1.length, (pool.add s).2)

/-- Steps in order. -/
def steps : List (Encoder E) -> Encoder E
  | [] => done
  | first :: rest => first ++ steps rest

/-- The same step for each value. -/
def each {X : Type} (step : X -> Encoder E) : List X -> Encoder E
  | [] => done
  | x :: rest => step x ++ each step rest

theorem append_eq_ok {first second : Encoder E} {pool after : StringPool} {bytes : List UInt8}
    (ran : (first ++ second) pool = .ok (bytes, after)) :
    exists front between back, first pool = .ok (front, between) ∧ second between = .ok (back, after) ∧
      bytes = front ++ back := by
  change append first second pool = _ at ran
  unfold append at ran
  split at ran
  · cases ran
  rename_i front between started
  split at ran
  · cases ran
  rename_i back final finished
  cases ran
  exact ⟨front, between, back, started, finished, rfl⟩

theorem append_of_ok {first second : Encoder E} {pool between after : StringPool} {front back : List UInt8}
    (started : first pool = .ok (front, between)) (finished : second between = .ok (back, after)) :
    (first ++ second) pool = .ok (front ++ back, after) := by
  change append first second pool = _
  rw [append]
  simp only [started, finished]

/-- Steps that leave the pool alone. -/
theorem each_write {X : Type} (record : X -> List UInt8) (values : List X) (pool : StringPool) :
    each (E := E) (fun x => write (record x)) values pool = .ok (values.flatMap record, pool) := by
  induction values with
  | nil => rfl
  | cons x rest inductionHypothesis => exact append_of_ok rfl inductionHypothesis

/-! ## What an encoder writes is read -/

open Decoder

/-- Whatever the encoder writes, the decoder reads as one value that satisfies
`good`, with every pool that extends the one the encoder left. -/
def Encodes {A D : Type} (encoder : Encoder E) (decoder : Text -> Decoder D A)
    (good : Text -> A -> Prop) : Prop :=
  forall pool bytes pool', encoder pool = .ok (bytes, pool') -> pool.Sound ->
    pool'.Sound ∧ pool.blob <+: pool'.blob ∧ (pool'.blob.length < 2 ^ 32 ->
      exists value, forall blob, pool'.blob <+: blob -> Reads (decoder blob) bytes value ∧ good blob value)

/-- Everything the encoder writes is so long. -/
def Emits (encoder : Encoder E) (size : Nat) : Prop :=
  forall pool bytes pool', encoder pool = .ok (bytes, pool') -> bytes.length = size

/-- The reference of a record. -/
def stringRef {D : Type} : Decoder D StringRef := do
  let offset ← ByteReader.u32
  let length ← ByteReader.u32
  pure ⟨offset, length⟩

/-- The string at a reference, which is empty when it is out of range. -/
def resolve {D : Type} (pool : Text) (ref : StringRef) : Decoder D Text :=
  match resolveRef pool ref with
  | none => do
      dangling
      pure []
  | some s => pure s

/-- A reference read and resolved at once. -/
def text {D : Type} (pool : Text) : Decoder D Text := do
  let ref ← stringRef
  resolve pool ref

theorem reads_stringRef {D : Type} (ref : StringRef) : Reads (E := D) stringRef
    (ByteWriter.u32 ref.offset ++ ByteWriter.u32 ref.length) ref :=
  (ByteReader.reads_u32 ref.offset).bind ((ByteReader.reads_u32 ref.length).map (StringRef.mk ref.offset))

theorem reads_resolve {D : Type} {pool : Text} {ref : StringRef} {s : Text}
    (resolved : resolveRef pool ref = some s) : Reads (E := D) (resolve pool ref) [] s := by
  unfold resolve
  rw [resolved]
  exact Reads.pure s

theorem reads_text {D : Type} {pool : Text} {ref : StringRef} {s : Text}
    (resolved : resolveRef pool ref = some s) : Reads (E := D) (text pool)
      (ByteWriter.u32 ref.offset ++ ByteWriter.u32 ref.length) s := by
  have both := (reads_stringRef (D := D) ref).bind (reads_resolve resolved)
  rw [List.append_nil] at both
  exact both

namespace Encodes

variable {A B D : Type} {next : Encoder E} {good : Text -> B -> Prop}

theorem done {value : B} (holds : forall blob, good blob value) :
    Encodes (E := E) (D := D) Encoder.done (fun _ => pure value) good := by
  intro pool bytes pool' ran sound
  cases ran
  exact ⟨sound, List.prefix_rfl, fun _ => ⟨value, fun blob _ => ⟨Reads.pure value, holds blob⟩⟩⟩

/-- What follows is written for the value that the first part gives. -/
theorem bindValue {first : Encoder E} {decoder : Text -> Decoder D A} {rest : A -> Text -> Decoder D B} {value : A}
    (starts : Encodes first decoder fun _ result => result = value) (follows : Encodes next (rest value) good) :
    Encodes (first ++ next) (fun blob => decoder blob >>= fun value => rest value blob) good := by
  intro pool bytes pool' ran sound
  rcases append_eq_ok ran with ⟨front, between, back, started, finished, rfl⟩
  rcases starts pool front between started sound with ⟨betweenSound, toBetween, firstReads⟩
  rcases follows between back pool' finished betweenSound with ⟨sound', toEnd, lastReads⟩
  refine ⟨sound', toBetween.trans toEnd, fun small => ?_⟩
  rcases firstReads (Nat.lt_of_le_of_lt toEnd.length_le small) with ⟨found, reads⟩
  cases (reads between.blob List.prefix_rfl).2
  rcases lastReads small with ⟨result, reads'⟩
  exact ⟨result, fun blob extended =>
    ⟨(reads blob (toEnd.trans extended)).1.bind (reads' blob extended).1, (reads' blob extended).2⟩⟩

theorem write {bytes : List UInt8} {decoder : Decoder D A} {value : A} (reads : Reads decoder bytes value) :
    Encodes (E := E) (Encoder.write bytes) (fun _ => decoder) fun _ result => result = value := by
  intro pool written pool' ran sound
  cases ran
  exact ⟨sound, List.prefix_rfl, fun _ => ⟨value, fun _ _ => ⟨reads, rfl⟩⟩⟩

theorem text (s : Text) : Encodes (E := E) (D := D) (Encoder.ref s) Encoder.text fun _ result => result = s := by
  intro pool written pool' ran sound
  cases ran
  rcases StringPool.add_spec sound rfl with ⟨sound', grows, resolves⟩
  refine ⟨sound', grows, fun small => ⟨s, fun blob extended => ⟨?_, rfl⟩⟩⟩
  rcases extended with ⟨more, rfl⟩
  exact reads_text (resolveRef_append more (resolves small))

/-- The decoder converts what it read. -/
theorem map {encoder : Encoder E} {decoder : Text -> Decoder D A} {holds : Text -> A -> Prop}
    (encodes : Encodes encoder decoder holds) (convert : A -> B)
    (implies : forall blob value, holds blob value -> good blob (convert value)) :
    Encodes encoder (fun blob => decoder blob >>= fun value => pure (convert value)) good := by
  intro pool bytes pool' ran sound
  rcases encodes pool bytes pool' ran sound with ⟨sound', grows, small⟩
  refine ⟨sound', grows, fun bound => ?_⟩
  rcases small bound with ⟨value, reads⟩
  exact ⟨convert value, fun blob extended =>
    ⟨(reads blob extended).1.map convert, implies blob value (reads blob extended).2⟩⟩

/-- The decoder does something that reads nothing. -/
theorem silent {decoder : Decoder D A} {value : A} {rest : A -> Text -> Decoder D B}
    (reads : Reads decoder [] value) (follows : Encodes next (rest value) good) :
    Encodes next (fun blob => decoder >>= fun value => rest value blob) good := by
  intro pool bytes pool' ran sound
  rcases follows pool bytes pool' ran sound with ⟨sound', grows, small⟩
  refine ⟨sound', grows, fun bound => ?_⟩
  rcases small bound with ⟨result, lastReads⟩
  exact ⟨result, fun blob extended => ⟨reads.silent (lastReads blob extended).1, (lastReads blob extended).2⟩⟩

/-- The decoder checks that enough bytes lie ahead. -/
theorem fuse {condition : Nat -> Bool} {error : D} {rest : Unit -> Text -> Decoder D B} {size : Nat}
    (monotone : forall fewer more, fewer ≤ more -> condition fewer = true -> condition more = true)
    (emits : Emits next size) (enough : condition size = true) (follows : Encodes next (rest ()) good) :
    Encodes next (fun blob => Decoder.fuse condition error >>= fun value => rest value blob) good := by
  intro pool bytes pool' ran sound
  rcases follows pool bytes pool' ran sound with ⟨sound', grows, small⟩
  refine ⟨sound', grows, fun bound => ?_⟩
  rcases small bound with ⟨result, lastReads⟩
  refine ⟨result, fun blob extended => ⟨.fuse monotone ?_ (lastReads blob extended).1,
    (lastReads blob extended).2⟩⟩
  rw [emits pool bytes pool' ran]
  exact enough

/-- Records one after the other. -/
theorem each {step : A -> Encoder E} {values : List A} {decoder : Text -> Decoder D A}
    (records : forall x, x ∈ values -> Encodes (step x) decoder fun _ result => result = x) :
    Encodes (Encoder.each step values) (fun blob => Decoder.times values.length (decoder blob))
      fun _ results => results = values := by
  induction values with
  | nil => exact done fun _ => rfl
  | cons x rest inductionHypothesis =>
      have others := inductionHypothesis fun other member => records other (List.mem_cons_of_mem _ member)
      exact bindValue (records x List.mem_cons_self) (others.map (List.cons x) fun blob results same => by rw [same])

end Encodes
/-! ## How much an encoder writes -/

namespace Emits

theorem done : Emits (E := E) Encoder.done 0 := by
  intro pool bytes pool' ran
  cases ran
  rfl

theorem write (bytes : List UInt8) : Emits (E := E) (Encoder.write bytes) bytes.length := by
  intro pool written pool' ran
  cases ran
  rfl

theorem ref (s : Text) : Emits (E := E) (Encoder.ref s) 8 := by
  intro pool written pool' ran
  cases ran
  rw [List.length_append, ByteWriter.length_u32, ByteWriter.length_u32]

theorem check (condition : Bool) (error : E) : Emits (Encoder.check condition error) 0 := by
  intro pool bytes pool' ran
  unfold Encoder.check at ran
  split at ran
  · cases ran
    rfl
  · cases ran

theorem append {first second : Encoder E} {front back : Nat} (firstEmits : Emits first front)
    (secondEmits : Emits second back) : Emits (first ++ second) (front + back) := by
  intro pool bytes pool' ran
  rcases append_eq_ok ran with ⟨_, _, _, started, finished, rfl⟩
  rw [List.length_append, firstEmits _ _ _ started, secondEmits _ _ _ finished]

theorem each {X : Type} {step : X -> Encoder E} {size : X -> Nat} (values : List X)
    (records : forall x, x ∈ values -> Emits (step x) (size x)) :
    Emits (Encoder.each step values) (values.map size).sum := by
  induction values with
  | nil => exact done
  | cons x rest inductionHypothesis =>
      rw [List.map_cons, List.sum_cons]
      exact (records x List.mem_cons_self).append
        (inductionHypothesis fun other member => records other (List.mem_cons_of_mem _ member))

end Emits

/-! ## Never refusing -/

/-- The encoder never refuses. -/
def Writes (encoder : Encoder E) : Prop :=
  forall pool, exists bytes after, encoder pool = .ok (bytes, after)

namespace Writes

theorem done : Writes (E := E) Encoder.done := fun pool => ⟨[], pool, rfl⟩

theorem write (bytes : List UInt8) : Writes (E := E) (Encoder.write bytes) := fun pool => ⟨bytes, pool, rfl⟩

theorem ref (s : Text) : Writes (E := E) (Encoder.ref s) := fun pool => ⟨_, (pool.add s).2, rfl⟩

theorem append {first second : Encoder E} (one : Writes first) (two : Writes second) : Writes (first ++ second) := by
  intro pool
  rcases one pool with ⟨front, between, ranFirst⟩
  rcases two between with ⟨back, after, ranSecond⟩
  exact ⟨front ++ back, after, append_of_ok ranFirst ranSecond⟩

theorem steps {encoders : List (Encoder E)} (all : forall encoder, encoder ∈ encoders -> Writes encoder) :
    Writes (Encoder.steps encoders) := by
  induction encoders with
  | nil => exact done
  | cons first rest inductionHypothesis =>
      rw [List.forall_mem_cons] at all
      exact all.1.append (inductionHypothesis all.2)

theorem each {X : Type} {step : X -> Encoder E} (all : forall x, Writes (step x)) (values : List X) :
    Writes (Encoder.each step values) := by
  induction values with
  | nil => exact done
  | cons x rest inductionHypothesis => exact (all x).append inductionHypothesis

end Writes
end Encoder
end BravoFinder
