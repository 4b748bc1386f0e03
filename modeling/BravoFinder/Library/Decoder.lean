import Mathlib.Data.List.Basic

namespace BravoFinder

/-!
# Decoders with sticky flags

A decoder walks over bytes.  Reading past the end gives zeros and clears a flag
that stays cleared, so a run of reads is checked once.  A second flag records a
reference that could not be followed.  The decoder also records the size of each
array it allocates.

`Reads` says what a decoder does on the bytes it was made for, `Exact` that it
succeeds on no others, and `Within` bounds what it allocates.
-/

/-- What a decoder works on. -/
structure Reading where
  rest : List UInt8
  ok : Bool
  refsOk : Bool
  allocated : List Nat

/-- `remaining()`: nothing once a read has failed. -/
def Reading.remaining (reading : Reading) : Nat :=
  if reading.ok then reading.rest.length else 0

/-- A decoder, which may refuse its input with an error. -/
def Decoder (E A : Type) : Type :=
  Reading -> Except E A × Reading

namespace Decoder

variable {E A B : Type}

instance : Monad (Decoder E) where
  pure value reading := (.ok value, reading)
  bind decoder next reading :=
    match decoder reading with
    | (.error error, after) => (.error error, after)
    | (.ok value, after) => next value after

/-- Give up. -/
def refuse (error : E) : Decoder E A := fun reading => (.error error, reading)

/-- A value found without reading, or give up. -/
def ofExcept (result : Except E A) : Decoder E A := fun reading => (result, reading)

/-- Give up unless a condition holds. -/
def require (condition : Bool) (error : E) : Decoder E Unit := fun reading =>
  (if condition then .ok () else .error error, reading)

/-- Give up unless a condition on the number of bytes ahead holds. -/
def fuse (condition : Nat -> Bool) (error : E) : Decoder E Unit := fun reading =>
  (if condition reading.remaining then .ok () else .error error, reading)

/-- Give up when a read has failed. -/
def requireOk (error : E) : Decoder E Unit := fun reading =>
  (if reading.ok then .ok () else .error error, reading)

/-- Give up when a reference could not be followed. -/
def requireRefs (error : E) : Decoder E Unit := fun reading =>
  (if reading.refsOk then .ok () else .error error, reading)

/-- The next byte, or zero past the end. -/
def byte : Decoder E UInt8 := fun reading =>
  match reading.rest with
  | [] => (.ok 0, { reading with ok := false })
  | value :: rest => (.ok value, { reading with rest := rest })

/-- The next `size` bytes, or nothing when there are fewer. -/
def take (size : Nat) : Decoder E (Option (List UInt8)) := fun reading =>
  if size ≤ reading.rest.length then
    (.ok (some (reading.rest.take size)), { reading with rest := reading.rest.drop size })
  else (.ok none, { reading with ok := false })

/-- `remaining()`. -/
def remaining : Decoder E Nat := fun reading => (.ok reading.remaining, reading)

/-- Record a reference that cannot be followed. -/
def dangling : Decoder E Unit := fun reading => (.ok (), { reading with refsOk := false })

/-- Record an allocation. -/
def allocate (size : Nat) : Decoder E Unit := fun reading =>
  (.ok (), { reading with allocated := reading.allocated ++ [size] })

/-- The same decoder so many times. -/
def times : Nat -> Decoder E A -> Decoder E (List A)
  | 0, _ => pure []
  | count + 1, decoder => do
      let first ← decoder
      let rest ← times count decoder
      pure (first :: rest)

theorem pure_eq (value : A) (reading : Reading) :
    (pure value : Decoder E A) reading = (.ok value, reading) := rfl

theorem bind_eq (decoder : Decoder E A) (next : A -> Decoder E B) (reading : Reading) :
    (decoder >>= next) reading = match decoder reading with
      | (.error error, after) => (.error error, after)
      | (.ok value, after) => next value after := rfl

theorem bind_assoc {C : Type} (decoder : Decoder E A) (next : A -> Decoder E B) (last : B -> Decoder E C) :
    decoder >>= next >>= last = decoder >>= fun value => next value >>= last := by
  funext reading
  simp only [bind_eq]
  rcases decoder reading with ⟨error | value, after⟩ <;> rfl

theorem pure_bind (value : A) (next : A -> Decoder E B) : pure value >>= next = next value := rfl

theorem bind_of_ok {decoder : Decoder E A} {next : A -> Decoder E B} {reading after : Reading} {value : A}
    (ran : decoder reading = (.ok value, after)) : (decoder >>= next) reading = next value after := by
  rw [bind_eq, ran]

theorem bind_of_error {decoder : Decoder E A} {next : A -> Decoder E B} {reading after : Reading} {error : E}
    (ran : decoder reading = (.error error, after)) :
    (decoder >>= next) reading = (.error error, after) := by
  rw [bind_eq, ran]

theorem bind_eq_ok {decoder : Decoder E A} {next : A -> Decoder E B} {reading final : Reading} {value : B}
    (ran : (decoder >>= next) reading = (.ok value, final)) :
    exists first after, decoder reading = (.ok first, after) ∧ next first after = (.ok value, final) := by
  generalize outcome : decoder reading = result
  rcases result with ⟨error | first, after⟩
  · rw [bind_of_error outcome] at ran
    cases ran
  · rw [bind_of_ok outcome] at ran
    exact ⟨first, after, rfl, ran⟩

theorem bind_requireOk {error : E} {next : Unit -> Decoder E A} {reading final : Reading}
    {value : A} (ran : (Decoder.requireOk error >>= next) reading = (.ok value, final)) :
    reading.ok = true ∧ next () reading = (.ok value, final) := by
  rw [bind_eq, Decoder.requireOk] at ran
  cases flag : reading.ok with
  | false => simp only [flag, Bool.false_eq_true, if_false, reduceCtorEq, Prod.mk.injEq, false_and] at ran
  | true =>
      simp only [flag, if_true] at ran
      exact ⟨rfl, ran⟩

theorem bind_requireRefs {error : E} {next : Unit -> Decoder E A} {reading final : Reading}
    {value : A} (ran : (Decoder.requireRefs error >>= next) reading = (.ok value, final)) :
    reading.refsOk = true ∧ next () reading = (.ok value, final) := by
  rw [bind_eq, Decoder.requireRefs] at ran
  cases flag : reading.refsOk with
  | false => simp only [flag, Bool.false_eq_true, if_false, reduceCtorEq, Prod.mk.injEq, false_and] at ran
  | true =>
      simp only [flag, if_true] at ran
      exact ⟨rfl, ran⟩

theorem bind_require {condition : Bool} {error : E} {next : Unit -> Decoder E A} {reading final : Reading}
    {value : A} (ran : (Decoder.require condition error >>= next) reading = (.ok value, final)) :
    condition = true ∧ next () reading = (.ok value, final) := by
  rw [bind_eq, Decoder.require] at ran
  cases condition with
  | false => simp only [Bool.false_eq_true, if_false, reduceCtorEq, Prod.mk.injEq, false_and] at ran
  | true => exact ⟨rfl, ran⟩

theorem bind_ofExcept {result : Except E A} {next : A -> Decoder E B} {reading final : Reading} {value : B}
    (ran : (Decoder.ofExcept result >>= next) reading = (.ok value, final)) :
    exists found, result = .ok found ∧ next found reading = (.ok value, final) := by
  cases result with
  | error error => cases ran
  | ok found => exact ⟨found, rfl, ran⟩

theorem bind_fuse {condition : Nat -> Bool} {error : E} {next : Unit -> Decoder E A}
    {reading final : Reading} {value : A}
    (ran : (Decoder.fuse condition error >>= next) reading = (.ok value, final)) :
    condition reading.remaining = true ∧ next () reading = (.ok value, final) := by
  rw [bind_eq, Decoder.fuse] at ran
  cases holds : condition reading.remaining with
  | false => simp only [holds, Bool.false_eq_true, if_false, reduceCtorEq, Prod.mk.injEq, false_and] at ran
  | true =>
      simp only [holds, if_true] at ran
      exact ⟨rfl, ran⟩

/-! ## Reading what was written -/

/-- On these bytes, whatever follows them, the decoder gives this value and
leaves the rest. -/
def Reads (decoder : Decoder E A) (bytes : List UInt8) (value : A) : Prop :=
  forall tail allocated, exists allocated',
    decoder ⟨bytes ++ tail, true, true, allocated⟩ = (.ok value, ⟨tail, true, true, allocated'⟩)

namespace Reads

theorem pure (value : A) : Reads (E := E) (Pure.pure value) [] value :=
  fun _ allocated => ⟨allocated, rfl⟩

theorem bind {decoder : Decoder E A} {next : A -> Decoder E B} {front back : List UInt8} {value : A}
    {result : B} (first : Reads decoder front value) (second : Reads (next value) back result) :
    Reads (decoder >>= next) (front ++ back) result := by
  intro tail allocated
  rcases first (back ++ tail) allocated with ⟨between, ran⟩
  rcases second tail between with ⟨after, finished⟩
  refine ⟨after, ?_⟩
  rw [List.append_assoc, bind_of_ok ran, finished]

/-- A decoder followed by a conversion. -/
theorem map {decoder : Decoder E A} {bytes : List UInt8} {value : A} (reads : Reads decoder bytes value)
    (convert : A -> B) :
    Reads (decoder >>= fun value => Pure.pure (convert value)) bytes (convert value) := by
  have both : Reads (decoder >>= fun value => Pure.pure (convert value)) (bytes ++ []) (convert value) :=
    reads.bind (Reads.pure _)
  rw [List.append_nil] at both
  exact both

/-- A decoder that consumes nothing comes first. -/
theorem silent {decoder : Decoder E A} {next : A -> Decoder E B} {bytes : List UInt8} {value : A}
    {result : B} (first : Reads decoder [] value) (second : Reads (next value) bytes result) :
    Reads (decoder >>= next) bytes result :=
  first.bind second

theorem require {condition : Bool} {error : E} (holds : condition = true) :
    Reads (Decoder.require condition error) [] () := by
  intro tail allocated
  exact ⟨allocated, by rw [Decoder.require, if_pos holds]; rfl⟩

theorem requireOk (error : E) : Reads (Decoder.requireOk error) [] () :=
  fun _ allocated => ⟨allocated, rfl⟩

theorem requireRefs (error : E) : Reads (Decoder.requireRefs error) [] () :=
  fun _ allocated => ⟨allocated, rfl⟩

theorem allocate (size : Nat) : Reads (Decoder.allocate (E := E) size) [] () :=
  fun _ allocated => ⟨allocated ++ [size], rfl⟩

theorem ofExcept (value : A) : Reads (E := E) (Decoder.ofExcept (.ok value)) [] value :=
  fun _ allocated => ⟨allocated, rfl⟩

theorem byte (value : UInt8) : Reads (Decoder.byte (E := E)) [value] value :=
  fun _ allocated => ⟨allocated, rfl⟩

theorem take (bytes : List UInt8) : Reads (Decoder.take (E := E) bytes.length) bytes (some bytes) := by
  intro tail allocated
  refine ⟨allocated, ?_⟩
  rw [Decoder.take, if_pos (by rw [List.length_append]; exact Nat.le_add_right _ _)]
  simp only [List.take_left', List.drop_left']

/-- A fuse that these bytes alone satisfy does not blow. -/
theorem fuse {condition : Nat -> Bool} {error : E} {next : Unit -> Decoder E B} {bytes : List UInt8}
    {result : B} (monotone : forall fewer more, fewer ≤ more -> condition fewer = true -> condition more = true)
    (enough : condition bytes.length = true) (second : Reads (next ()) bytes result) :
    Reads (Decoder.fuse condition error >>= next) bytes result := by
  intro tail allocated
  rcases second tail allocated with ⟨after, finished⟩
  refine ⟨after, ?_⟩
  have passes : condition (bytes ++ tail).length = true :=
    monotone _ _ (by rw [List.length_append]; exact Nat.le_add_right _ _) enough
  have ran : Decoder.fuse condition error ⟨bytes ++ tail, true, true, allocated⟩ =
      (.ok (), ⟨bytes ++ tail, true, true, allocated⟩) := by
    rw [Decoder.fuse, Reading.remaining, if_pos rfl, if_pos passes]
  rw [bind_of_ok ran, finished]

theorem times {X : Type} {decoder : Decoder E A} {values : List X} {bytes : X -> List UInt8} {value : X -> A}
    (each : forall x, x ∈ values -> Reads decoder (bytes x) (value x)) :
    Reads (Decoder.times values.length decoder) (values.flatMap bytes) (values.map value) := by
  induction values with
  | nil => exact Reads.pure []
  | cons x rest inductionHypothesis =>
      have others := inductionHypothesis fun other member => each other (List.mem_cons_of_mem _ member)
      exact (each x List.mem_cons_self).bind (others.map fun tail => value x :: tail)

end Reads

/-! ## Succeeding on nothing else -/

/-- When the decoder succeeds, it has consumed bytes on which it gives the same
value whatever follows them, as long as no less follows. -/
def Exact (decoder : Decoder E A) : Prop :=
  forall reading value after, decoder reading = (.ok value, after) -> after.ok = true ->
    reading.ok = true ∧ exists bytes, reading.rest = bytes ++ after.rest ∧
      forall tail refsOk allocated, after.rest.length ≤ tail.length ->
        exists refsOk' allocated', decoder ⟨bytes ++ tail, true, refsOk, allocated⟩ =
          (.ok value, ⟨tail, true, refsOk', allocated'⟩)

namespace Exact

theorem pure (value : A) : Exact (E := E) (Pure.pure value) := by
  intro reading result after ran ok
  cases ran
  exact ⟨ok, [], rfl, fun _ refsOk allocated _ => ⟨refsOk, allocated, rfl⟩⟩

theorem bind {decoder : Decoder E A} {next : A -> Decoder E B} (first : Exact decoder)
    (second : forall value, Exact (next value)) : Exact (decoder >>= next) := by
  intro reading result final ran ok
  rcases bind_eq_ok ran with ⟨value, between, started, finished⟩
  rcases second value between result final finished ok with ⟨betweenOk, back, later, finish⟩
  rcases first reading value between started betweenOk with ⟨readingOk, front, earlier, start⟩
  refine ⟨readingOk, front ++ back, by rw [earlier, later, List.append_assoc], ?_⟩
  intro tail refsOk allocated enough
  have moreFollows : between.rest.length ≤ (back ++ tail).length := by
    rw [later, List.length_append, List.length_append]
    exact Nat.add_le_add_left enough _
  rcases start (back ++ tail) refsOk allocated moreFollows with ⟨refsOk', allocated', startRan⟩
  rcases finish tail refsOk' allocated' enough with ⟨refsOk'', allocated'', finishRan⟩
  exact ⟨refsOk'', allocated'', by rw [List.append_assoc, bind_of_ok startRan, finishRan]⟩

theorem require (condition : Bool) (error : E) : Exact (Decoder.require condition error) := by
  intro reading result after ran ok
  unfold Decoder.require at ran ⊢
  split at ran
  · rename_i holds
    cases ran
    exact ⟨ok, [], rfl, fun _ refsOk allocated _ => ⟨refsOk, allocated, by rw [if_pos holds]; rfl⟩⟩
  · cases ran

theorem requireOk (error : E) : Exact (Decoder.requireOk error) := by
  intro reading result after ran ok
  unfold Decoder.requireOk at ran
  split at ran
  · cases ran
    exact ⟨ok, [], rfl, fun _ refsOk allocated _ => ⟨refsOk, allocated, rfl⟩⟩
  · cases ran

/-- A fuse that holds keeps holding when more follows. -/
theorem fuse {condition : Nat -> Bool} (error : E)
    (monotone : forall fewer more, fewer ≤ more -> condition fewer = true -> condition more = true) :
    Exact (Decoder.fuse condition error) := by
  intro reading result after ran ok
  unfold Decoder.fuse at ran ⊢
  split at ran
  · rename_i holds
    cases ran
    refine ⟨ok, [], rfl, fun tail refsOk allocated enough => ⟨refsOk, allocated, ?_⟩⟩
    rw [Reading.remaining, if_pos ok] at holds
    have still : condition (Reading.remaining ⟨[] ++ tail, true, refsOk, allocated⟩) = true :=
      monotone _ _ enough holds
    rw [if_pos still]
    rfl
  · cases ran

theorem allocate (size : Nat) : Exact (Decoder.allocate (E := E) size) := by
  intro reading result after ran ok
  cases ran
  exact ⟨ok, [], rfl, fun _ refsOk allocated _ => ⟨refsOk, allocated ++ [size], rfl⟩⟩

theorem byte : Exact (Decoder.byte (E := E)) := by
  intro reading result after ran ok
  unfold Decoder.byte at ran
  split at ran
  · cases ran
    cases ok
  · rename_i first rest whole
    cases ran
    exact ⟨ok, [_], whole, fun _ refsOk allocated _ => ⟨refsOk, allocated, rfl⟩⟩

theorem take (size : Nat) : Exact (Decoder.take (E := E) size) := by
  intro reading result after ran ok
  unfold Decoder.take at ran
  split at ran
  · rename_i within
    cases ran
    refine ⟨ok, reading.rest.take size, (List.take_append_drop _ _).symm, ?_⟩
    intro tail refsOk allocated _
    have length : (reading.rest.take size).length = size := List.length_take_of_le within
    refine ⟨refsOk, allocated, ?_⟩
    rw [Decoder.take, if_pos (by rw [List.length_append, length]; exact Nat.le_add_right _ _)]
    simp only [List.take_left' length, List.drop_left' length]
  · cases ran
    cases ok

theorem times {decoder : Decoder E A} (exact : Exact decoder) (count : Nat) :
    Exact (Decoder.times count decoder) := by
  induction count with
  | zero => exact Exact.pure []
  | succ count inductionHypothesis =>
      exact exact.bind fun _ => inductionHypothesis.bind fun _ => Exact.pure _

end Exact

/-! ## Only what was written is read -/

/-- What the decoder read, while its flag stays set, is what its value is
written as. -/
def Consumes (decoder : Decoder E A) (bytes : A -> List UInt8) : Prop :=
  forall reading value after, decoder reading = (.ok value, after) -> after.ok = true ->
    reading.ok = true ∧ reading.rest = bytes value ++ after.rest

namespace Consumes

variable {bytes : A -> List UInt8}

/-- The first part of a decoder that succeeds. -/
theorem step {decoder : Decoder E A} {next : A -> Decoder E B} {reading final : Reading} {result : B}
    (consumes : Consumes decoder bytes) (ran : (decoder >>= next) reading = (.ok result, final)) :
    exists value after, next value after = (.ok result, final) ∧
      (after.ok = true -> reading.ok = true ∧ reading.rest = bytes value ++ after.rest) := by
  rcases bind_eq_ok ran with ⟨value, after, started, finished⟩
  exact ⟨value, after, finished, consumes reading value after started⟩

theorem pure (value : A) (nothing : bytes value = []) : Consumes (E := E) (Pure.pure value) bytes := by
  intro reading result after ran ok
  cases ran
  rw [nothing]
  exact ⟨ok, rfl⟩

theorem byte : Consumes (E := E) Decoder.byte fun value => [value] := by
  intro reading value after ran ok
  unfold Decoder.byte at ran
  split at ran
  · cases ran
    cases ok
  · rename_i first rest whole
    cases ran
    exact ⟨ok, whole⟩

theorem map {decoder : Decoder E A} {convert : A -> B} {written : B -> List UInt8} (consumes : Consumes decoder bytes)
    (same : forall value, written (convert value) = bytes value) :
    Consumes (decoder >>= fun value => Pure.pure (convert value)) written := by
  intro reading result after ran ok
  rcases consumes.step ran with ⟨value, between, finished, back⟩
  cases finished
  rw [same]
  exact back ok

theorem times {decoder : Decoder E A} (consumes : Consumes decoder bytes) (count : Nat) :
    Consumes (Decoder.times count decoder) fun values => values.flatMap bytes := by
  induction count with
  | zero => exact Consumes.pure [] rfl
  | succ count inductionHypothesis =>
      intro reading values after ran ok
      rcases consumes.step ran with ⟨first, afterFirst, ran, backFirst⟩
      rcases inductionHypothesis.step ran with ⟨rest, afterRest, finished, backRest⟩
      cases finished
      rcases backRest ok with ⟨firstOk, later⟩
      rcases backFirst firstOk with ⟨readingOk, earlier⟩
      refine ⟨readingOk, ?_⟩
      simp only [earlier, later, List.flatMap_cons, List.append_assoc]

end Consumes

/-- A run of bytes, when they are there. -/
theorem take_eq_ok {size : Nat} {reading after : Reading} {value : Option (List UInt8)}
    (ran : take (E := E) size reading = (.ok value, after)) (ok : after.ok = true) :
    exists bytes, value = some bytes ∧ bytes.length = size ∧ reading.ok = true ∧
      reading.rest = bytes ++ after.rest := by
  unfold take at ran
  split at ran
  · rename_i within
    cases ran
    exact ⟨_, rfl, List.length_take_of_le within, ok, (List.take_append_drop _ _).symm⟩
  · cases ran
    cases ok

/-! ## Failing at once -/

/-- Success leaves the flag as it was: a failed read has been refused. -/
def Steady (decoder : Decoder E A) : Prop :=
  forall reading value after, decoder reading = (.ok value, after) -> after.ok = reading.ok

namespace Steady

theorem pure (value : A) : Steady (E := E) (Pure.pure value) := by
  intro reading result after ran
  cases ran
  rfl

theorem bind {decoder : Decoder E A} {next : A -> Decoder E B} (first : Steady decoder)
    (second : forall value, Steady (next value)) : Steady (decoder >>= next) := by
  intro reading result final ran
  rcases bind_eq_ok ran with ⟨value, between, started, finished⟩
  exact (second value between result final finished).trans (first reading value between started)

theorem require (condition : Bool) (error : E) : Steady (Decoder.require condition error) := by
  intro reading value after ran
  exact congrArg Reading.ok (Prod.mk.inj ran).2.symm

theorem fuse (condition : Nat -> Bool) (error : E) : Steady (Decoder.fuse condition error) := by
  intro reading value after ran
  exact congrArg Reading.ok (Prod.mk.inj ran).2.symm

theorem times {decoder : Decoder E A} (steady : Steady decoder) (count : Nat) :
    Steady (Decoder.times count decoder) := by
  induction count with
  | zero => exact Steady.pure []
  | succ count inductionHypothesis => exact steady.bind fun _ => inductionHypothesis.bind fun _ => Steady.pure _

end Steady

/-! ## What a value satisfies -/

/-- Every value the decoder gives, whatever the flags, satisfies this. -/
def Ensures (decoder : Decoder E A) (holds : A -> Prop) : Prop :=
  forall reading value after, decoder reading = (.ok value, after) -> holds value

namespace Ensures

variable {holds : B -> Prop}

theorem anything (decoder : Decoder E A) : Ensures decoder fun _ => True :=
  fun _ _ _ _ => trivial

theorem pure {value : B} (satisfied : holds value) : Ensures (E := E) (Pure.pure value) holds := by
  intro reading result after ran
  cases ran
  exact satisfied

theorem bind {decoder : Decoder E A} {next : A -> Decoder E B} {middle : A -> Prop}
    (first : Ensures decoder middle) (second : forall value, middle value -> Ensures (next value) holds) :
    Ensures (decoder >>= next) holds := by
  intro reading result final ran
  rcases bind_eq_ok ran with ⟨value, between, started, finished⟩
  exact second value (first reading value between started) between result final finished

/-- Whatever comes first. -/
theorem after {decoder : Decoder E A} {next : A -> Decoder E B}
    (second : forall value, Ensures (next value) holds) : Ensures (decoder >>= next) holds :=
  (anything decoder).bind fun value _ => second value

theorem require (condition : Bool) (error : E) :
    Ensures (Decoder.require condition error) fun _ => condition = true := by
  intro reading value after ran
  unfold Decoder.require at ran
  split at ran
  · assumption
  · cases ran

theorem refuse (error : E) : Ensures (Decoder.refuse error) holds := by
  intro reading value after ran
  cases ran

theorem times {decoder : Decoder E B} (each : Ensures decoder holds) (count : Nat) :
    Ensures (Decoder.times count decoder) fun values =>
      values.length = count ∧ forall value, value ∈ values -> holds value := by
  induction count with
  | zero => exact Ensures.pure ⟨rfl, fun _ member => absurd member List.not_mem_nil⟩
  | succ count inductionHypothesis =>
      refine each.bind fun first satisfied => inductionHypothesis.bind fun rest others => Ensures.pure ?_
      refine ⟨by rw [List.length_cons, others.1], fun value member => ?_⟩
      exact (List.mem_cons.mp member).elim (fun same => same ▸ satisfied) (others.2 value)

theorem length_times (decoder : Decoder E A) (count : Nat) :
    Ensures (Decoder.times count decoder) fun values => values.length = count := by
  intro reading values after ran
  exact (times (anything decoder) count reading values after ran).1

end Ensures

/-! ## Bounded allocation -/

/-- On at most `limit` bytes the decoder allocates nothing larger than that. -/
def Within (limit : Nat) (decoder : Decoder E A) : Prop :=
  forall reading, reading.rest.length ≤ limit ->
    (decoder reading).2.rest.length ≤ reading.rest.length ∧
      exists sizes, (decoder reading).2.allocated = reading.allocated ++ sizes ∧
        forall size, size ∈ sizes -> size ≤ limit

/-- On at most `limit` bytes, every value the decoder gives satisfies this. -/
def Yields (limit : Nat) (decoder : Decoder E A) (holds : A -> Prop) : Prop :=
  forall reading value after, reading.rest.length ≤ limit -> decoder reading = (.ok value, after) ->
    holds value

namespace Within

variable {limit : Nat}

/-- A decoder that neither allocates nor gains bytes. -/
theorem of_frame {decoder : Decoder E A}
    (shorter : forall reading, (decoder reading).2.rest.length ≤ reading.rest.length)
    (same : forall reading, (decoder reading).2.allocated = reading.allocated) : Within limit decoder :=
  fun reading _ => ⟨shorter reading, [], by rw [same, List.append_nil],
    fun _ member => absurd member List.not_mem_nil⟩

theorem pure (value : A) : Within (E := E) limit (Pure.pure value) :=
  of_frame (fun _ => Nat.le_refl _) fun _ => rfl

theorem refuse (error : E) : Within limit (Decoder.refuse (A := A) error) :=
  of_frame (fun _ => Nat.le_refl _) fun _ => rfl

theorem condition (holds : Bool) (error : E) : Within limit (Decoder.require holds error) :=
  of_frame (fun _ => Nat.le_refl _) fun _ => rfl

theorem requireOk (error : E) : Within limit (Decoder.requireOk error) :=
  of_frame (fun _ => Nat.le_refl _) fun _ => rfl

theorem requireRefs (error : E) : Within limit (Decoder.requireRefs error) :=
  of_frame (fun _ => Nat.le_refl _) fun _ => rfl

theorem ofExcept (result : Except E A) : Within limit (Decoder.ofExcept result) :=
  of_frame (fun _ => Nat.le_refl _) fun _ => rfl

theorem dangling : Within limit (Decoder.dangling (E := E)) :=
  of_frame (fun _ => Nat.le_refl _) fun _ => rfl

theorem byte : Within limit (Decoder.byte (E := E)) := by
  apply of_frame <;> intro reading <;> unfold Decoder.byte <;> split
  · exact Nat.le_refl _
  · rename_i whole
    rw [whole]
    exact Nat.le_succ _
  · rfl
  · rfl

theorem take (size : Nat) : Within limit (Decoder.take (E := E) size) := by
  apply of_frame <;> intro reading <;> unfold Decoder.take <;> split
  · simp only [List.length_drop]
    exact Nat.sub_le _ _
  · exact Nat.le_refl _
  · rfl
  · rfl

theorem allocate {size : Nat} (fits : size ≤ limit) : Within limit (Decoder.allocate (E := E) size) :=
  fun _ _ => ⟨Nat.le_refl _, [size], rfl, fun _ member => (List.mem_singleton.mp member) ▸ fits⟩

/-- What follows may rely on what the first part yields. -/
theorem bind_of {decoder : Decoder E A} {next : A -> Decoder E B} {middle : A -> Prop}
    (first : Within limit decoder) (yields : Yields limit decoder middle)
    (second : forall value, middle value -> Within limit (next value)) : Within limit (decoder >>= next) := by
  intro reading short
  have started := first reading short
  have satisfied := yields reading
  rw [bind_eq]
  generalize decoder reading = outcome at started satisfied ⊢
  rcases outcome with ⟨error | value, between⟩
  · exact started
  · rcases started with ⟨shorter, sizes, recorded, small⟩
    simp only at shorter recorded
    have holds := satisfied value between short rfl
    rcases second value holds between (Nat.le_trans shorter short) with ⟨still, more, recordedMore, smallMore⟩
    refine ⟨Nat.le_trans still shorter, sizes ++ more, ?_, fun size member => ?_⟩
    · simp only [recordedMore, recorded, List.append_assoc]
    · exact (List.mem_append.mp member).elim (small size) (smallMore size)

theorem bind {decoder : Decoder E A} {next : A -> Decoder E B} (first : Within limit decoder)
    (second : forall value, Within limit (next value)) : Within limit (decoder >>= next) :=
  first.bind_of (fun _ _ _ _ _ => True.intro) fun value _ => second value

/-- What comes after a condition may rely on it. -/
theorem require {condition : Bool} {error : E} {next : Unit -> Decoder E B}
    (second : condition = true -> Within limit (next ())) :
    Within limit (Decoder.require condition error >>= next) := by
  intro reading short
  rw [bind_eq, Decoder.require]
  by_cases holds : condition = true
  · rw [if_pos holds]
    exact second holds reading short
  · rw [if_neg holds]
    exact Within.refuse (A := B) error reading short

/-- What comes after a fuse may rely on it. -/
theorem fuse {condition : Nat -> Bool} {error : E} {next : Unit -> Decoder E B}
    (second : forall available, available ≤ limit -> condition available = true -> Within limit (next ())) :
    Within limit (Decoder.fuse condition error >>= next) := by
  intro reading short
  rw [bind_eq, Decoder.fuse]
  by_cases holds : condition reading.remaining = true
  · rw [if_pos holds]
    refine second reading.remaining ?_ holds reading short
    unfold Reading.remaining
    split
    · exact short
    · exact Nat.zero_le _
  · rw [if_neg holds]
    exact Within.refuse (A := B) error reading short

theorem times {decoder : Decoder E A} (within : Within limit decoder) (count : Nat) :
    Within limit (Decoder.times count decoder) := by
  induction count with
  | zero => exact Within.pure []
  | succ count inductionHypothesis =>
      exact within.bind fun _ => inductionHypothesis.bind fun _ => Within.pure _

end Within

namespace Yields

variable {limit : Nat} {holds : B -> Prop}

theorem of_ensures {decoder : Decoder E B} (ensures : Ensures decoder holds) : Yields limit decoder holds :=
  fun reading value after _ ran => ensures reading value after ran

/-- Whatever comes first. -/
theorem after {decoder : Decoder E A} {next : A -> Decoder E B} (first : Within limit decoder)
    (second : forall value, Yields limit (next value) holds) : Yields limit (decoder >>= next) holds := by
  intro reading result final short ran
  rcases bind_eq_ok ran with ⟨value, between, started, finished⟩
  have shorter := (first reading short).1
  rw [started] at shorter
  exact second value between result final (Nat.le_trans shorter short) finished

/-- What comes after a fuse may rely on it. -/
theorem fuse {condition : Nat -> Bool} {error : E} {next : Unit -> Decoder E B}
    (second : forall available, available ≤ limit -> condition available = true ->
      Yields limit (next ()) holds) : Yields limit (Decoder.fuse condition error >>= next) holds := by
  intro reading result final short ran
  rcases bind_fuse ran with ⟨passes, finished⟩
  refine second reading.remaining ?_ passes reading result final short finished
  unfold Reading.remaining
  split
  · exact short
  · exact Nat.zero_le _

end Yields

end Decoder
end BravoFinder
