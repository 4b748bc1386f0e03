import BravoFinder.Cache.GraphCodec
import BravoFinder.Cache.NavDetailCodec
import BravoFinder.Cache.CifpSegment
import Mathlib.Data.Fintype.Card
import Mathlib.Data.Fintype.Option

namespace BravoFinder

/-!
# The pool grows by distinct strings

Every encoder only adds to the pool, and a string that is added lies there
once.  So as many distinct strings as are in the pool take up its length.
-/

namespace StringPool

/-- A pool that was filled by adding strings. -/
structure Consistent (pool : StringPool) : Prop where
  sound : pool.Sound
  nodup : (pool.interned.map Prod.fst).Nodup
  length_eq : pool.blob.length = (pool.interned.map fun entry => entry.1.length).sum

/-- The second pool has the first one's bytes and strings, and more. -/
structure Extends (pool after : StringPool) : Prop where
  blob : pool.blob <+: after.blob
  interned : pool.interned <:+ after.interned

namespace Extends

theorem refl (pool : StringPool) : Extends pool pool := ⟨List.prefix_rfl, List.suffix_rfl⟩

theorem trans {first second third : StringPool} (one : Extends first second) (two : Extends second third) :
    Extends first third := ⟨one.blob.trans two.blob, one.interned.trans two.interned⟩

end Extends

theorem consistent_empty : empty.Consistent := ⟨sound_empty, List.nodup_nil, rfl⟩

theorem lookup_eq_none {entries : List (Text × StringRef)} {s : Text} (missing : entries.lookup s = none) :
    s ∉ entries.map Prod.fst := by
  intro member
  rcases List.mem_map.mp member with ⟨entry, listed, rfl⟩
  exact absurd rfl (bne_iff_ne.mp (List.lookup_eq_none_iff.mp missing entry listed))

theorem consistent_add {pool : StringPool} (consistent : pool.Consistent) (s : Text) :
    (pool.add s).2.Consistent := by
  refine ⟨(add_spec consistent.sound rfl).1, ?_, ?_⟩
  · unfold add
    split
    · exact consistent.nodup
    · rename_i missing
      exact List.nodup_cons.mpr ⟨lookup_eq_none missing, consistent.nodup⟩
  · unfold add
    split
    · exact consistent.length_eq
    · rw [List.map_cons, List.sum_cons, List.length_append, consistent.length_eq, Nat.add_comm]

theorem extends_add (pool : StringPool) (s : Text) : Extends pool (pool.add s).2 := by
  unfold add
  split
  · exact Extends.refl pool
  · exact ⟨List.prefix_append _ _, List.suffix_cons _ _⟩

/-- A string that was added is in the pool. -/
theorem mem_add (pool : StringPool) (s : Text) : s ∈ (pool.add s).2.interned.map Prod.fst := by
  unfold add
  split
  · rename_i ref found
    rcases List.lookup_eq_some_iff.mp found with ⟨before, after, split, _⟩
    rw [split]
    simp only [List.map_append, List.map_cons, List.mem_append, List.mem_cons, true_or, or_true]
  · exact List.mem_cons_self

theorem Extends.mem {pool after : StringPool} (extended : Extends pool after) {s : Text}
    (there : s ∈ pool.interned.map Prod.fst) : s ∈ after.interned.map Prod.fst :=
  (extended.interned.map Prod.fst).mem there

/-! ## How many strings a pool can hold -/

theorem eq_nil_or_singleton {s : Text} (short : s.length ≤ 1) : s = [] ∨ exists a, s = [a] := by
  cases Nat.le_one_iff_eq_zero_or_eq_one.mp short with
  | inl none => exact .inl (List.eq_nil_of_length_eq_zero none)
  | inr one => exact .inr (List.length_eq_one_iff.mp one)

/-- All but 257 distinct strings have two bytes or more. -/
theorem two_mul_length_le {strings : List Text} (nodup : strings.Nodup) :
    2 * strings.length ≤ 514 + (strings.map List.length).sum := by
  have short : (strings.filter fun s => decide (s.length ≤ 1)).length ≤ 257 := by
    have distinct : ((strings.filter fun s => decide (s.length ≤ 1)).map fun s => s.head?.map UInt8.toFin).Nodup := by
      apply (nodup.filter _).map_on
      intro first one second two same
      have oneShort := of_decide_eq_true (List.mem_filter.mp one).2
      have twoShort := of_decide_eq_true (List.mem_filter.mp two).2
      rcases eq_nil_or_singleton oneShort with rfl | ⟨a, rfl⟩
      · rcases eq_nil_or_singleton twoShort with rfl | ⟨b, rfl⟩
        · rfl
        · cases same
      · rcases eq_nil_or_singleton twoShort with rfl | ⟨b, rfl⟩
        · cases same
        · rw [UInt8.toFin_inj.mp (Option.some.inj same)]
    have counted := distinct.length_le_card
    rw [List.length_map, Fintype.card_option, Fintype.card_fin] at counted
    exact counted
  have long : forall strings : List Text, 2 * strings.length ≤
      2 * (strings.filter fun s => decide (s.length ≤ 1)).length + (strings.map List.length).sum := by
    intro strings
    induction strings with
    | nil => exact Nat.le_refl 0
    | cons s rest inductionHypothesis =>
        rw [List.filter_cons, List.map_cons, List.sum_cons, List.length_cons]
        split
        · rw [List.length_cons]
          omega
        · rename_i wide
          have two : 1 < s.length := by simpa using wide
          omega
  have both := long strings
  omega

/-- Distinct strings of a pool that 32 bits address are fewer than 2^32. -/
theorem length_lt {pool : StringPool} (consistent : pool.Consistent) (small : pool.blob.length < 2 ^ 32)
    {strings : List Text} (nodup : strings.Nodup) (there : forall s, s ∈ strings -> s ∈ pool.interned.map Prod.fst) :
    strings.length < 2 ^ 32 := by
  have fewer := nodup.length_le_of_subset there
  have counted := two_mul_length_le consistent.nodup
  have total : ((pool.interned.map Prod.fst).map List.length).sum = pool.blob.length := by
    rw [consistent.length_eq, List.map_map]
    rfl
  rw [total] at counted
  omega

end StringPool

namespace Encoder

variable {E : Type}

/-- An encoder that only adds to the pool. -/
def Grows (encoder : Encoder E) : Prop :=
  forall pool bytes after, encoder pool = .ok (bytes, after) -> pool.Consistent ->
    after.Consistent ∧ pool.Extends after

namespace Grows

theorem done : Grows (E := E) Encoder.done := by
  intro pool bytes after ran consistent
  cases ran
  exact ⟨consistent, .refl pool⟩

theorem write (bytes : List UInt8) : Grows (E := E) (Encoder.write bytes) := by
  intro pool written after ran consistent
  cases ran
  exact ⟨consistent, .refl pool⟩

theorem check (condition : Bool) (error : E) : Grows (Encoder.check condition error) := by
  intro pool bytes after ran consistent
  unfold Encoder.check at ran
  split at ran
  · cases ran
    exact ⟨consistent, .refl pool⟩
  · cases ran

theorem ref (s : Text) : Grows (E := E) (Encoder.ref s) := by
  intro pool bytes after ran consistent
  cases ran
  exact ⟨StringPool.consistent_add consistent s, StringPool.extends_add pool s⟩

theorem append {first second : Encoder E} (one : Grows first) (two : Grows second) : Grows (first ++ second) := by
  intro pool bytes after ran consistent
  rcases append_eq_ok ran with ⟨front, between, back, started, finished, rfl⟩
  rcases one pool front between started consistent with ⟨betweenConsistent, toBetween⟩
  rcases two between back after finished betweenConsistent with ⟨afterConsistent, toAfter⟩
  exact ⟨afterConsistent, toBetween.trans toAfter⟩

theorem steps {encoders : List (Encoder E)} (all : forall encoder, encoder ∈ encoders -> Grows encoder) :
    Grows (Encoder.steps encoders) := by
  induction encoders with
  | nil => exact done
  | cons first rest inductionHypothesis =>
      exact (all first List.mem_cons_self).append
        (inductionHypothesis fun encoder member => all encoder (List.mem_cons_of_mem _ member))

theorem each {X : Type} {step : X -> Encoder E} (all : forall x, Grows (step x)) (values : List X) :
    Grows (Encoder.each step values) := by
  induction values with
  | nil => exact done
  | cons x rest inductionHypothesis => exact (all x).append inductionHypothesis

end Grows
end Encoder

open Encoder

/-! ## The encoders of the sections -/

namespace GraphCodec

theorem grows_encodeVertex (vertex : Vertex) : Grows (encodeVertex vertex) := by
  apply Grows.steps
  simp only [List.forall_mem_cons]
  exact ⟨.write _, .write _, .ref _, .ref _, .write _, .check _ _, .write _, nofun⟩

theorem grows_encodeOffsets (previous : Int32) (offsets : List Int32) : Grows (encodeOffsets previous offsets) := by
  induction offsets generalizing previous with
  | nil => exact Grows.done
  | cons offset rest inductionHypothesis =>
      apply Grows.steps
      simp only [List.forall_mem_cons]
      exact ⟨.check _ _, .write _, inductionHypothesis offset, nofun⟩

theorem grows_encodeEdge (vertexCount airwayCount : Nat) (edge : PackedEdge) :
    Grows (encodeEdge vertexCount airwayCount edge) := by
  apply Grows.steps
  simp only [List.forall_mem_cons]
  exact ⟨.check _ _, .check _ _, .check _ _, .write _, .write _, .write _, .write _, .write _, .write _, nofun⟩

theorem grows_encodeArc (arc : MsaArc) : Grows (encodeArc arc) := by
  apply Grows.steps
  simp only [List.forall_mem_cons]
  exact ⟨.write _, .write _, .write _, nofun⟩

theorem grows_encodeSector (sector : MsaSector) : Grows (encodeSector sector) := by
  apply Grows.steps
  simp only [List.forall_mem_cons]
  exact ⟨.ref _, .ref _, .ref _, .write _, .each grows_encodeArc _, nofun⟩

theorem grows_encode (snapshot : GraphSnapshot) : Grows (encode snapshot) := by
  apply Grows.steps
  simp only [List.forall_mem_cons]
  exact ⟨.check _ _, .check _ _, .check _ _, .write _, .write _, .write _, .write _, .write _,
    .each grows_encodeVertex _, .each (fun _ => .write _) _, .check _ _, grows_encodeOffsets _ _, .check _ _,
    .each (grows_encodeEdge _ _) _, .each .ref _, .each (fun _ => .write _) _, .each grows_encodeSector _, nofun⟩

end GraphCodec

namespace CifpCodec

theorem grows_serializeLeg (leg : ProcedureLeg) : Grows (serializeLeg leg) := by
  apply Grows.steps
  simp only [List.forall_mem_cons]
  exact ⟨.ref _, .ref _, .write _, .write _, .write _, .write _, .write _, .write _, .write _, .write _, .write _,
    .write _, .write _, .write _, nofun⟩

theorem grows_serializeProcedure (procedure : Procedure) : Grows (serializeProcedure procedure) := by
  apply Grows.steps
  simp only [List.forall_mem_cons]
  exact ⟨.write _, .write _, .ref _, .ref _, .ref _, .write _, .each grows_serializeLeg _, nofun⟩

theorem grows_serializeRunway (runway : Runway) : Grows (serializeRunway runway) := by
  apply Grows.steps
  simp only [List.forall_mem_cons]
  exact ⟨.ref _, .write _, .write _, .write _, nofun⟩

theorem grows_serializeSegment (data : CifpData) : Grows (serializeSegment data) := by
  apply Grows.steps
  simp only [List.forall_mem_cons]
  exact ⟨.write _, .each grows_serializeProcedure _, .write _, .each grows_serializeRunway _, nofun⟩

end CifpCodec

namespace NavDetailCodec

theorem grows_encodeNavaid (entry : Ident × NavaidDetailInfo) : Grows (encodeNavaid entry) := by
  apply Grows.steps
  simp only [List.forall_mem_cons]
  exact ⟨.ref _, .ref _, .write _, .write _, .write _, .write _, .write _, nofun⟩

theorem grows_encodeHold (hold : HoldInfo) : Grows (encodeHold hold) := by
  apply Grows.steps
  simp only [List.forall_mem_cons]
  exact ⟨.ref _, .ref _, .ref _, .write _, .write _, .write _, .write _, .write _, .write _, .write _, nofun⟩

theorem grows_encode (archive : NavDetailArchive) : Grows (encode archive) := by
  apply Grows.steps
  simp only [List.forall_mem_cons]
  exact ⟨.write _, .write _, .each grows_encodeNavaid _, .each grows_encodeHold _, nofun⟩

end NavDetailCodec
end BravoFinder
