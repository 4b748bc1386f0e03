import BravoFinder.Cache.CifpDirectory
import BravoFinder.Cache.GraphDecode

namespace BravoFinder

/-!
# Segments decoded from any bytes

A segment that is decoded is made of records that could have been written: its
legs are valid, its counts fit their fields, and it was read to its last byte.
Such data is written to bytes that are decoded to the same data.
-/

/-- What the decoder checks of a leg.  The identifiers keep their caps, and the
enumerators are those of their types, by construction. -/
structure ProcedureLeg.Valid (leg : ProcedureLeg) : Prop where
  /-- The position is absent, or on the globe. -/
  position : (F32.isNaN leg.fixLat = true ∧ F32.isNaN leg.fixLon = true) ∨
    (F32.isNaN leg.fixLat = false ∧ F32.isNaN leg.fixLon = false ∧
      F32.fabs leg.fixLat ≤ F32.ninety ∧ F32.fabs leg.fixLon ≤ F32.oneEighty)
  turn : leg.turnDir = 0 ∨ leg.turnDir = kTurnLeft ∨ leg.turnDir = kTurnRight

structure Procedure.Valid (procedure : Procedure) : Prop where
  legs : forall leg, leg ∈ procedure.legs -> leg.Valid
  counted : procedure.legs.length < 2 ^ 32

structure CifpData.Valid (data : CifpData) : Prop where
  procedures : forall procedure, procedure ∈ data.procedures -> procedure.Valid
  procedureCount : data.procedures.length < 2 ^ 32
  runwayCount : data.runways.length < 2 ^ 32

theorem validFixPosition_iff (lat lon : F32) : validFixPosition lat lon = true ↔
    (F32.isNaN lat = true ∧ F32.isNaN lon = true) ∨
      (F32.isNaN lat = false ∧ F32.isNaN lon = false ∧ F32.fabs lat ≤ F32.ninety ∧ F32.fabs lon ≤ F32.oneEighty) := by
  rw [validFixPosition]
  cases F32.isNaN lat <;> cases F32.isNaN lon
  · simp
  · simp
  · simp
  · simp

namespace CifpCodec

open Decoder Encoder

/-! ## What is decoded is valid -/

theorem valid_deserializeLeg (pool : Text) : Ensures (deserializeLeg pool) ProcedureLeg.Valid := by
  unfold deserializeLeg
  refine Ensures.after fun ident => Ensures.after fun code => Ensures.after fun fix => ?_
  refine Ensures.after fun lat => Ensures.after fun lon => (Ensures.require _ _).bind fun _ position => ?_
  refine Ensures.after fun pathByte => Ensures.after fun pathTerm => Ensures.after fun course => ?_
  refine Ensures.after fun distance => Ensures.after fun altByte => Ensures.after fun altKind => ?_
  refine Ensures.after fun alt1 => Ensures.after fun alt2 => Ensures.after fun rnp => Ensures.after fun turn => ?_
  refine (Ensures.require _ _).bind fun _ turns => Ensures.after fun speed => Ensures.after fun flags => ?_
  refine Ensures.after fun _ => Ensures.pure ⟨(validFixPosition_iff _ _).mp position, ?_⟩
  rw [Bool.or_eq_true, Bool.or_eq_true, beq_iff_eq, beq_iff_eq, beq_iff_eq, or_assoc] at turns
  exact turns

theorem valid_deserializeProcedure (pool : Text) : Ensures (deserializeProcedure pool) Procedure.Valid := by
  unfold deserializeProcedure
  refine Ensures.after fun typeByte => Ensures.after fun type => Ensures.after fun routeType => ?_
  refine Ensures.after fun name => Ensures.after fun transition => Ensures.after fun runway => ?_
  refine Ensures.after fun count => ((valid_deserializeLeg pool).times count.toNat).bind fun legs read => ?_
  exact Ensures.pure ⟨read.2, read.1.trans_lt count.toNat_lt⟩

theorem valid_decodeSegment (pool : Text) : Ensures (decodeSegment pool) CifpData.Valid := by
  unfold decodeSegment
  refine Ensures.after fun procCount => ((valid_deserializeProcedure pool).times _).bind fun procedures read => ?_
  refine Ensures.after fun rwyCount => (Ensures.length_times _ _).bind fun runways counted => ?_
  refine Ensures.after fun _ => Ensures.after fun _ => Ensures.after fun _ => Ensures.pure ?_
  exact ⟨read.2, read.1.trans_lt procCount.toNat_lt, counted.trans_lt rwyCount.toNat_lt⟩

/-! ## Nothing is left over -/

/-- A segment that is decoded has been read whole, and its references followed. -/
theorem consumed_of_decodeSegment {pool : Text} {reading after : Reading} {data : CifpData}
    (ran : decodeSegment pool reading = (.ok data, after)) :
    after.ok = true ∧ after.refsOk = true ∧ after.rest = [] := by
  unfold decodeSegment at ran
  rcases bind_eq_ok ran with ⟨procCount, _, _, ran⟩
  rcases bind_eq_ok ran with ⟨procedures, _, _, ran⟩
  rcases bind_eq_ok ran with ⟨rwyCount, _, _, ran⟩
  rcases bind_eq_ok ran with ⟨runways, last, _, ran⟩
  rcases bind_requireOk ran with ⟨ok, ran⟩
  rcases bind_requireRefs ran with ⟨refsOk, ran⟩
  rcases bind_fuse ran with ⟨nothing, ran⟩
  cases ran
  rw [Reading.remaining, if_pos ok, beq_iff_eq] at nothing
  exact ⟨ok, refsOk, List.eq_nil_of_length_eq_zero nothing⟩

/-! ## Allocations -/

section Allocations

variable {limit : Nat}

theorem within_text (pool : Text) : Within (E := Error) limit (text pool) :=
  GraphCodec.within_stringRef.bind fun ref => GraphCodec.within_resolve pool ref

/-- A vector is sized only when its records fit into the bytes ahead. -/
theorem within_countOf (perRecord : Nat) (why : String) : Within limit (countOf perRecord why) := by
  unfold countOf
  refine ByteReader.within_u32.bind fun count => (Within.requireOk _).bind fun _ => ?_
  refine Within.fuse fun available short fits => ?_
  have small : count.toNat * perRecord ≤ limit :=
    (Nat.mul_le_mul_right perRecord (of_decide_eq_true fits)).trans ((Nat.div_mul_le_self _ _).trans short)
  exact (Within.allocate small).bind fun _ => Within.pure _

theorem within_deserializeLeg (pool : Text) : Within limit (deserializeLeg pool) := by
  unfold deserializeLeg
  refine (within_text pool).bind fun _ => (within_text pool).bind fun _ => (Within.ofExcept _).bind fun _ => ?_
  refine ByteReader.within_u32.bind fun _ => ByteReader.within_u32.bind fun _ => (Within.condition _ _).bind fun _ => ?_
  refine ByteReader.within_u8.bind fun _ => (Within.ofExcept _).bind fun _ => ByteReader.within_u32.bind fun _ => ?_
  refine ByteReader.within_u32.bind fun _ => ByteReader.within_u8.bind fun _ => (Within.ofExcept _).bind fun _ => ?_
  refine ByteReader.within_i32.bind fun _ => ByteReader.within_i32.bind fun _ => ByteReader.within_u16.bind fun _ => ?_
  refine ByteReader.within_u8.bind fun _ => (Within.condition _ _).bind fun _ => ByteReader.within_u16.bind fun _ => ?_
  exact ByteReader.within_u8.bind fun _ => (Within.condition _ _).bind fun _ => Within.pure _

theorem within_deserializeProcedure (pool : Text) : Within limit (deserializeProcedure pool) := by
  unfold deserializeProcedure
  refine ByteReader.within_u8.bind fun _ => (Within.ofExcept _).bind fun _ => ByteReader.within_i32.bind fun _ => ?_
  refine (within_text pool).bind fun _ => (within_text pool).bind fun _ => (within_text pool).bind fun _ => ?_
  exact (within_countOf _ _).bind fun _ => ((within_deserializeLeg pool).times _).bind fun _ => Within.pure _

theorem within_deserializeRunway (pool : Text) : Within limit (deserializeRunway pool) :=
  (within_text pool).bind fun _ => ByteReader.within_u64.bind fun _ => ByteReader.within_u64.bind fun _ =>
    ByteReader.within_i32.bind fun _ => Within.pure _

theorem within_decodeSegment (pool : Text) : Within limit (decodeSegment pool) := by
  unfold decodeSegment
  refine (within_countOf _ _).bind fun _ => ((within_deserializeProcedure pool).times _).bind fun _ => ?_
  refine (within_countOf _ _).bind fun _ => ((within_deserializeRunway pool).times _).bind fun _ => ?_
  refine (Within.requireOk _).bind fun _ => (Within.requireRefs _).bind fun _ => ?_
  exact Within.fuse fun _ _ _ => Within.pure _

end Allocations

/-! ## Written and decoded again -/

theorem reads_enumerator {A : Type} {value : Option A} {found : A} (named : value = some found) (why : String) :
    Reads (enumerator value why) [] found := by
  rw [named]
  exact Reads.ofExcept found

theorem reads_fixOfParts (fix : FixedIdent) : Reads (fixOfParts fix.ident fix.arinc424IcaoCode) [] fix := by
  rw [fixOfParts, FixedIdent.fromParts_self]
  exact Reads.ofExcept fix

/-- The flag byte holds the two flags, and no other bit. -/
theorem legFlags_spec (leg : ProcedureLeg) :
    (legFlags leg &&& ~~~(kLegFlagMapt ||| kLegFlagCourseTrue) == 0) = true ∧
      (legFlags leg &&& kLegFlagMapt != 0) = leg.isMapt ∧
        (legFlags leg &&& kLegFlagCourseTrue != 0) = leg.courseTrue := by
  rw [legFlags]
  cases leg.isMapt <;> cases leg.courseTrue <;> decide

theorem encodes_serializeLeg {leg : ProcedureLeg} (valid : leg.Valid) :
    Encodes (E := Error) (serializeLeg leg) deserializeLeg fun _ result => result = leg := by
  have turns : (leg.turnDir == 0 || leg.turnDir == kTurnLeft || leg.turnDir == kTurnRight) = true := by
    rw [Bool.or_eq_true, Bool.or_eq_true, beq_iff_eq, beq_iff_eq, beq_iff_eq, or_assoc]
    exact valid.turn
  rcases legFlags_spec leg with ⟨defined, mapt, courseTrue⟩
  unfold serializeLeg deserializeLeg
  refine .bindValue (.text _) (.bindValue (.text _) (.silent (reads_fixOfParts _) ?_))
  refine .bindValue (.write (ByteReader.reads_u32 _)) (.bindValue (.write (ByteReader.reads_u32 _)) ?_)
  refine .silent (.require ((validFixPosition_iff _ _).mpr valid.position)) ?_
  refine .bindValue (.write (ByteReader.reads_u8 _)) (.silent (reads_enumerator (PathTerminator.ofByte_toByte _) _) ?_)
  refine .bindValue (.write (ByteReader.reads_u32 _)) (.bindValue (.write (ByteReader.reads_u32 _)) ?_)
  refine .bindValue (.write (ByteReader.reads_u8 _)) (.silent (reads_enumerator (AltConstraintKind.ofByte_toByte _) _) ?_)
  refine .bindValue (.write (ByteReader.reads_i32 _)) (.bindValue (.write (ByteReader.reads_i32 _)) ?_)
  refine .bindValue (.write (ByteReader.reads_u16 _)) (.bindValue (.write (ByteReader.reads_u8 _)) ?_)
  refine .silent (.require turns) (.bindValue (.write (ByteReader.reads_u16 _)) ?_)
  refine .bindValue (.write (ByteReader.reads_u8 _)) (.silent (.require defined) (.done fun _ => ?_))
  rw [mapt, courseTrue]

/-- A count and the records it counts. -/
theorem encodes_counted {B : Type} {count : UInt32} {perRecord size : Nat} {why : String} {next : Encoder Error}
    {rest : UInt32 -> Text -> Decoder Error B} {good : Text -> B -> Prop} (positive : 0 < perRecord)
    (emits : Emits next size) (enough : count.toNat * perRecord ≤ size) (follows : Encodes next (rest count) good) :
    Encodes (write (ByteWriter.u32 count) ++ next) (fun blob => countOf perRecord why >>= fun count => rest count blob)
      good := by
  simp only [countOf, Decoder.bind_assoc, Decoder.pure_bind]
  refine .bindValue (.write (ByteReader.reads_u32 _)) (.silent (.requireOk _) ?_)
  refine .fuse (fun fewer more grows fits => ?_) emits ?_ (.silent (.allocate _) follows)
  · exact decide_eq_true ((of_decide_eq_true fits).trans (Nat.div_le_div_right grows))
  · exact decide_eq_true ((Nat.le_div_iff_mul_le positive).mpr enough)

theorem toNat_ofNat_length {X : Type} {values : List X} (counted : values.length < 2 ^ 32) :
    (UInt32.ofNat values.length).toNat = values.length :=
  UInt32.toNat_ofNat_of_lt counted

theorem encodes_serializeProcedure {procedure : Procedure} (valid : procedure.Valid) :
    Encodes (E := Error) (serializeProcedure procedure) deserializeProcedure fun _ result => result = procedure := by
  have count := toNat_ofNat_length valid.counted
  have legs := Encodes.each fun leg member => encodes_serializeLeg (valid.legs leg member)
  have emits := Emits.each procedure.legs fun leg _ => emits_serializeLeg leg
  rw [List.map_const', List.sum_replicate_nat] at emits
  unfold serializeProcedure deserializeProcedure
  refine .bindValue (.write (ByteReader.reads_u8 _)) (.silent (reads_enumerator (ProcedureType.ofByte_toByte _) _) ?_)
  refine .bindValue (.write (ByteReader.reads_i32 _)) (.bindValue (.text _) (.bindValue (.text _) (.bindValue (.text _) ?_)))
  refine encodes_counted (by decide) (emits.append Emits.done) (by rw [count]; exact Nat.le_refl _) ?_
  rw [count]
  exact .bindValue legs (.done fun _ => rfl)

theorem encodes_serializeRunway (runway : Runway) :
    Encodes (E := Error) (serializeRunway runway) deserializeRunway fun _ result => result = runway := by
  unfold serializeRunway deserializeRunway
  refine .bindValue (.text _) (.bindValue (.write (ByteReader.reads_u64 _)) ?_)
  exact .bindValue (.write (ByteReader.reads_u64 _)) (.bindValue (.write (ByteReader.reads_i32 _)) (.done fun _ => rfl))

/-- The records of a segment, without the checks at its end. -/
def decodeRecords (pool : Text) : Decoder Error CifpData := do
  let procCount ← countOf kProcedureHeaderSize "invalid procedure count"
  let procedures ← times procCount.toNat (deserializeProcedure pool)
  let rwyCount ← countOf kRunwaySize "invalid runway count"
  let runways ← times rwyCount.toNat (deserializeRunway pool)
  pure ⟨procedures, runways⟩

theorem headers_le (procedures : List Procedure) :
    procedures.length * kProcedureHeaderSize ≤ (procedures.map procedureLength).sum := by
  induction procedures with
  | nil => exact Nat.le_refl _
  | cons procedure rest inductionHypothesis =>
      rw [List.length_cons, Nat.succ_mul, List.map_cons, List.sum_cons, procedureLength]
      omega

theorem encodes_records {data : CifpData} (valid : data.Valid) :
    Encodes (E := Error) (serializeSegment data) decodeRecords fun _ result => result = data := by
  have procedureCount := toNat_ofNat_length valid.procedureCount
  have runwayCount := toNat_ofNat_length valid.runwayCount
  have procedures := Encodes.each fun procedure member => encodes_serializeProcedure (valid.procedures procedure member)
  have runways : Encodes (E := Error) (each serializeRunway data.runways)
      (fun blob => times data.runways.length (deserializeRunway blob)) fun _ results => results = data.runways :=
    Encodes.each fun runway _ => encodes_serializeRunway runway
  have procedureEmits := Emits.each data.procedures fun procedure _ => emits_serializeProcedure procedure
  have runwayEmits := Emits.each data.runways fun runway _ => emits_serializeRunway runway
  rw [List.map_const', List.sum_replicate_nat] at runwayEmits
  have runwayPart := runwayEmits.append Emits.done
  have wholeRest := procedureEmits.append
    ((Emits.write (ByteWriter.u32 (UInt32.ofNat data.runways.length))).append runwayPart)
  unfold serializeSegment decodeRecords
  refine encodes_counted (by decide) wholeRest ?_ ?_
  · rw [procedureCount]
    exact (headers_le data.procedures).trans (Nat.le_add_right _ _)
  · rw [procedureCount]
    refine .bindValue procedures (encodes_counted (by decide) runwayPart (by rw [runwayCount]; exact Nat.le_refl _) ?_)
    rw [runwayCount]
    exact .bindValue runways (.done fun _ => rfl)

/-- The checks at the end of a segment. -/
def checkEnd (data : CifpData) : Decoder Error CifpData := do
  requireOk (badSegment (ofString "invalid field or string reference"))
  requireRefs (badSegment (ofString "invalid field or string reference"))
  fuse (fun available => available == 0) (badSegment (ofString "trailing bytes"))
  pure data

theorem decodeSegment_eq (pool : Text) : decodeSegment pool = decodeRecords pool >>= checkEnd := by
  simp only [decodeSegment, decodeRecords, checkEnd, Decoder.bind_assoc, Decoder.pure_bind]

/-- Valid data is decoded from what it is written as, while 32 bits address the pool. -/
theorem deserializeSegment_of_serializeSegment {data : CifpData} (valid : data.Valid) {pool pool' : StringPool}
    {bytes blob : Text} (ran : serializeSegment data pool = .ok (bytes, pool')) (sound : pool.Sound)
    (small : pool'.blob.length < 2 ^ 32) (extended : pool'.blob <+: blob) :
    deserializeSegment bytes blob = .ok data := by
  rcases (encodes_records valid pool bytes pool' ran sound).2.2 small with ⟨result, reads⟩
  cases (reads blob extended).2
  rcases (reads blob extended).1 [] [] with ⟨allocated, decoded⟩
  rw [List.append_nil] at decoded
  rw [deserializeSegment, decodeSegment_eq, bind_of_ok decoded]
  rfl

end CifpCodec
end BravoFinder
