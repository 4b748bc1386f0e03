import BravoFinder.Cache.DetailLookup
import BravoFinder.Cache.SegmentSafety

namespace BravoFinder

/-!
# Listings do not depend on how the data was loaded

A sorted archive lists under an identifier all its records.  What is written of
an archive is decoded to the same records, so the archive a cache gives and the
one a loader gives are sorted lists of the same records, and these agree but for
the sign of a zero.
-/

namespace NavDetailArchive

/-! ### Sorting records without a NaN -/

section Sorting

variable {V K : Type} {key : V -> K} {before : K -> K -> Prop} [IsStrictTotalOrder K before] {less : V -> V -> Bool}

omit [IsStrictTotalOrder K before] in
/-- A sort by a comparison that is that of the keys. -/
theorem insertionSort_eq_sort [DecidableRel before] {entries : List V}
    (keyed : forall first, first ∈ entries -> forall second, second ∈ entries ->
      (less first second = true ↔ before (key first) (key second))) :
    entries.insertionSort (fun a b => less b a = false) = SortedIndex.sort key before entries := by
  have same : SortedIndex.sort id (fun first second : V => less first second = true) entries =
      SortedIndex.sort key before entries :=
    SortedIndex.sort_congr keyed
  rw [← same]
  simp only [SortedIndex.sort, id_eq, Bool.not_eq_true]

theorem sorted_insertionSort {entries : List V}
    (keyed : forall first, first ∈ entries -> forall second, second ∈ entries ->
      (less first second = true ↔ before (key first) (key second))) :
    SortedIndex.Sorted key before (entries.insertionSort fun a b => less b a = false) := by
  classical
  rw [insertionSort_eq_sort keyed]
  exact SortedIndex.sorted_sort entries

/-- Sorted lists of the same records agree in what the key determines. -/
theorem map_eq_of_perm {B : Type} {entries others : List V} {view : V -> B}
    (sorted : SortedIndex.Sorted key before entries) (othersSorted : SortedIndex.Sorted key before others)
    (same : List.Perm entries others)
    (determined : forall first, first ∈ entries -> forall second, second ∈ others -> key first = key second ->
      view first = view second) : entries.map view = others.map view := by
  have keys := SortedIndex.map_key_eq_of_perm sorted othersSorted same
  clear sorted othersSorted same
  induction entries generalizing others with
  | nil =>
      cases others with
      | nil => rfl
      | cons => cases keys
  | cons first rest inductionHypothesis =>
      cases others with
      | nil => cases keys
      | cons second remaining =>
          rw [List.map_cons, List.map_cons, List.cons.injEq] at keys
          have later := inductionHypothesis (fun first member second otherMember => determined first
            (List.mem_cons_of_mem _ member) second (List.mem_cons_of_mem _ otherMember)) keys.2
          rw [List.map_cons, List.map_cons, later,
            determined first List.mem_cons_self second List.mem_cons_self keys.1]

end Sorting

/-! ### Sorted archives -/

/-- An archive as `Finalize` leaves one without a NaN. -/
structure Ordered (archive : NavDetailArchive) : Prop where
  loaded : archive.loaded = true
  keyed : forall entry, entry ∈ archive.navaids -> entry.1 = ⟨entry.2.ident, entry.2.arinc424IcaoCode⟩
  navaidNumbers : forall entry, entry ∈ archive.navaids -> entry.2.NoNaN
  holdNumbers : forall hold, hold ∈ archive.holds -> hold.NoNaN
  navaids : SortedIndex.Sorted navaidKey navaidKeyBefore archive.navaids
  holds : SortedIndex.Sorted holdKey holdKeyBefore archive.holds

variable {archive : NavDetailArchive}

/-- `Finalize` sorts whatever records it is given. -/
theorem ordered_finalize
    (keyed : forall entry, entry ∈ archive.navaids -> entry.1 = ⟨entry.2.ident, entry.2.arinc424IcaoCode⟩)
    (navaidNumbers : forall entry, entry ∈ archive.navaids -> entry.2.NoNaN)
    (holdNumbers : forall hold, hold ∈ archive.holds -> hold.NoNaN) : archive.finalize.Ordered where
  loaded := rfl
  keyed entry member := keyed entry ((List.mem_insertionSort _).mp member)
  navaidNumbers entry member := navaidNumbers entry ((List.mem_insertionSort _).mp member)
  holdNumbers hold member := holdNumbers hold ((List.mem_insertionSort _).mp member)
  navaids := sorted_insertionSort fun first member second other =>
    navaidBefore_iff (navaidNumbers first member) (navaidNumbers second other)
  holds := sorted_insertionSort fun first member second other =>
    holdBefore_iff (holdNumbers first member) (holdNumbers second other)

theorem perm_navaids_finalize (archive : NavDetailArchive) : List.Perm archive.finalize.navaids archive.navaids :=
  List.perm_insertionSort _ _

theorem perm_holds_finalize (archive : NavDetailArchive) : List.Perm archive.finalize.holds archive.holds :=
  List.perm_insertionSort _ _

/-- A listing of navaids is what the archive has under the identifier. -/
theorem Ordered.findNavaids_eq (ordered : archive.Ordered) (ident : Text) :
    archive.findNavaids ident = (archive.navaids.filter fun entry => entry.1.ident == ident).map Prod.snd := by
  have sorted : SortedIndex.Sorted (fun entry : Ident × NavaidDetailInfo => entry.1.ident) (· < ·) archive.navaids :=
    ordered.navaids.imp fun apart step => apart (Prod.lex_iff.mpr (Or.inl step))
  rw [findNavaids, if_pos ordered.loaded,
    BinarySearch.drop_lowerBound (BinarySearch.partitioned_of_sorted sorted ident)]
  exact congrArg (List.map Prod.snd) (SortedIndex.takeWhile_lowerBound sorted ident)

theorem takeWhile_congr {A : Type} {entries : List A} {first second : A -> Bool}
    (same : forall entry, entry ∈ entries -> first entry = second entry) :
    entries.takeWhile first = entries.takeWhile second := by
  induction entries with
  | nil => rfl
  | cons entry rest inductionHypothesis =>
      rw [List.takeWhile_cons, List.takeWhile_cons, same entry List.mem_cons_self,
        inductionHypothesis fun other member => same other (List.mem_cons_of_mem _ member)]

/-- A listing of holds, between the lower and the upper bound, is what the
archive has under the identifier. -/
theorem Ordered.findHolds_eq (ordered : archive.Ordered) (ident : Text) :
    archive.findHolds ident = archive.holds.filter fun hold => hold.fixIdent == ident := by
  have sorted : SortedIndex.Sorted HoldInfo.fixIdent (· < ·) archive.holds :=
    ordered.holds.imp fun apart step => apart (Prod.lex_iff.mpr (Or.inl step))
  have lower := BinarySearch.partitioned_of_sorted sorted ident
  have upper : BinarySearch.Partitioned (fun hold : HoldInfo => !decide (ident < hold.fixIdent))
      (archive.holds.dropWhile fun hold => decide (hold.fixIdent < ident)) := by
    refine (sorted.sublist (List.dropWhile_sublist _)).imp fun {first second} apart notAbove => ?_
    rw [Bool.not_eq_true', decide_eq_false_iff_not] at notAbove ⊢
    exact fun above => notAbove (SortedIndex.before_of_before_of_not above apart)
  rw [findHolds, if_pos ordered.loaded]
  dsimp only
  rw [BinarySearch.drop_lowerBound lower, BinarySearch.take_lowerBound upper,
    ← SortedIndex.takeWhile_lowerBound sorted ident]
  refine takeWhile_congr fun hold member => ?_
  have notBelow := of_decide_eq_false (BinarySearch.not_below_of_mem_dropWhile lower member)
  rw [Bool.eq_iff_iff, Bool.not_eq_true', decide_eq_false_iff_not, beq_iff_eq]
  constructor
  · exact fun notAbove => SortedIndex.eq_of_not_before notBelow notAbove
  · rintro rfl
    exact List.lt_irrefl _

end NavDetailArchive

/-! ### Written and decoded -/

namespace NavDetailCodec

open Decoder Encoder

variable {pool pool' : StringPool} {bytes blob : Text}

/-- The bytes of a reference. -/
def refBytes (ref : StringRef) : Text := ByteWriter.u32 ref.offset ++ ByteWriter.u32 ref.length

theorem encodeNavaid_eq (entry : Ident × NavaidDetailInfo) (pool : StringPool) :
    encodeNavaid entry pool = .ok
      (refBytes (pool.add entry.2.ident).1 ++
        (refBytes ((pool.add entry.2.ident).2.add entry.2.arinc424IcaoCode).1 ++
          (ByteWriter.u8 entry.2.kind.toByte ++ (ByteWriter.i32 entry.2.elevFt ++
            (ByteWriter.i32 entry.2.freqRaw ++ (ByteWriter.u64 entry.2.rangeNm ++
              (ByteWriter.u64 entry.2.heading ++ [])))))),
        ((pool.add entry.2.ident).2.add entry.2.arinc424IcaoCode).2) := rfl

theorem encodeHold_eq (hold : HoldInfo) (pool : StringPool) :
    encodeHold hold pool = .ok
      (refBytes (pool.add hold.fixIdent).1 ++
        (refBytes ((pool.add hold.fixIdent).2.add hold.fixArinc424IcaoCode).1 ++
          (refBytes (((pool.add hold.fixIdent).2.add hold.fixArinc424IcaoCode).2.add hold.airportIcao).1 ++
            (ByteWriter.u64 hold.inboundCourse ++ (ByteWriter.u64 hold.legTimeMin ++
              (ByteWriter.u64 hold.legDistNm ++ (ByteWriter.u8 hold.turnDir ++ (ByteWriter.i32 hold.minAltFt ++
                (ByteWriter.i32 hold.maxAltFt ++ (ByteWriter.i32 hold.speedLimitKt ++ []))))))))),
        (((pool.add hold.fixIdent).2.add hold.fixArinc424IcaoCode).2.add hold.airportIcao).2) := rfl

theorem reads_decodeNavaid {entry : Ident × NavaidDetailInfo}
    (keyed : entry.1 = ⟨entry.2.ident, entry.2.arinc424IcaoCode⟩) {identRef codeRef : StringRef}
    (ident : resolveRef blob identRef = some entry.2.ident)
    (code : resolveRef blob codeRef = some entry.2.arinc424IcaoCode) :
    Reads (decodeNavaid blob) (refBytes identRef ++ (refBytes codeRef ++ (ByteWriter.u8 entry.2.kind.toByte ++
      (ByteWriter.i32 entry.2.elevFt ++ (ByteWriter.i32 entry.2.freqRaw ++ (ByteWriter.u64 entry.2.rangeNm ++
        (ByteWriter.u64 entry.2.heading ++ []))))))) entry := by
  rcases entry with ⟨key, info⟩
  dsimp only at keyed ident code ⊢
  subst keyed
  unfold decodeNavaid
  refine (reads_stringRef identRef).bind ((reads_stringRef codeRef).bind ?_)
  refine (ByteReader.reads_u8 _).bind ?_
  rw [kindOfByte_toByte]
  refine (Reads.ofExcept info.kind).silent ((ByteReader.reads_i32 _).bind ?_)
  refine (ByteReader.reads_i32 _).bind ((ByteReader.reads_u64 _).bind ((ByteReader.reads_u64 _).bind ?_))
  refine (Reads.requireOk _).silent ((reads_resolve ident).silent ((reads_resolve code).silent ?_))
  exact Reads.pure _

theorem reads_decodeHold {hold : HoldInfo} (turn : hold.turnDir = kTurnLeft ∨ hold.turnDir = kTurnRight)
    {identRef codeRef airportRef : StringRef} (ident : resolveRef blob identRef = some hold.fixIdent)
    (code : resolveRef blob codeRef = some hold.fixArinc424IcaoCode)
    (airport : resolveRef blob airportRef = some hold.airportIcao) :
    Reads (decodeHold blob) (refBytes identRef ++ (refBytes codeRef ++ (refBytes airportRef ++
      (ByteWriter.u64 hold.inboundCourse ++ (ByteWriter.u64 hold.legTimeMin ++ (ByteWriter.u64 hold.legDistNm ++
        (ByteWriter.u8 hold.turnDir ++ (ByteWriter.i32 hold.minAltFt ++ (ByteWriter.i32 hold.maxAltFt ++
          (ByteWriter.i32 hold.speedLimitKt ++ [])))))))))) hold := by
  have turns : (hold.turnDir == kTurnLeft || hold.turnDir == kTurnRight) = true := by
    rw [Bool.or_eq_true, beq_iff_eq, beq_iff_eq]
    exact turn
  unfold decodeHold
  refine (reads_stringRef identRef).bind ((reads_stringRef codeRef).bind ((reads_stringRef airportRef).bind ?_))
  refine (ByteReader.reads_u64 _).bind ((ByteReader.reads_u64 _).bind ((ByteReader.reads_u64 _).bind ?_))
  refine (ByteReader.reads_u8 _).bind ((ByteReader.reads_i32 _).bind ((ByteReader.reads_i32 _).bind ?_))
  refine (ByteReader.reads_i32 _).bind ((Reads.requireOk _).silent ((Reads.require turns).silent ?_))
  refine (reads_resolve ident).silent ((reads_resolve code).silent ((reads_resolve airport).silent ?_))
  exact Reads.pure _

theorem resolveRef_of_extended {front : Text} {ref : StringRef} {s : Text} (extended : front <+: blob)
    (resolved : resolveRef front ref = some s) : resolveRef blob ref = some s := by
  rcases extended with ⟨more, rfl⟩
  exact resolveRef_append more resolved

theorem encodes_navaid {entry : Ident × NavaidDetailInfo}
    (keyed : entry.1 = ⟨entry.2.ident, entry.2.arinc424IcaoCode⟩) :
    Encodes (E := Error) (encodeNavaid entry) decodeNavaid fun _ result => result = entry := by
  intro pool bytes pool' ran sound
  rw [encodeNavaid_eq] at ran
  cases ran
  rcases StringPool.add_spec sound rfl with ⟨identSound, identGrows, identResolves⟩
  rcases StringPool.add_spec identSound rfl with ⟨codeSound, codeGrows, codeResolves⟩
  refine ⟨codeSound, identGrows.trans codeGrows, fun small => ⟨entry, fun blob extended => ⟨?_, rfl⟩⟩⟩
  have ident := resolveRef_of_extended (codeGrows.trans extended)
    (identResolves (codeGrows.length_le.trans_lt small))
  exact reads_decodeNavaid keyed ident (resolveRef_of_extended extended (codeResolves small))

theorem encodes_hold {hold : HoldInfo} (turn : hold.turnDir = kTurnLeft ∨ hold.turnDir = kTurnRight) :
    Encodes (E := Error) (encodeHold hold) decodeHold fun _ result => result = hold := by
  intro pool bytes pool' ran sound
  rw [encodeHold_eq] at ran
  cases ran
  rcases StringPool.add_spec sound rfl with ⟨identSound, identGrows, identResolves⟩
  rcases StringPool.add_spec identSound rfl with ⟨codeSound, codeGrows, codeResolves⟩
  rcases StringPool.add_spec codeSound rfl with ⟨airportSound, airportGrows, airportResolves⟩
  refine ⟨airportSound, identGrows.trans (codeGrows.trans airportGrows), fun small => ⟨hold, fun blob extended => ?_⟩⟩
  have codeSmall := airportGrows.length_le.trans_lt small
  have ident := resolveRef_of_extended ((codeGrows.trans airportGrows).trans extended)
    (identResolves (codeGrows.length_le.trans_lt codeSmall))
  have code := resolveRef_of_extended (airportGrows.trans extended) (codeResolves codeSmall)
  exact ⟨reads_decodeHold turn ident code (resolveRef_of_extended extended (airportResolves small)), rfl⟩

theorem emits_encodeNavaid (entry : Ident × NavaidDetailInfo) : Emits (encodeNavaid entry) kNavaidRecordSize :=
  (Emits.ref _).append ((Emits.ref _).append ((Emits.write _).append ((Emits.write _).append
    ((Emits.write _).append ((Emits.write _).append ((Emits.write _).append Emits.done))))))

theorem emits_encodeHold (hold : HoldInfo) : Emits (encodeHold hold) kHoldRecordSize :=
  (Emits.ref _).append ((Emits.ref _).append ((Emits.ref _).append ((Emits.write _).append ((Emits.write _).append
    ((Emits.write _).append ((Emits.write _).append ((Emits.write _).append ((Emits.write _).append
      ((Emits.write _).append Emits.done)))))))))

theorem emits_navaids (navaids : List (Ident × NavaidDetailInfo)) :
    Emits (each encodeNavaid navaids) (navaids.length * kNavaidRecordSize) := by
  have emits := Emits.each navaids fun entry _ => emits_encodeNavaid entry
  rw [List.map_const', List.sum_replicate_nat] at emits
  exact emits

theorem emits_holds (holds : List HoldInfo) : Emits (each encodeHold holds) (holds.length * kHoldRecordSize) := by
  have emits := Emits.each holds fun hold _ => emits_encodeHold hold
  rw [List.map_const', List.sum_replicate_nat] at emits
  exact emits

/-- The records of a section, without the checks at its end. -/
def decodeRecords (pool : Text) : Decoder Error (List (Ident × NavaidDetailInfo) × List HoldInfo) := do
  let navaidCount ← ByteReader.u32
  let holdCount ← ByteReader.u32
  requireOk (bad "truncated nav detail section header")
  fuse (fun available => decide (navaidCount.toNat ≤ available / kNavaidRecordSize))
    (bad "corrupt nav detail section: navaid count exceeds section")
  let navaids ← times navaidCount.toNat (decodeNavaid pool)
  fuse (fun available => decide (holdCount.toNat ≤ available / kHoldRecordSize))
    (bad "corrupt nav detail section: hold count exceeds section")
  let holds ← times holdCount.toNat (decodeHold pool)
  pure (navaids, holds)

/-- The checks at the end of a section. -/
def checkEnd (records : List (Ident × NavaidDetailInfo) × List HoldInfo) : Decoder Error NavDetailArchive := do
  requireRefs (bad "corrupt nav detail section: string reference out of range")
  fuse (fun available => available == 0) (bad "corrupt nav detail section: trailing bytes")
  pure (NavDetailArchive.finalize ⟨records.1, records.2, false⟩)

theorem decodeSection_eq (pool : Text) : decodeSection pool = decodeRecords pool >>= checkEnd := by
  simp only [decodeSection, decodeRecords, checkEnd, Decoder.bind_assoc, Decoder.pure_bind]

/-- What the encoder is given so that it can be decoded. -/
structure Writable (archive : NavDetailArchive) : Prop where
  keyed : forall entry, entry ∈ archive.navaids -> entry.1 = ⟨entry.2.ident, entry.2.arinc424IcaoCode⟩
  turns : forall hold, hold ∈ archive.holds -> hold.turnDir = kTurnLeft ∨ hold.turnDir = kTurnRight
  navaidCount : archive.navaids.length < 2 ^ 32
  holdCount : archive.holds.length < 2 ^ 32

theorem writes_encode (archive : NavDetailArchive) : Writes (encode archive) := by
  have navaid : forall entry, Writes (encodeNavaid entry) := fun entry pool => ⟨_, _, encodeNavaid_eq entry pool⟩
  have hold : forall hold, Writes (encodeHold hold) := fun hold pool => ⟨_, _, encodeHold_eq hold pool⟩
  exact (Writes.write _).append ((Writes.write _).append
    ((Writes.each navaid _).append ((Writes.each hold _).append Writes.done)))

theorem fits_of_le {count size available : Nat} (positive : 0 < size) (enough : count * size ≤ available) :
    decide (count ≤ available / size) = true :=
  decide_eq_true ((Nat.le_div_iff_mul_le positive).mpr enough)

theorem fits_of_fits {count size fewer more : Nat} (grows : fewer ≤ more)
    (fits : decide (count ≤ fewer / size) = true) : decide (count ≤ more / size) = true :=
  decide_eq_true ((of_decide_eq_true fits).trans (Nat.div_le_div_right grows))

theorem encodes_records {archive : NavDetailArchive} (writable : Writable archive) :
    Encodes (E := Error) (encode archive) decodeRecords fun _ result => result = (archive.navaids, archive.holds) := by
  have navaidCount := CifpCodec.toNat_ofNat_length writable.navaidCount
  have holdCount := CifpCodec.toNat_ofNat_length writable.holdCount
  have navaids := Encodes.each fun entry member => encodes_navaid (writable.keyed entry member)
  have holds := Encodes.each fun hold member => encodes_hold (writable.turns hold member)
  have holdPart := (emits_holds archive.holds).append (Emits.done (E := Error))
  have navaidPart := (emits_navaids archive.navaids).append holdPart
  unfold encode decodeRecords
  refine .bindValue (.write (ByteReader.reads_u32 _)) (.bindValue (.write (ByteReader.reads_u32 _)) ?_)
  refine .silent (.requireOk _) (.fuse (fun _ _ => fits_of_fits) navaidPart ?_ ?_)
  · exact fits_of_le (by decide) (by rw [navaidCount]; exact Nat.le_add_right _ _)
  · rw [navaidCount]
    refine .bindValue navaids (.fuse (fun _ _ => fits_of_fits) holdPart ?_ ?_)
    · exact fits_of_le (by decide) (by rw [holdCount]; exact Nat.le_refl _)
    · rw [holdCount]
      exact .bindValue holds (.done fun _ => rfl)

/-- What is written is decoded to a sorted archive of the same records. -/
theorem decode_of_encode {archive : NavDetailArchive} (writable : Writable archive)
    (ran : encode archive pool = .ok (bytes, pool')) (sound : pool.Sound) (small : pool'.blob.length < 2 ^ 32)
    (extended : pool'.blob <+: blob) :
    decode bytes blob = .ok (NavDetailArchive.finalize ⟨archive.navaids, archive.holds, false⟩) := by
  rcases (encodes_records writable pool bytes pool' ran sound).2.2 small with ⟨result, reads⟩
  cases (reads blob extended).2
  rcases (reads blob extended).1 [] [] with ⟨allocated, decoded⟩
  rw [List.append_nil] at decoded
  rw [decode, decodeSection_eq, bind_of_ok decoded]
  rfl

/-- A count of 2^32 is written as zero, and the records are left over. -/
theorem decode_ne_ok_of_wrapped {archive : NavDetailArchive} (navaidCount : archive.navaids.length = 2 ^ 32)
    (noHolds : archive.holds = []) (ran : encode archive pool = .ok (bytes, pool')) (blob : Text)
    (found : NavDetailArchive) : decode bytes blob ≠ .ok found := by
  intro decoded
  have written : UInt32.ofNat archive.navaids.length = 0 := by
    rw [navaidCount]
    decide
  rcases append_eq_ok ran with ⟨_, between, back, started, later, rfl⟩
  cases started
  rcases append_eq_ok later with ⟨_, next, records, started, later, rfl⟩
  cases started
  have length := ((emits_navaids archive.navaids).append ((emits_holds archive.holds).append Emits.done)) _ _ _ later
  rw [written, noHolds] at decoded
  rcases ByteReader.reads_u32 (E := Error) 0 (ByteWriter.u32 (UInt32.ofNat ([] : List HoldInfo).length) ++ records)
    [] with ⟨first, readNavaids⟩
  rcases ByteReader.reads_u32 (E := Error) (UInt32.ofNat ([] : List HoldInfo).length) records first with
    ⟨second, readHolds⟩
  rcases outcome : decodeSection blob ⟨ByteWriter.u32 0 ++
    (ByteWriter.u32 (UInt32.ofNat ([] : List HoldInfo).length) ++ records), true, true, []⟩ with ⟨result, after⟩
  have finished : result = .ok found := by
    rw [← decoded, decode, outcome]
  rw [finished, decodeSection, bind_of_ok readNavaids, bind_of_ok readHolds] at outcome
  rcases bind_requireOk outcome with ⟨-, outcome⟩
  rcases bind_fuse outcome with ⟨-, outcome⟩
  rcases bind_eq_ok outcome with ⟨navaids, afterNavaids, none, outcome⟩
  cases none
  rcases bind_fuse outcome with ⟨-, outcome⟩
  rcases bind_eq_ok outcome with ⟨holds, afterHolds, none, outcome⟩
  cases none
  rcases bind_requireRefs outcome with ⟨-, outcome⟩
  rcases bind_fuse outcome with ⟨nothing, -⟩
  rw [Reading.remaining, if_pos rfl, length, navaidCount, noHolds] at nothing
  exact absurd nothing (by decide)

end NavDetailCodec

/-! ### The same records, however they were loaded -/

/-- Data without a NaN, whose holds turn left or right. -/
structure DetailData.Clean (data : DetailData) : Prop where
  navaids : forall detail, detail ∈ data.navaidDetails -> detail.info.NoNaN
  holds : forall hold, hold ∈ data.holdFixes -> hold.info.NoNaN
  turns : forall hold, hold ∈ data.holdFixes -> hold.turnDir = kTurnLeft ∨ hold.turnDir = kTurnRight

theorem DetailData.Clean.of_perm {data other : DetailData} (clean : data.Clean)
    (navaids : List.Perm other.navaidDetails data.navaidDetails)
    (holds : List.Perm other.holdFixes data.holdFixes) : other.Clean where
  navaids detail member := clean.navaids detail (navaids.mem_iff.mp member)
  holds hold member := clean.holds hold (holds.mem_iff.mp member)
  turns hold member := clean.turns hold (holds.mem_iff.mp member)

namespace NavDetailArchive

variable {data other : DetailData} {first second : NavDetailArchive}

/-- An ordered archive of the records of some data. -/
structure Stores (archive : NavDetailArchive) (data : DetailData) : Prop where
  ordered : archive.Ordered
  navaids : List.Perm archive.navaids (data.navaidDetails.map fun detail => (detail.ident, detail.info))
  holds : List.Perm archive.holds (data.holdFixes.map HoldFix.info)

theorem stores_finalize (clean : data.Clean) {archive : NavDetailArchive}
    (navaids : List.Perm archive.navaids (data.navaidDetails.map fun detail => (detail.ident, detail.info)))
    (holds : List.Perm archive.holds (data.holdFixes.map HoldFix.info)) : archive.finalize.Stores data where
  navaids := (perm_navaids_finalize archive).trans navaids
  holds := (perm_holds_finalize archive).trans holds
  ordered := by
    refine ordered_finalize (fun entry member => ?_) (fun entry member => ?_) fun hold member => ?_
    · rcases List.mem_map.mp (navaids.mem_iff.mp member) with ⟨detail, -, rfl⟩
      rfl
    · rcases List.mem_map.mp (navaids.mem_iff.mp member) with ⟨detail, listed, rfl⟩
      exact clean.navaids detail listed
    · rcases List.mem_map.mp (holds.mem_iff.mp member) with ⟨fix, listed, rfl⟩
      exact clean.holds fix listed

theorem stores_fromData (clean : data.Clean) : (fromData data).Stores data :=
  stores_finalize clean (List.Perm.refl _) (List.Perm.refl _)

theorem Stores.of_perm (stores : first.Stores other) (navaids : List.Perm other.navaidDetails data.navaidDetails)
    (holds : List.Perm other.holdFixes data.holdFixes) : first.Stores data :=
  ⟨stores.ordered, stores.navaids.trans (navaids.map _), stores.holds.trans (holds.map _)⟩

/-- Two archives of the same records list the same navaids ... -/
theorem Stores.findNavaids_eq (stores : first.Stores data) (others : second.Stores data) (ident : Text) :
    (first.findNavaids ident).map NavaidDetailInfo.normal = (second.findNavaids ident).map NavaidDetailInfo.normal := by
  rw [stores.ordered.findNavaids_eq, others.ordered.findNavaids_eq, List.map_map, List.map_map]
  refine map_eq_of_perm (stores.ordered.navaids.filter _) (others.ordered.navaids.filter _)
    ((stores.navaids.trans others.navaids.symm).filter _) fun a member b otherMember same => ?_
  exact normal_eq_of_navaidKey_eq (stores.ordered.keyed a (List.mem_of_mem_filter member))
    (others.ordered.keyed b (List.mem_of_mem_filter otherMember)) same

/-- ... and the same holds. -/
theorem Stores.findHolds_eq (stores : first.Stores data) (others : second.Stores data) (ident : Text) :
    (first.findHolds ident).map HoldInfo.normal = (second.findHolds ident).map HoldInfo.normal := by
  rw [stores.ordered.findHolds_eq, others.ordered.findHolds_eq]
  exact map_eq_of_perm (stores.ordered.holds.filter _) (others.ordered.holds.filter _)
    ((stores.holds.trans others.holds.symm).filter _) fun a _ b _ same => normal_eq_of_holdKey_eq same

/-- A navaid with the key it is stored under. -/
def entryOf (info : NavaidDetailInfo) : Ident × NavaidDetailInfo :=
  (⟨info.ident, info.arinc424IcaoCode⟩, info)

/-- Every navaid with exactly this identifier, duplicates kept, in order. -/
structure ListsNavaids (data : DetailData) (ident : Text) (listing : List NavaidDetailInfo) : Prop where
  perm : List.Perm listing ((data.navaidDetails.map NavaidDetail.info).filter fun info => info.ident == ident)
  ordered : listing.Pairwise fun a b => ¬ navaidBefore (entryOf b) (entryOf a) = true

/-- Every hold with exactly this identifier, duplicates kept, in order. -/
structure ListsHolds (data : DetailData) (ident : Text) (listing : List HoldInfo) : Prop where
  perm : List.Perm listing ((data.holdFixes.map HoldFix.info).filter fun hold => hold.fixIdent == ident)
  ordered : listing.Pairwise fun a b => ¬ holdBefore b a = true

theorem Stores.listsNavaids (stores : first.Stores data) (ident : Text) :
    ListsNavaids data ident (first.findNavaids ident) := by
  rw [stores.ordered.findNavaids_eq]
  constructor
  · refine ((stores.navaids.filter _).map _).trans ?_
    rw [List.filter_map, List.filter_map, List.map_map]
    exact List.Perm.refl _
  · rw [List.pairwise_map]
    have sorted := stores.ordered.navaids.filter fun entry => entry.1.ident == ident
    refine sorted.imp_of_mem fun {a b} member otherMember apart before => ?_
    have listed := List.mem_of_mem_filter member
    have otherListed := List.mem_of_mem_filter otherMember
    have here : entryOf a.2 = a := by rw [entryOf, ← stores.ordered.keyed a listed]
    have there : entryOf b.2 = b := by rw [entryOf, ← stores.ordered.keyed b otherListed]
    rw [here, there] at before
    exact apart ((navaidBefore_iff (stores.ordered.navaidNumbers b otherListed)
      (stores.ordered.navaidNumbers a listed)).mp before)

theorem Stores.listsHolds (stores : first.Stores data) (ident : Text) :
    ListsHolds data ident (first.findHolds ident) := by
  rw [stores.ordered.findHolds_eq]
  refine ⟨stores.holds.filter _, ?_⟩
  have sorted := stores.ordered.holds.filter fun hold => hold.fixIdent == ident
  refine sorted.imp_of_mem fun {a b} member otherMember apart before => ?_
  have listed := List.mem_of_mem_filter member
  have otherListed := List.mem_of_mem_filter otherMember
  exact apart ((holdBefore_iff (stores.ordered.holdNumbers b otherListed)
    (stores.ordered.holdNumbers a listed)).mp before)

theorem Stores.writable (stores : first.Stores data) (clean : data.Clean)
    (navaidCount : data.navaidDetails.length < 2 ^ 32) (holdCount : data.holdFixes.length < 2 ^ 32) :
    NavDetailCodec.Writable first where
  keyed := stores.ordered.keyed
  turns hold member := by
    rcases List.mem_map.mp (stores.holds.mem_iff.mp member) with ⟨fix, listed, rfl⟩
    exact clean.turns fix listed
  navaidCount := by
    rw [stores.navaids.length_eq, List.length_map]
    exact navaidCount
  holdCount := by
    rw [stores.holds.length_eq, List.length_map]
    exact holdCount

/-- Archives that list the same under every identifier, all of it and in order. -/
def ListsAlike (data : DetailData) (archive reference : NavDetailArchive) : Prop :=
  forall ident, ListsNavaids data ident (archive.findNavaids ident) ∧
    (archive.findNavaids ident).map NavaidDetailInfo.normal =
      (reference.findNavaids ident).map NavaidDetailInfo.normal ∧
    ListsHolds data ident (archive.findHolds ident) ∧
    (archive.findHolds ident).map HoldInfo.normal = (reference.findHolds ident).map HoldInfo.normal

theorem Stores.listsAlike (stores : first.Stores data) (others : second.Stores data) : ListsAlike data first second :=
  fun ident => ⟨stores.listsNavaids ident, stores.findNavaids_eq others ident, stores.listsHolds ident,
    stores.findHolds_eq others ident⟩

end NavDetailArchive

open NavDetailArchive in
/-- Listings are the same from the data, whatever sort is used, from its records
in another order, and from what is written of it and read back, while 32 bits
count the records and address the pool. -/
theorem findDetails_independent {data : DetailData} (clean : data.Clean) :
    ListsAlike data (fromData data) (fromData data) ∧
    (forall archive : NavDetailArchive, archive.Stores data -> ListsAlike data archive (fromData data)) ∧
    (forall other : DetailData, List.Perm other.navaidDetails data.navaidDetails ->
      List.Perm other.holdFixes data.holdFixes -> ListsAlike data (fromData other) (fromData data)) ∧
    (forall pool : StringPool, pool.Sound -> exists bytes pool',
      NavDetailCodec.encode (fromData data) pool = .ok (bytes, pool') ∧
        (data.navaidDetails.length < 2 ^ 32 -> data.holdFixes.length < 2 ^ 32 -> pool'.blob.length < 2 ^ 32 ->
          forall blob, pool'.blob <+: blob -> exists archive, NavDetailCodec.decode bytes blob = .ok archive ∧
            ListsAlike data archive (fromData data))) := by
  have stores := stores_fromData clean
  refine ⟨stores.listsAlike stores, fun archive same => same.listsAlike stores, fun other navaids holds => ?_,
    fun pool sound => ?_⟩
  · exact ((stores_fromData (clean.of_perm navaids holds)).of_perm navaids holds).listsAlike stores
  · rcases NavDetailCodec.writes_encode (fromData data) pool with ⟨bytes, pool', encoded⟩
    refine ⟨bytes, pool', encoded, fun navaidCount holdCount small blob extended => ?_⟩
    have writable := stores.writable clean navaidCount holdCount
    refine ⟨_, NavDetailCodec.decode_of_encode writable encoded sound small extended, ?_⟩
    exact (stores_finalize clean stores.navaids stores.holds).listsAlike stores

/-- A VOR. -/
def seattleVor : NavaidDetail := ⟨⟨[83, 69, 65], [75, 49]⟩, .kVor, 354, 11680, 0, 0⟩

theorem numbers_seattleVor : seattleVor.info.NoNaN := ⟨by decide, by decide⟩

/-- A beacon of the same name. -/
def seattleNdb : NavaidDetail := ⟨⟨[83, 69, 65], [75, 49]⟩, .kNdb, 354, 362, 0x4049000000000000, 0⟩

/-- A hold at the VOR, of one minute. -/
def seattleHold (turnDir : UInt8) : HoldFix :=
  ⟨⟨[83, 69, 65], [75, 49]⟩, [], 0x4066800000000000, 0x3FF0000000000000, 0, turnDir, 5000, 0, 0⟩

/-- The VOR is listed twice, and the fix has a hold to either side. -/
def seattleDetails : DetailData :=
  ⟨[seattleVor, seattleNdb, seattleVor], [seattleHold kTurnRight, seattleHold kTurnLeft]⟩

theorem clean_seattleDetails : seattleDetails.Clean where
  navaids detail member := by
    have each : forall detail, detail ∈ seattleDetails.navaidDetails -> detail = seattleVor ∨ detail = seattleNdb := by
      decide
    rcases each detail member with rfl | rfl
    · exact numbers_seattleVor
    · exact ⟨by decide, by decide⟩
  holds hold member := by
    rcases List.mem_pair.mp member with rfl | rfl <;> exact ⟨by decide, by decide, by decide⟩
  turns := by decide

theorem findDetails_independent_twice :
    NavDetailArchive.ListsAlike seattleDetails
        (NavDetailArchive.fromData
          ⟨[seattleNdb, seattleVor, seattleVor], [seattleHold kTurnLeft, seattleHold kTurnRight]⟩)
        (NavDetailArchive.fromData seattleDetails) ∧
      exists bytes pool' archive,
        NavDetailCodec.encode (NavDetailArchive.fromData seattleDetails) StringPool.empty = .ok (bytes, pool') ∧
          NavDetailCodec.decode bytes pool'.blob = .ok archive ∧
            NavDetailArchive.ListsAlike seattleDetails archive (NavDetailArchive.fromData seattleDetails) := by
  rcases findDetails_independent clean_seattleDetails with ⟨_, _, permuted, readBack⟩
  refine ⟨permuted _ (by decide) (by decide), ?_⟩
  rcases readBack StringPool.empty StringPool.sound_empty with ⟨bytes, pool', encoded, reads⟩
  have names : (NavDetailCodec.encode (NavDetailArchive.fromData seattleDetails) StringPool.empty).map
      (fun written => written.2.blob.length) = .ok 5 := by
    decide +kernel
  rw [encoded] at names
  have short : pool'.blob.length = 5 := Except.ok.inj names
  rcases reads (by decide) (by decide) (by omega) pool'.blob (List.prefix_refl _) with ⟨archive, decoded, alike⟩
  exact ⟨bytes, pool', archive, encoded, decoded, alike⟩

/-! ### Counts that do not fit -/

/-- So many records that their count is written as zero are not read back. -/
theorem not_findDetails_independent : ¬ forall data : DetailData, data.Clean -> exists bytes pool' archive,
    NavDetailCodec.encode (NavDetailArchive.fromData data) StringPool.empty = .ok (bytes, pool') ∧
      NavDetailCodec.decode bytes pool'.blob = .ok archive ∧
        NavDetailArchive.ListsAlike data archive (NavDetailArchive.fromData data) := by
  intro always
  have clean : DetailData.Clean ⟨List.replicate (2 ^ 32) seattleVor, []⟩ := by
    refine ⟨fun detail member => ?_, fun _ member => absurd member List.not_mem_nil,
      fun _ member => absurd member List.not_mem_nil⟩
    rw [List.eq_of_mem_replicate member]
    exact numbers_seattleVor
  have stores := NavDetailArchive.stores_fromData clean
  have navaidCount := stores.navaids.length_eq
  rw [List.length_map, List.length_replicate] at navaidCount
  have noHolds := List.perm_nil.mp stores.holds
  rcases always _ clean with ⟨bytes, pool', archive, encoded, decoded, -⟩
  exact NavDetailCodec.decode_ne_ok_of_wrapped navaidCount noHolds encoded pool'.blob archive decoded

end BravoFinder
