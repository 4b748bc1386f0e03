import BravoFinder.Cache.GraphCodec

namespace BravoFinder

/-!
# What an accepted graph section guarantees

The search reads a decoded snapshot without bounds checks.  `SafeSnapshot` is
what it relies on.  Every accepted section gives a safe snapshot, is consumed
to its last byte, and made the decoder allocate no more than the bytes present.
-/

namespace GraphCodec

open Decoder Encoder

/-- What the unchecked accessors rely on. -/
structure SafeSnapshot (snapshot : GraphSnapshot) : Prop where
  idents : snapshot.idents.length = snapshot.coords.length
  kinds : snapshot.kinds.length = snapshot.coords.length
  hasOutbound : snapshot.hasOutbound.length = snapshot.coords.length
  hasInbound : snapshot.hasInbound.length = snapshot.coords.length
  offsets : snapshot.offsets.length = snapshot.coords.length + 1
  offsets_first : snapshot.offsets.head? = some 0
  offsets_monotone : snapshot.offsets.IsChain (· ≤ ·)
  offsets_last : exists last, snapshot.offsets.getLast? = some last ∧ last.toInt = snapshot.edges.length
  row : forall u, u < snapshot.coords.length -> exists first last, snapshot.offsets[u]? = some first ∧
    snapshot.offsets[u + 1]? = some last ∧ 0 ≤ first.toInt ∧ first.toInt ≤ last.toInt ∧
      last.toInt ≤ snapshot.edges.length
  target : forall edge, edge ∈ snapshot.edges ->
    0 ≤ edge.toVertex.toInt ∧ edge.toVertex.toInt < snapshot.coords.length
  airway : forall edge, edge ∈ snapshot.edges -> edge.airwayId.toNat < snapshot.airwayNames.length
  level : forall edge, edge ∈ snapshot.edges -> exists level : AirwayLevel, edge.level = level.toByte
  kind : forall byte, byte ∈ snapshot.kinds ->
    exists kind : WaypointKind, byte = kind.toByte ∧ kind.isGraphVertexKind = true
  firstAirport : 0 ≤ snapshot.firstAirportVertex.toInt ∧
    snapshot.firstAirportVertex.toInt ≤ snapshot.coords.length
  elevations : (snapshot.airportElevationsFt.length : Int) =
    snapshot.coords.length - snapshot.firstAirportVertex.toInt
  caps : forall fixed, fixed ∈ snapshot.idents ->
    fixed.ident.length ≤ FixedIdent.kIdentCap ∧ fixed.arinc424IcaoCode.length ≤ FixedIdent.kArinc424IcaoCodeCap

/-! ## The shape of the records -/

/-- The arrays of the records have the lengths of their counts. -/
structure Shaped (records : Records) : Prop where
  vertices : records.vertices.length = records.vertexCount.toNat
  elevations : records.elevations.length =
    (records.vertexCount - records.firstAirportVertex.toUInt32).toNat
  offsets : records.offsets.length = records.vertexCount.toNat + 1
  edges : records.edges.length = records.edgeCount.toNat
  airways : records.airways.length = records.airwayCount.toNat
  firstAirport : 0 ≤ records.firstAirportVertex ∧
    records.firstAirportVertex.toUInt32 ≤ records.vertexCount

theorem shaped_decodeBody {v e airwayCount msaCount : UInt32} {first : Int32} (nonneg : 0 ≤ first)
    (inRange : first.toUInt32 ≤ v) : Ensures (decodeBody v e airwayCount msaCount first) Shaped := by
  unfold decodeBody
  refine Ensures.after fun _ => Ensures.after fun _ => Ensures.after fun _ => ?_
  refine (Ensures.length_times _ _).bind fun vertices verticesLength => ?_
  refine Ensures.after fun _ => (Ensures.length_times _ _).bind fun elevations elevationsLength => ?_
  refine Ensures.after fun _ => (ByteReader.length_i32Span _).bind fun offsets offsetsLength => ?_
  refine Ensures.after fun _ => (Ensures.length_times _ _).bind fun edges edgesLength => ?_
  refine Ensures.after fun _ => (Ensures.length_times _ _).bind fun airways airwaysLength => ?_
  refine Ensures.after fun _ => Ensures.after fun cells => Ensures.after fun _ => Ensures.after fun sectors => ?_
  exact Ensures.pure ⟨verticesLength, elevationsLength, offsetsLength, edgesLength, airwaysLength,
    nonneg, inRange⟩

theorem shaped_decodeRecords : Ensures decodeRecords Shaped := by
  unfold decodeRecords
  refine Ensures.after fun v => Ensures.after fun e => Ensures.after fun airwayCount => ?_
  refine Ensures.after fun msaCount => Ensures.after fun first => Ensures.after fun _ => ?_
  refine (Ensures.require _ _).bind fun _ holds => ?_
  rw [Bool.not_eq_true', decide_eq_false_iff_not, not_or] at holds
  exact shaped_decodeBody (Int32.not_lt.mp holds.1) (UInt32.not_lt.mp holds.2)

/-! ## What the semantic checks establish -/

/-- An edge that passes its checks. -/
structure EdgeFits (vertexCount airwayCount : UInt32) (edge : PackedEdge) : Prop where
  nonneg : 0 ≤ edge.toVertex
  target : edge.toVertex.toUInt32 < vertexCount
  airway : edge.airwayId.toUInt32 < airwayCount
  level : edge.level ≤ AirwayLevel.kBoth.toByte

theorem edgeFits_of_edgeFault {vertexCount airwayCount : UInt32} {edge : PackedEdge}
    (passes : edgeFault vertexCount airwayCount edge = none) : EdgeFits vertexCount airwayCount edge := by
  unfold edgeFault at passes
  split at passes
  · cases passes
  rename_i target
  split at passes
  · cases passes
  rename_i airway
  split at passes
  · cases passes
  rename_i level
  rw [not_or] at target
  exact ⟨Int32.not_lt.mp target.1, UInt32.not_le.mp target.2, UInt32.not_le.mp airway, UInt8.not_lt.mp level⟩

/-- Records that pass every check. -/
structure Faultless (records : Records) : Prop where
  first : records.offsets.head? = some 0
  last : records.offsets.getLast? = some records.edgeCount.toInt32
  monotone : records.offsets.IsChain (· ≤ ·)
  edge : forall edge, edge ∈ records.edges -> EdgeFits records.vertexCount records.airwayCount edge
  kind : forall vertex, vertex ∈ records.vertices -> isVertexKindByte vertex.kind = true

theorem faultless_of_fault {records : Records} (passes : fault records = none) : Faultless records := by
  unfold fault at passes
  split at passes
  · cases passes
  rename_i span
  rw [not_or, not_not, not_not] at span
  split at passes
  · cases passes
  rename_i monotone
  rw [not_not] at monotone
  split at passes
  · cases passes
  rename_i edges
  split at passes
  · rename_i kinds
    exact ⟨span.1, span.2, monotone,
      fun edge member => edgeFits_of_edgeFault (List.findSome?_eq_none_iff.mp edges edge member),
      fun vertex member => List.all_eq_true.mp kinds vertex member⟩
  · cases passes

theorem exists_level {byte : UInt8} (small : byte ≤ AirwayLevel.kBoth.toByte) :
    exists level : AirwayLevel, byte = level.toByte := by
  have bound : byte.toNat ≤ 2 := small
  have cases : byte.toNat = 0 ∨ byte.toNat = 1 ∨ byte.toNat = 2 := by omega
  rcases cases with zero | one | two
  · exact ⟨.kLow, UInt8.toNat_inj.mp zero⟩
  · exact ⟨.kHigh, UInt8.toNat_inj.mp one⟩
  · exact ⟨.kBoth, UInt8.toNat_inj.mp two⟩

theorem exists_kind {byte : UInt8} (vertexKind : isVertexKindByte byte = true) :
    exists kind : WaypointKind, byte = kind.toByte ∧ kind.isGraphVertexKind = true := by
  simp only [isVertexKindByte, Bool.and_eq_true, decide_eq_true_eq, bne_iff_ne, ne_eq] at vertexKind
  rcases vertexKind with ⟨⟨small, notOther⟩, notIlsDme⟩
  have bound : byte.toNat ≤ 5 := small
  have isNotOther : byte.toNat ≠ 4 := fun same => notOther (UInt8.toNat_inj.mp same)
  have isNotIlsDme : byte.toNat ≠ 5 := fun same => notIlsDme (UInt8.toNat_inj.mp same)
  have cases : byte.toNat = 0 ∨ byte.toNat = 1 ∨ byte.toNat = 2 ∨ byte.toNat = 3 := by omega
  rcases cases with zero | one | two | three
  · exact ⟨.kFix, UInt8.toNat_inj.mp zero, rfl⟩
  · exact ⟨.kVor, UInt8.toNat_inj.mp one, rfl⟩
  · exact ⟨.kNdb, UInt8.toNat_inj.mp two, rfl⟩
  · exact ⟨.kDme, UInt8.toNat_inj.mp three, rfl⟩

/-! ## The strings of the records -/

theorem length_resolveIdents (pool : Text) (i : Nat) (vertices : List VertexRecord) :
    Ensures (resolveIdents pool i vertices) fun idents => idents.length = vertices.length := by
  induction vertices generalizing i with
  | nil => exact Ensures.pure rfl
  | cons vertex rest inductionHypothesis =>
      rw [resolveIdents]
      refine Ensures.after fun id => Ensures.after fun code => ?_
      cases FixedIdent.fromParts id code with
      | error error => exact Ensures.refuse _
      | ok fixed =>
          refine (inductionHypothesis (i + 1)).bind fun others length => Ensures.pure ?_
          rw [List.length_cons, List.length_cons, length]

theorem length_resolveEach (pool : Text) (refs : List StringRef) :
    Ensures (resolveEach pool refs) fun strings => strings.length = refs.length := by
  induction refs with
  | nil => exact Ensures.pure rfl
  | cons ref rest inductionHypothesis =>
      rw [resolveEach]
      refine Ensures.after fun s => inductionHypothesis.bind fun others length => Ensures.pure ?_
      rw [List.length_cons, List.length_cons, length]

/-! ## Offsets -/

theorem le_of_chain {offsets : List Int32} (monotone : offsets.IsChain (· ≤ ·)) {i j : Nat} {first last : Int32}
    (atFirst : offsets[i]? = some first) (atLast : offsets[j]? = some last) (ordered : i ≤ j) :
    first.toInt ≤ last.toInt := by
  have transitive : Trans (α := Int32) (β := Int32) (γ := Int32) (· ≤ ·) (· ≤ ·) (· ≤ ·) :=
    ⟨fun {_ _ _} low high => Int32.le_trans low high⟩
  have pairwise : offsets.Pairwise (· ≤ ·) := List.isChain_iff_pairwise.mp monotone
  rcases List.getElem?_eq_some_iff.mp atFirst with ⟨iLt, rfl⟩
  rcases List.getElem?_eq_some_iff.mp atLast with ⟨jLt, rfl⟩
  rcases Nat.lt_or_eq_of_le ordered with before | same
  · exact Int32.le_iff_toInt_le.mp (List.pairwise_iff_getElem.mp pairwise i j iLt jLt before)
  · subst same
    exact le_refl _

theorem head?_eq_getElem? {offsets : List Int32} {first : Int32} (starts : offsets.head? = some first) :
    offsets[0]? = some first := by
  rw [← starts, List.head?_eq_getElem?]

/-- The chain starts at zero, so the edge count is not read as negative. -/
theorem toInt_edgeCount {records : Records} (faultless : Faultless records) :
    records.edgeCount.toInt32.toInt = records.edgeCount.toNat := by
  have last : records.offsets[records.offsets.length - 1]? = some records.edgeCount.toInt32 := by
    rw [← List.getLast?_eq_getElem?, faultless.last]
  have nonneg : (0 : Int32).toInt ≤ records.edgeCount.toInt32.toInt :=
    le_of_chain faultless.monotone (head?_eq_getElem? faultless.first) last (Nat.zero_le _)
  rw [← toNat_toUInt32_of_nonneg nonneg]
  rfl

/-! ## The snapshot -/

theorem safe_assemble {pool : Text} {records : Records} (shaped : Shaped records)
    (faultless : Faultless records) : Ensures (assemble pool records) SafeSnapshot := by
  unfold assemble
  refine Ensures.after fun _ => (length_resolveIdents _ _ _).bind fun idents identsLength => ?_
  refine Ensures.after fun _ => (length_resolveEach _ _).bind fun airways airwaysLength => ?_
  refine Ensures.after fun _ => Ensures.after fun msa => Ensures.after fun _ => Ensures.pure ?_
  have count : (records.vertices.map VertexRecord.coord).length = records.vertexCount.toNat := by
    rw [List.length_map, shaped.vertices]
  have firstNonneg : 0 ≤ records.firstAirportVertex.toInt := Int32.le_iff_toInt_le.mp shaped.firstAirport.1
  have firstValue := toNat_toUInt32_of_nonneg firstNonneg
  have firstLe := UInt32.le_iff_toNat_le.mp shaped.firstAirport.2
  have lastIndex : records.offsets[records.vertexCount.toNat]? = some records.edgeCount.toInt32 := by
    rw [← faultless.last, List.getLast?_eq_getElem?, shaped.offsets, Nat.add_sub_cancel]
  have lastValue : records.edgeCount.toInt32.toInt = records.edges.length := by
    rw [toInt_edgeCount faultless, shaped.edges]
  constructor
  case idents => rw [identsLength, List.length_map]
  case kinds => rw [List.length_map, List.length_map]
  case hasOutbound => rw [List.length_map, List.length_map]
  case hasInbound => rw [List.length_map, List.length_map]
  case offsets => rw [count, shaped.offsets]
  case offsets_first => exact faultless.first
  case offsets_monotone => exact faultless.monotone
  case offsets_last => exact ⟨_, faultless.last, lastValue⟩
  case row =>
    intro u inRange
    rw [count] at inRange
    have uLt : u < records.offsets.length := by rw [shaped.offsets]; omega
    have nextLt : u + 1 < records.offsets.length := by rw [shaped.offsets]; omega
    refine ⟨_, _, List.getElem?_eq_getElem uLt, List.getElem?_eq_getElem nextLt, ?_, ?_, ?_⟩
    · exact le_of_chain faultless.monotone (head?_eq_getElem? faultless.first)
        (List.getElem?_eq_getElem uLt) (Nat.zero_le _)
    · exact le_of_chain faultless.monotone (List.getElem?_eq_getElem uLt)
        (List.getElem?_eq_getElem nextLt) (Nat.le_succ _)
    · rw [← lastValue]
      exact le_of_chain faultless.monotone (List.getElem?_eq_getElem nextLt) lastIndex inRange
  case target =>
    intro edge member
    have fits := faultless.edge edge member
    have nonneg : 0 ≤ edge.toVertex.toInt := Int32.le_iff_toInt_le.mp fits.nonneg
    have below := UInt32.lt_iff_toNat_lt.mp fits.target
    have value := toNat_toUInt32_of_nonneg nonneg
    rw [count]
    omega
  case airway =>
    intro edge member
    have below := UInt32.lt_iff_toNat_lt.mp (faultless.edge edge member).airway
    rw [UInt16.toNat_toUInt32] at below
    rw [airwaysLength, shaped.airways]
    exact below
  case level => exact fun edge member => exists_level (faultless.edge edge member).level
  case kind =>
    intro byte member
    rcases List.mem_map.mp member with ⟨vertex, vertexMember, rfl⟩
    exact exists_kind (faultless.kind vertex vertexMember)
  case firstAirport =>
    dsimp only
    rw [count]
    omega
  case elevations =>
    dsimp only
    rw [shaped.elevations, count, UInt32.toNat_sub_of_le _ _ shaped.firstAirport.2]
    omega
  case caps => exact fun fixed _ => ⟨fixed.ident_length, fixed.arinc424IcaoCode_length⟩

theorem safe_decodeSection (pool : Text) : Ensures (decodeSection pool) SafeSnapshot := by
  unfold decodeSection
  refine shaped_decodeRecords.bind fun records shaped => Ensures.after fun _ => Ensures.after fun _ => ?_
  split
  · exact Ensures.refuse _
  · rename_i passes
    exact safe_assemble shaped (faultless_of_fault passes)

/-! ## Nothing is left over -/

theorem le_div_of_le {count fewer more size : Nat} (grows : fewer ≤ more) (fits : count ≤ fewer / size) :
    count ≤ more / size :=
  Nat.le_trans fits (Nat.div_le_div_right grows)

theorem countsFit_mono {v e airwayCount msaCount airportCount : UInt32} (fewer more : Nat) (grows : fewer ≤ more)
    (fits : countsFit v e airwayCount msaCount airportCount fewer = true) :
    countsFit v e airwayCount msaCount airportCount more = true := by
  simp only [countsFit, Bool.and_eq_true, decide_eq_true_eq] at fits ⊢
  rcases fits with ⟨⟨⟨⟨vertices, airports⟩, edges⟩, airways⟩, msa⟩
  exact ⟨⟨⟨⟨le_div_of_le grows vertices, le_div_of_le grows airports⟩, le_div_of_le grows edges⟩,
    le_div_of_le grows airways⟩, le_div_of_le grows msa⟩

theorem decide_le_mono {count fewer more : Nat} (grows : fewer ≤ more) (fits : decide (count ≤ fewer) = true) :
    decide (count ≤ more) = true :=
  decide_eq_true (Nat.le_trans (of_decide_eq_true fits) grows)

theorem exact_stringRef : Exact (E := Error) stringRef :=
  ByteReader.exact_u32.bind fun _ => ByteReader.exact_u32.bind fun _ => Exact.pure _

theorem exact_decodeVertex : Exact decodeVertex :=
  ByteReader.exact_u64.bind fun _ => ByteReader.exact_u64.bind fun _ => exact_stringRef.bind fun _ =>
    exact_stringRef.bind fun _ => ByteReader.exact_u8.bind fun _ => ByteReader.exact_u8.bind fun _ => Exact.pure _

theorem exact_decodeEdge : Exact decodeEdge :=
  ByteReader.exact_i32.bind fun _ => ByteReader.exact_u32.bind fun _ => ByteReader.exact_u16.bind fun _ =>
    ByteReader.exact_i16.bind fun _ => ByteReader.exact_i16.bind fun _ => ByteReader.exact_u8.bind fun _ =>
      Exact.pure _

theorem exact_decodeArc : Exact decodeArc :=
  ByteReader.exact_i32.bind fun _ => ByteReader.exact_i32.bind fun _ => ByteReader.exact_i32.bind fun _ =>
    Exact.pure _

theorem exact_decodeSector : Exact decodeSector := by
  refine exact_stringRef.bind fun _ => exact_stringRef.bind fun _ => exact_stringRef.bind fun _ => ?_
  refine ByteReader.exact_u32.bind fun arcCount => (Exact.requireOk _).bind fun _ => ?_
  refine (Exact.fuse _ fun fewer more grows fits => ?_).bind fun _ => ?_
  · exact decide_eq_true (le_div_of_le grows (of_decide_eq_true fits))
  · exact (Exact.allocate _).bind fun _ => (exact_decodeArc.times _).bind fun _ => Exact.pure _

theorem exact_decodeBody (v e airwayCount msaCount : UInt32) (first : Int32) :
    Exact (decodeBody v e airwayCount msaCount first) := by
  unfold decodeBody
  refine (Exact.fuse _ countsFit_mono).bind fun _ => ?_
  refine (Exact.fuse _ fun _ _ grows fits => decide_le_mono grows fits).bind fun _ => ?_
  refine (Exact.allocate _).bind fun _ => (exact_decodeVertex.times _).bind fun _ => ?_
  refine (Exact.allocate _).bind fun _ => (ByteReader.exact_i32.times _).bind fun _ => ?_
  refine (Exact.allocate _).bind fun _ => (ByteReader.exact_i32Span _).bind fun _ => ?_
  refine (Exact.allocate _).bind fun _ => (exact_decodeEdge.times _).bind fun _ => ?_
  refine (Exact.allocate _).bind fun _ => (exact_stringRef.times _).bind fun _ => ?_
  refine (Exact.allocate _).bind fun _ => (ByteReader.exact_i16Span _).bind fun _ => ?_
  exact (Exact.allocate _).bind fun _ => (exact_decodeSector.times _).bind fun _ => Exact.pure _

theorem exact_decodeRecords : Exact decodeRecords := by
  refine ByteReader.exact_u32.bind fun v => ByteReader.exact_u32.bind fun e => ?_
  refine ByteReader.exact_u32.bind fun airwayCount => ByteReader.exact_u32.bind fun msaCount => ?_
  refine ByteReader.exact_u32.bind fun first => (Exact.requireOk _).bind fun _ => ?_
  exact (Exact.require _ _).bind fun _ => exact_decodeBody _ _ _ _ _

/-- An accepted section: its records take up all of it. -/
theorem records_of_decode {body pool : Text} {snapshot : GraphSnapshot}
    (accepted : (decode body pool).1 = .ok snapshot) :
    exists records allocated refsOk,
      decodeRecords ⟨body, true, true, []⟩ = (.ok records, ⟨[], true, refsOk, allocated⟩) := by
  have ran : decodeSection pool ⟨body, true, true, []⟩ =
      (.ok snapshot, (decodeSection pool ⟨body, true, true, []⟩).2) := Prod.ext accepted rfl
  rcases bind_eq_ok ran with ⟨records, after, started, finished⟩
  rcases bind_requireOk finished with ⟨ok, rest⟩
  rcases bind_fuse rest with ⟨nothing, _⟩
  rcases after with ⟨left, _, refsOk, allocated⟩
  cases ok
  rw [Reading.remaining, if_pos rfl, beq_iff_eq, List.length_eq_zero_iff] at nothing
  exact ⟨records, allocated, refsOk, nothing ▸ started⟩

theorem eq_nil_of_accepted {body extra pool : Text} {first second : GraphSnapshot}
    (accepted : (decode body pool).1 = .ok first) (longer : (decode (body ++ extra) pool).1 = .ok second) :
    extra = [] := by
  rcases records_of_decode accepted with ⟨records, allocated, refsOk, started⟩
  rcases records_of_decode longer with ⟨others, _, _, startedLonger⟩
  rcases exact_decodeRecords _ _ _ started rfl with ⟨_, bytes, consumed, same⟩
  rcases same extra true [] (Nat.zero_le _) with ⟨refs, sizes, again⟩
  rw [List.append_nil] at consumed
  simp only at consumed
  rw [← consumed, startedLonger] at again
  exact (congrArg Reading.rest (Prod.mk.inj again).2).symm

/-! ## Allocation -/

/-- Counts whose arrays fit in so many bytes. -/
structure Bounded (limit : Nat) (records : Records) : Prop where
  vertices : records.vertexCount.toNat * kVertexRecordSize ≤ limit
  airways : records.airwayCount.toNat * kAirwayRefSize ≤ limit
  sectors : records.sectors.length * kMsaHeaderSize ≤ limit

section Allocation

variable {limit : Nat}

theorem within_stringRef : Within (E := Error) limit stringRef :=
  ByteReader.within_u32.bind fun _ => ByteReader.within_u32.bind fun _ => Within.pure _

theorem within_decodeVertex : Within limit decodeVertex :=
  ByteReader.within_u64.bind fun _ => ByteReader.within_u64.bind fun _ => within_stringRef.bind fun _ =>
    within_stringRef.bind fun _ => ByteReader.within_u8.bind fun _ => ByteReader.within_u8.bind fun _ =>
      Within.pure _

theorem within_decodeEdge : Within limit decodeEdge :=
  ByteReader.within_i32.bind fun _ => ByteReader.within_u32.bind fun _ => ByteReader.within_u16.bind fun _ =>
    ByteReader.within_i16.bind fun _ => ByteReader.within_i16.bind fun _ => ByteReader.within_u8.bind fun _ =>
      Within.pure _

theorem within_decodeArc : Within limit decodeArc :=
  ByteReader.within_i32.bind fun _ => ByteReader.within_i32.bind fun _ => ByteReader.within_i32.bind fun _ =>
    Within.pure _

theorem within_decodeSector : Within limit decodeSector := by
  refine within_stringRef.bind fun _ => within_stringRef.bind fun _ => within_stringRef.bind fun _ => ?_
  refine ByteReader.within_u32.bind fun arcCount => (Within.requireOk _).bind fun _ => ?_
  refine Within.fuse fun available short fits => ?_
  have arcs : arcCount.toNat * kMsaArcSize ≤ limit :=
    Nat.le_trans ((Nat.le_div_iff_mul_le (by decide)).mp (of_decide_eq_true fits)) short
  exact (Within.allocate arcs).bind fun _ => (within_decodeArc.times _).bind fun _ => Within.pure _

/-- What the combined fuse bounds. -/
theorem le_of_minBodyBytes {v e airwayCount msaCount airportCount : UInt32} {available : Nat}
    (fits : decide (minBodyBytes v e airwayCount msaCount airportCount ≤ available) = true) :
    v.toNat * kVertexRecordSize ≤ available ∧ airportCount.toNat * kAirportRecordSize ≤ available ∧
      (v.toNat + 1) * 4 ≤ available ∧ e.toNat * kEdgeRecordSize ≤ available ∧
      airwayCount.toNat * kAirwayRefSize ≤ available ∧ kMoraCells * 2 ≤ available ∧
      msaCount.toNat * kMsaHeaderSize ≤ available := by
  have total := of_decide_eq_true fits
  simp only [minBodyBytes, kVertexRecordSize, kAirportRecordSize, kEdgeRecordSize, kAirwayRefSize,
    kMsaHeaderSize, kMoraCells] at total ⊢
  omega

theorem within_decodeBody (v e airwayCount msaCount : UInt32) (first : Int32) :
    Within limit (decodeBody v e airwayCount msaCount first) := by
  unfold decodeBody
  refine Within.fuse fun _ _ _ => Within.fuse fun available short fits => ?_
  rcases le_of_minBodyBytes fits with ⟨vertices, airports, offsets, edges, airways, cells, sectors⟩
  refine (Within.allocate (Nat.le_trans vertices short)).bind fun _ => ?_
  refine (within_decodeVertex.times _).bind fun _ => ?_
  refine (Within.allocate (Nat.le_trans airports short)).bind fun _ => ?_
  refine (ByteReader.within_i32.times _).bind fun _ => ?_
  refine (Within.allocate (Nat.le_trans offsets short)).bind fun _ => ?_
  refine (ByteReader.within_i32Span _).bind fun _ => ?_
  refine (Within.allocate (Nat.le_trans edges short)).bind fun _ => ?_
  refine (within_decodeEdge.times _).bind fun _ => ?_
  refine (Within.allocate (Nat.le_trans airways short)).bind fun _ => ?_
  refine (within_stringRef.times _).bind fun _ => ?_
  refine (Within.allocate (Nat.le_trans cells short)).bind fun _ => ?_
  refine (ByteReader.within_i16Span _).bind fun _ => ?_
  refine (Within.allocate (Nat.le_trans sectors short)).bind fun _ => ?_
  exact (within_decodeSector.times _).bind fun _ => Within.pure _

theorem within_decodeRecords : Within limit decodeRecords := by
  refine ByteReader.within_u32.bind fun v => ByteReader.within_u32.bind fun e => ?_
  refine ByteReader.within_u32.bind fun airwayCount => ByteReader.within_u32.bind fun msaCount => ?_
  refine ByteReader.within_u32.bind fun first => (Within.requireOk _).bind fun _ => ?_
  exact Within.require fun _ => within_decodeBody _ _ _ _ _

theorem bounded_decodeBody (v e airwayCount msaCount : UInt32) (first : Int32) :
    Yields limit (decodeBody v e airwayCount msaCount first) (Bounded limit) := by
  unfold decodeBody
  refine Yields.fuse fun _ _ _ => Yields.fuse fun available short fits => Yields.of_ensures ?_
  rcases le_of_minBodyBytes fits with ⟨vertices, -, -, -, airways, -, sectors⟩
  refine Ensures.after fun _ => Ensures.after fun _ => Ensures.after fun _ => Ensures.after fun _ => ?_
  refine Ensures.after fun _ => Ensures.after fun _ => Ensures.after fun _ => Ensures.after fun _ => ?_
  refine Ensures.after fun _ => Ensures.after fun _ => Ensures.after fun _ => Ensures.after fun _ => ?_
  refine Ensures.after fun _ => (Ensures.length_times _ _).bind fun read readLength => Ensures.pure ?_
  exact ⟨Nat.le_trans vertices short, Nat.le_trans airways short,
    readLength.symm ▸ Nat.le_trans sectors short⟩

theorem bounded_decodeRecords : Yields limit decodeRecords (Bounded limit) := by
  refine .after ByteReader.within_u32 fun v => .after ByteReader.within_u32 fun e => ?_
  refine .after ByteReader.within_u32 fun airwayCount => .after ByteReader.within_u32 fun msaCount => ?_
  refine .after ByteReader.within_u32 fun first => .after (Within.requireOk _) fun _ => ?_
  exact .after (Within.condition _ _) fun _ => bounded_decodeBody _ _ _ _ _

theorem within_resolve (pool : Text) (ref : StringRef) : Within (E := Error) limit (resolve pool ref) := by
  unfold resolve
  split
  · exact Within.dangling.bind fun _ => Within.pure _
  · exact Within.pure _

theorem within_resolveIdents (pool : Text) (i : Nat) (vertices : List VertexRecord) :
    Within limit (resolveIdents pool i vertices) := by
  induction vertices generalizing i with
  | nil => exact Within.pure _
  | cons vertex rest inductionHypothesis =>
      rw [resolveIdents]
      refine (within_resolve _ _).bind fun id => (within_resolve _ _).bind fun code => ?_
      cases FixedIdent.fromParts id code with
      | error error => exact Within.refuse _
      | ok fixed => exact (inductionHypothesis (i + 1)).bind fun _ => Within.pure _

theorem within_resolveEach (pool : Text) (refs : List StringRef) : Within limit (resolveEach pool refs) := by
  induction refs with
  | nil => exact Within.pure _
  | cons ref rest inductionHypothesis =>
      rw [resolveEach]
      exact (within_resolve _ _).bind fun _ => inductionHypothesis.bind fun _ => Within.pure _

theorem within_resolveSectors (pool : Text) (sectors : List SectorRecord) :
    Within limit (resolveSectors pool sectors) := by
  induction sectors with
  | nil => exact Within.pure _
  | cons sector rest inductionHypothesis =>
      rw [resolveSectors]
      exact (within_resolve _ _).bind fun _ => (within_resolve _ _).bind fun _ =>
        (within_resolve _ _).bind fun _ => inductionHypothesis.bind fun _ => Within.pure _

theorem within_assemble (pool : Text) {records : Records} (bounded : Bounded limit records) :
    Within limit (assemble pool records) := by
  unfold assemble
  refine (Within.allocate bounded.vertices).bind fun _ => (within_resolveIdents _ _ _).bind fun _ => ?_
  refine (Within.allocate bounded.airways).bind fun _ => (within_resolveEach _ _).bind fun _ => ?_
  refine (Within.allocate bounded.sectors).bind fun _ => (within_resolveSectors _ _).bind fun _ => ?_
  exact (Within.requireRefs _).bind fun _ => Within.pure _

theorem within_decodeSection (pool : Text) : Within limit (decodeSection pool) := by
  unfold decodeSection
  refine within_decodeRecords.bind_of bounded_decodeRecords fun records bounded => ?_
  refine (Within.requireOk _).bind fun _ => Within.fuse fun _ _ _ => ?_
  split
  · exact Within.refuse _
  · exact within_assemble pool bounded

end Allocation

/-- What decoding guarantees for one section and pool. -/
structure SafelyDecoded (body pool : Text) : Prop where
  safe : forall snapshot, (decode body pool).1 = .ok snapshot -> SafeSnapshot snapshot
  exactLength : forall snapshot extra other, (decode body pool).1 = .ok snapshot ->
    (decode (body ++ extra) pool).1 = .ok other -> extra = []
  allocated : forall size, size ∈ (decode body pool).2 -> size ≤ body.length

/-- No section is accepted into a snapshot that the unchecked accessors would
read out of bounds. -/
theorem decode_safe (body pool : Text) : SafelyDecoded body pool where
  safe snapshot accepted := safe_decodeSection pool ⟨body, true, true, []⟩ snapshot
    (decodeSection pool ⟨body, true, true, []⟩).2 (Prod.ext accepted rfl)
  exactLength _ _ _ accepted longer := eq_nil_of_accepted accepted longer
  allocated := by
    rcases within_decodeSection pool ⟨body, true, true, []⟩ (Nat.le_refl _) with ⟨_, sizes, recorded, small⟩
    intro size member
    have recordedSize : size ∈ [] ++ sizes := recorded ▸ member
    exact small size recordedSize

end GraphCodec
end BravoFinder
