import BravoFinder.Cache.DetailListing
import BravoFinder.Cache.GraphDecode
import Mathlib.Data.List.Forall2

namespace BravoFinder

/-!
# The graph section is read as it was written

A section is decoded in two passes: its records first, with references in place
of strings, and the strings once the records have passed their checks.  What the
encoder accepts, the decoder accepts, and gives back but for the flags of the
vertices, which come back as zero or one.
-/

namespace Encoder

variable {E A B D X : Type}

open Decoder

/-! ## What an accepted value has passed -/

theorem of_check_eq_ok {condition : Bool} {error : E} {pool : StringPool} {outcome : List UInt8 × StringPool}
    (ran : check condition error pool = .ok outcome) : condition = true := by
  unfold check at ran
  split at ran
  · assumption
  · cases ran

/-- Every step of an encoder that succeeds has succeeded. -/
theorem of_steps_eq_ok {encoders : List (Encoder E)} {pool : StringPool} {outcome : List UInt8 × StringPool}
    (ran : steps encoders pool = .ok outcome) {encoder : Encoder E} (member : encoder ∈ encoders) :
    exists before after, encoder before = .ok after := by
  induction encoders generalizing pool outcome with
  | nil => cases member
  | cons first rest inductionHypothesis =>
      rcases append_eq_ok ran with ⟨_, between, _, started, finished, -⟩
      rcases List.mem_cons.mp member with rfl | later
      · exact ⟨pool, _, started⟩
      · exact inductionHypothesis finished later

theorem of_each_eq_ok {step : X -> Encoder E} {values : List X} {pool : StringPool}
    {outcome : List UInt8 × StringPool} (ran : each step values pool = .ok outcome) {x : X} (member : x ∈ values) :
    exists before after, step x before = .ok after := by
  induction values generalizing pool outcome with
  | nil => cases member
  | cons first rest inductionHypothesis =>
      rcases append_eq_ok ran with ⟨_, between, _, started, finished, -⟩
      rcases List.mem_cons.mp member with rfl | later
      · exact ⟨pool, _, started⟩
      · exact inductionHypothesis finished later

/-! ## Records with references -/

namespace Encodes

variable {first next : Encoder E} {good : Text -> B -> Prop}

/-- What follows may rely on what the first part gives. -/
theorem bind [Nonempty A] {decoder : Text -> Decoder D A} {rest : A -> Text -> Decoder D B}
    {starts : Text -> A -> Prop} (encodes : Encodes first decoder starts)
    (follows : forall value, Encodes next (rest value) fun blob result => starts blob value -> good blob result) :
    Encodes (first ++ next) (fun blob => decoder blob >>= fun value => rest value blob) good := by
  intro pool bytes pool' ran sound
  rcases append_eq_ok ran with ⟨front, between, back, started, finished, rfl⟩
  rcases encodes pool front between started sound with ⟨betweenSound, toBetween, firstReads⟩
  have later (value : A) := follows value between back pool' finished betweenSound
  rcases later (Classical.arbitrary A) with ⟨sound', toEnd, -⟩
  refine ⟨sound', toBetween.trans toEnd, fun small => ?_⟩
  rcases firstReads (Nat.lt_of_le_of_lt toEnd.length_le small) with ⟨found, reads⟩
  rcases (later found).2.2 small with ⟨result, lastReads⟩
  refine ⟨result, fun blob extended => ?_⟩
  rcases reads blob (toEnd.trans extended) with ⟨front, holds⟩
  rcases lastReads blob extended with ⟨back, implied⟩
  exact ⟨front.bind back, implied holds⟩

/-- A condition that the encoder checks is known from there on. -/
theorem check {condition : Bool} {error : E} {decoder : Text -> Decoder D B}
    (follows : condition = true -> Encodes next decoder good) :
    Encodes (Encoder.check condition error ++ next) decoder good := by
  intro pool bytes pool' ran sound
  rcases append_eq_ok ran with ⟨front, between, back, started, finished, rfl⟩
  have holds := of_check_eq_ok started
  rw [Encoder.check, if_pos holds] at started
  cases started
  exact follows holds pool back pool' finished sound

/-- A reference resolves to the string it was written for. -/
theorem ref (s : Text) : Encodes (E := E) (D := D) (Encoder.ref s) (fun _ => stringRef) fun blob found =>
    resolveRef blob found = some s := by
  intro pool written pool' ran sound
  cases ran
  rcases StringPool.add_spec sound rfl with ⟨sound', grows, resolves⟩
  refine ⟨sound', grows, fun small => ⟨_, fun blob extended => ⟨reads_stringRef _, ?_⟩⟩⟩
  rcases extended with ⟨more, rfl⟩
  exact resolveRef_append more (resolves small)

/-- Records one after the other, each of which stands for its value. -/
theorem eachRelated [Nonempty A] {step : X -> Encoder E} {values : List X} {decoder : Text -> Decoder D A}
    {related : Text -> X -> A -> Prop}
    (records : forall x, x ∈ values -> Encodes (step x) decoder fun blob record => related blob x record) :
    Encodes (Encoder.each step values) (fun blob => Decoder.times values.length (decoder blob))
      fun blob found => List.Forall₂ (related blob) values found := by
  induction values with
  | nil => exact done fun _ => .nil
  | cons x rest inductionHypothesis =>
      have others := inductionHypothesis fun other member => records other (List.mem_cons_of_mem _ member)
      exact bind (records x List.mem_cons_self) fun found =>
        others.map (List.cons found) fun blob more related holds => .cons holds related

/-- An encoder that writes these bytes and leaves the pool alone. -/
theorem written {encoder : Encoder E} {bytes : List UInt8} {decoder : Decoder D B} {value : B}
    (writes : forall pool outcome, encoder pool = .ok outcome -> outcome = (bytes, pool))
    (reads : Reads decoder bytes value) : Encodes encoder (fun _ => decoder) fun _ result => result = value := by
  intro pool front pool' ran sound
  cases writes pool _ ran
  exact ⟨sound, List.prefix_rfl, fun _ => ⟨value, fun _ _ => ⟨reads, rfl⟩⟩⟩

/-- Fields of one width, without checks. -/
theorem fields {record : X -> List UInt8} {values : List X} {decoder : Decoder D B} {value : B}
    (reads : Reads decoder (values.flatMap record) value) :
    Encodes (E := E) (Encoder.each (fun x => Encoder.write (record x)) values) (fun _ => decoder)
      fun _ result => result = value := by
  refine written (fun pool outcome ran => ?_) reads
  rw [each_write] at ran
  exact (Except.ok.inj ran).symm

end Encodes

theorem Writes.check {condition : Bool} (error : E) (holds : condition = true) :
    Writes (Encoder.check condition error) := fun pool => ⟨[], pool, if_pos holds⟩

theorem Writes.records {step : X -> Encoder E} {values : List X}
    (all : forall x, x ∈ values -> Writes (step x)) : Writes (Encoder.each step values) := by
  induction values with
  | nil => exact Writes.done
  | cons x rest inductionHypothesis =>
      rw [List.forall_mem_cons] at all
      exact all.1.append (inductionHypothesis all.2)

end Encoder

namespace GraphCodec

open Decoder Encoder

/-! ## The records of a snapshot -/

/-- What the encoder demands of a snapshot. -/
structure Encodable (snapshot : GraphSnapshot) : Prop where
  airwayCount : snapshot.airwayNames.length ≤ 65535
  offsets_length : snapshot.offsets.length = snapshot.coords.length + 1
  idents_length : snapshot.idents.length = snapshot.coords.length
  hasOutbound_length : snapshot.hasOutbound.length = snapshot.coords.length
  hasInbound_length : snapshot.hasInbound.length = snapshot.coords.length
  kinds_length : snapshot.kinds.length = snapshot.coords.length
  first_nonneg : 0 ≤ snapshot.firstAirportVertex
  first_le : snapshot.firstAirportVertex.toUInt32.toNat ≤ snapshot.coords.length
  elevations_length : snapshot.airportElevationsFt.length =
    snapshot.coords.length - snapshot.firstAirportVertex.toUInt32.toNat
  kinds : forall kind, kind ∈ snapshot.kinds -> isVertexKindByte kind = true
  offsets_first : snapshot.offsets.head? = some 0
  offsets_monotone : snapshot.offsets.IsChain (· ≤ ·)
  offsets_last : snapshot.offsets.getLast? = some (Int32.ofNat snapshot.edges.length)
  edges : forall edge, edge ∈ snapshot.edges -> 0 ≤ edge.toVertex ∧
    edge.toVertex.toUInt32.toNat < snapshot.coords.length ∧
    edge.airwayId.toNat < snapshot.airwayNames.length ∧ edge.level ≤ AirwayLevel.kBoth.toByte

namespace Encodable

variable {snapshot : GraphSnapshot}

theorem length_vertices (encodable : Encodable snapshot) : (vertices snapshot).length = snapshot.coords.length := by
  have idents := encodable.idents_length
  have hasOutbound := encodable.hasOutbound_length
  have hasInbound := encodable.hasInbound_length
  have kinds := encodable.kinds_length
  simp only [vertices, List.length_zipWith, List.length_zip]
  omega

/-- One attribute of all vertices. -/
theorem map_vertices {B : Type} {view : Vertex -> B} {values : List B} (encodable : Encodable snapshot)
    (length : values.length = snapshot.coords.length)
    (same : forall i (inVertices : i < (vertices snapshot).length) (inValues : i < values.length),
      view ((vertices snapshot)[i]) = values[i]) : (vertices snapshot).map view = values := by
  apply List.ext_getElem
  · rw [List.length_map, encodable.length_vertices, length]
  · intro i inMap inValues
    rw [List.length_map] at inMap
    rw [List.getElem_map]
    exact same i inMap inValues

theorem map_coord (encodable : Encodable snapshot) : (vertices snapshot).map Vertex.coord = snapshot.coords :=
  encodable.map_vertices rfl fun _ _ _ => by simp only [vertices, List.getElem_zipWith, List.getElem_zip]

theorem map_ident (encodable : Encodable snapshot) : (vertices snapshot).map Vertex.ident = snapshot.idents :=
  encodable.map_vertices encodable.idents_length fun _ _ _ => by
    simp only [vertices, List.getElem_zipWith, List.getElem_zip]

theorem map_hasOutbound (encodable : Encodable snapshot) :
    (vertices snapshot).map Vertex.hasOutbound = snapshot.hasOutbound :=
  encodable.map_vertices encodable.hasOutbound_length fun _ _ _ => by
    simp only [vertices, List.getElem_zipWith, List.getElem_zip]

theorem map_hasInbound (encodable : Encodable snapshot) :
    (vertices snapshot).map Vertex.hasInbound = snapshot.hasInbound :=
  encodable.map_vertices encodable.hasInbound_length fun _ _ _ => by
    simp only [vertices, List.getElem_zipWith, List.getElem_zip]

/-- The loop over the offsets starts from zero. -/
theorem chain_zero (encodable : Encodable snapshot) : (0 :: snapshot.offsets).IsChain (· ≤ ·) := by
  rcases List.head?_eq_some_iff.mp encodable.offsets_first with ⟨rest, starts⟩
  have chain := encodable.offsets_monotone
  rw [starts] at chain ⊢
  exact .cons_cons (Int32.le_refl 0) chain

theorem map_kind (encodable : Encodable snapshot) : (vertices snapshot).map Vertex.kind = snapshot.kinds :=
  encodable.map_vertices encodable.kinds_length fun _ _ _ => by
    simp only [vertices, List.getElem_zipWith, List.getElem_zip]

end Encodable

/-- The offsets as they are written, and what the loop has checked. -/
theorem encodeOffsets_eq_ok {previous : Int32} {offsets : List Int32} {pool : StringPool}
    {outcome : List UInt8 × StringPool} (ran : encodeOffsets previous offsets pool = .ok outcome) :
    outcome = (offsets.flatMap ByteWriter.i32, pool) ∧ (previous :: offsets).IsChain (· ≤ ·) := by
  induction offsets generalizing previous outcome with
  | nil =>
      cases ran
      exact ⟨rfl, .singleton _⟩
  | cons offset rest inductionHypothesis =>
      rcases append_eq_ok ran with ⟨_, _, back, checked, finished, split⟩
      have ordered := of_check_eq_ok checked
      rw [check, if_pos ordered] at checked
      cases checked
      rcases append_eq_ok finished with ⟨_, _, _, wrote, last, written⟩
      cases wrote
      rcases append_eq_ok last with ⟨_, _, _, followed, done, joined⟩
      cases done
      rcases inductionHypothesis followed with ⟨same, chain⟩
      cases same
      refine ⟨?_, .cons_cons ?_ chain⟩
      · rw [List.append_nil] at joined
        rw [← Prod.eta outcome, split, written, joined]
        rfl
      · rw [Bool.not_eq_true', decide_eq_false_iff_not] at ordered
        exact Int32.not_lt.mp ordered

theorem encodeOffsets_of_chain {previous : Int32} {offsets : List Int32}
    (chain : (previous :: offsets).IsChain (· ≤ ·)) (pool : StringPool) :
    encodeOffsets previous offsets pool = .ok (offsets.flatMap ByteWriter.i32, pool) := by
  induction offsets generalizing previous with
  | nil => rfl
  | cons offset rest inductionHypothesis =>
      rcases List.isChain_cons_cons.mp chain with ⟨ordered, chainRest⟩
      have passes : (!decide (offset < previous)) = true := by
        rw [Bool.not_eq_true', decide_eq_false_iff_not]
        exact Int32.not_lt.mpr ordered
      have checked : check (E := Error) (!decide (offset < previous))
          (serializationError "CSR offsets must be non-decreasing") pool = .ok ([], pool) := by
        rw [check, if_pos passes]
      have followed := append_of_ok (inductionHypothesis chainRest) (rfl : done (E := Error) pool = .ok ([], pool))
      have wrote : write (E := Error) (ByteWriter.i32 offset) pool = .ok (ByteWriter.i32 offset, pool) := rfl
      have whole := append_of_ok checked (append_of_ok wrote followed)
      rw [List.append_nil] at whole
      exact whole

/-- Everything the encoder accepts has what it demands. -/
theorem encodable_of_encode {snapshot : GraphSnapshot} {pool : StringPool} {outcome : List UInt8 × StringPool}
    (ran : encode snapshot pool = .ok outcome) : Encodable snapshot := by
  rcases of_steps_eq_ok ran (List.mem_of_getElem? (i := 0) rfl) with ⟨_, _, airways⟩
  rcases of_steps_eq_ok ran (List.mem_of_getElem? (i := 1) rfl) with ⟨_, _, sizes⟩
  rcases of_steps_eq_ok ran (List.mem_of_getElem? (i := 2) rfl) with ⟨_, _, airports⟩
  rcases of_steps_eq_ok ran (List.mem_of_getElem? (i := 8) rfl) with ⟨_, _, wroteVertices⟩
  rcases of_steps_eq_ok ran (List.mem_of_getElem? (i := 10) rfl) with ⟨_, _, first⟩
  rcases of_steps_eq_ok ran (List.mem_of_getElem? (i := 11) rfl) with ⟨_, _, wroteOffsets⟩
  rcases of_steps_eq_ok ran (List.mem_of_getElem? (i := 12) rfl) with ⟨_, _, last⟩
  rcases of_steps_eq_ok ran (List.mem_of_getElem? (i := 13) rfl) with ⟨_, _, wroteEdges⟩
  have airwayCount := of_check_eq_ok airways
  have lengths := of_check_eq_ok sizes
  have airportRange := of_check_eq_ok airports
  rw [Bool.not_eq_true', decide_eq_false_iff_not, not_lt] at airwayCount
  simp only [Bool.and_eq_true, beq_iff_eq] at lengths
  rw [Bool.not_eq_true', decide_eq_false_iff_not, not_or, not_or, not_not, not_lt] at airportRange
  rcases lengths with ⟨⟨⟨⟨offsets, idents⟩, hasOutbound⟩, hasInbound⟩, kinds⟩
  rcases airportRange with ⟨nonneg, within, elevations⟩
  have starts := of_check_eq_ok first
  have ends := of_check_eq_ok last
  rw [beq_iff_eq] at starts ends
  constructor
  case airwayCount => exact airwayCount
  case offsets_length => exact offsets
  case idents_length => exact idents
  case hasOutbound_length => exact hasOutbound
  case hasInbound_length => exact hasInbound
  case kinds_length => exact kinds
  case first_nonneg => exact Int32.not_lt.mp nonneg
  case first_le => exact within
  case elevations_length => exact elevations
  case offsets_first => exact starts
  case offsets_monotone => exact (encodeOffsets_eq_ok wroteOffsets).2.tail
  case offsets_last => exact ends
  case kinds =>
    intro kind member
    rcases List.mem_iff_getElem.mp member with ⟨i, inKinds, rfl⟩
    have inVertices : i < (vertices snapshot).length := by
      simp only [vertices, List.length_zipWith, List.length_zip]
      omega
    have here : (vertices snapshot)[i].kind = snapshot.kinds[i] := by
      simp only [vertices, List.getElem_zipWith, List.getElem_zip]
    rcases of_each_eq_ok wroteVertices (List.getElem_mem inVertices) with ⟨_, _, wrote⟩
    rcases of_steps_eq_ok wrote (List.mem_of_getElem? (i := 5) rfl) with ⟨_, _, checked⟩
    rw [← here]
    exact of_check_eq_ok checked
  case edges =>
    intro edge member
    rcases of_each_eq_ok wroteEdges member with ⟨_, _, wrote⟩
    rcases of_steps_eq_ok wrote (List.mem_of_getElem? (i := 0) rfl) with ⟨_, _, target⟩
    rcases of_steps_eq_ok wrote (List.mem_of_getElem? (i := 1) rfl) with ⟨_, _, airway⟩
    rcases of_steps_eq_ok wrote (List.mem_of_getElem? (i := 2) rfl) with ⟨_, _, level⟩
    have targetFits := of_check_eq_ok target
    have airwayFits := of_check_eq_ok airway
    have levelFits := of_check_eq_ok level
    rw [Bool.not_eq_true', decide_eq_false_iff_not, not_or, not_le] at targetFits
    rw [Bool.not_eq_true', decide_eq_false_iff_not, not_le] at airwayFits
    rw [Bool.not_eq_true', decide_eq_false_iff_not] at levelFits
    exact ⟨Int32.not_lt.mp targetFits.1, targetFits.2, airwayFits, UInt8.not_lt.mp levelFits⟩

/-- The encoder demands nothing else. -/
theorem writes_encode {snapshot : GraphSnapshot} (encodable : Encodable snapshot) : Writes (encode snapshot) := by
  have vertex : forall vertex, vertex ∈ vertices snapshot -> Writes (encodeVertex vertex) := by
    intro vertex member
    have kind : isVertexKindByte vertex.kind = true := by
      refine encodable.kinds _ ?_
      rw [← encodable.map_kind]
      exact List.mem_map_of_mem member
    exact (Writes.write _).append ((Writes.write _).append ((Writes.ref _).append ((Writes.ref _).append
      ((Writes.write _).append ((Writes.check _ kind).append ((Writes.write _).append Writes.done))))))
  have edge : forall edge, edge ∈ snapshot.edges ->
      Writes (encodeEdge snapshot.coords.length snapshot.airwayNames.length edge) := by
    intro edge member
    rcases encodable.edges edge member with ⟨nonneg, target, airway, level⟩
    refine (Writes.check _ ?_).append ((Writes.check _ ?_).append ((Writes.check _ ?_).append ((Writes.write _).append
      ((Writes.write _).append ((Writes.write _).append ((Writes.write _).append ((Writes.write _).append
        ((Writes.write _).append Writes.done))))))))
    · rw [Bool.not_eq_true', decide_eq_false_iff_not, not_or, not_le]
      exact ⟨Int32.not_lt.mpr nonneg, target⟩
    · rw [Bool.not_eq_true', decide_eq_false_iff_not, not_le]
      exact airway
    · rw [Bool.not_eq_true', decide_eq_false_iff_not]
      exact UInt8.not_lt.mpr level
  have sector (sector : MsaSector) : Writes (encodeSector sector) := by
    refine (Writes.ref _).append ((Writes.ref _).append ((Writes.ref _).append ((Writes.write _).append
      ((Writes.each (fun arc => ?_) _).append Writes.done))))
    exact (Writes.write _).append ((Writes.write _).append ((Writes.write _).append Writes.done))
  have offsets : Writes (encodeOffsets 0 snapshot.offsets) := fun pool =>
    ⟨_, pool, encodeOffsets_of_chain encodable.chain_zero pool⟩
  refine (Writes.check _ ?_).append ((Writes.check _ ?_).append ((Writes.check _ ?_).append ((Writes.write _).append
    ((Writes.write _).append ((Writes.write _).append ((Writes.write _).append ((Writes.write _).append
    ((Writes.records vertex).append ((Writes.each (fun _ => Writes.write _) _).append ((Writes.check _ ?_).append
    (offsets.append ((Writes.check _ ?_).append ((Writes.records edge).append ((Writes.each Writes.ref _).append
    ((Writes.each (fun _ => Writes.write _) _).append ((Writes.each sector _).append Writes.done))))))))))))))))
  · rw [Bool.not_eq_true', decide_eq_false_iff_not, not_lt]
    exact encodable.airwayCount
  · simp only [Bool.and_eq_true, beq_iff_eq]
    exact ⟨⟨⟨⟨encodable.offsets_length, encodable.idents_length⟩, encodable.hasOutbound_length⟩,
      encodable.hasInbound_length⟩, encodable.kinds_length⟩
  · rw [Bool.not_eq_true', decide_eq_false_iff_not, not_or, not_or, not_not, not_lt]
    exact ⟨Int32.not_lt.mpr encodable.first_nonneg, encodable.first_le, encodable.elevations_length⟩
  · rw [beq_iff_eq]
    exact encodable.offsets_first
  · rw [beq_iff_eq]
    exact encodable.offsets_last

/-! ## The records stand for the snapshot -/

instance : Nonempty StringRef := ⟨⟨0, 0⟩⟩
instance : Nonempty VertexRecord := ⟨⟨⟨0, 0⟩, ⟨0, 0⟩, ⟨0, 0⟩, 0, 0⟩⟩
instance : Nonempty SectorRecord := ⟨⟨⟨0, 0⟩, ⟨0, 0⟩, ⟨0, 0⟩, []⟩⟩

/-- A record whose references resolve to the strings of its vertex. -/
structure VertexStands (blob : Text) (vertex : Vertex) (record : VertexRecord) : Prop where
  coord : record.coord = vertex.coord
  ident : resolveRef blob record.ident = some vertex.ident.ident
  code : resolveRef blob record.arinc424IcaoCode = some vertex.ident.arinc424IcaoCode
  flags : record.flags = flagsByte vertex.hasOutbound vertex.hasInbound
  kind : record.kind = vertex.kind

structure SectorStands (blob : Text) (sector : MsaSector) (record : SectorRecord) : Prop where
  ident : resolveRef blob record.centerIdent = some sector.center.ident
  code : resolveRef blob record.centerCode = some sector.center.arinc424IcaoCode
  airport : resolveRef blob record.airportIcao = some sector.airportIcao
  arcs : record.arcs = sector.arcs

structure RecordsStand (blob : Text) (snapshot : GraphSnapshot) (records : Records) : Prop where
  vertexCount : records.vertexCount = UInt32.ofNat snapshot.coords.length
  edgeCount : records.edgeCount = UInt32.ofNat snapshot.edges.length
  airwayCount : records.airwayCount = UInt32.ofNat snapshot.airwayNames.length
  firstAirportVertex : records.firstAirportVertex = snapshot.firstAirportVertex
  vertices : List.Forall₂ (VertexStands blob) (vertices snapshot) records.vertices
  elevations : records.elevations = snapshot.airportElevationsFt
  offsets : records.offsets = snapshot.offsets
  edges : records.edges = snapshot.edges
  airways : List.Forall₂ (fun name ref => resolveRef blob ref = some name) snapshot.airwayNames records.airways
  cells : records.cells = snapshot.mora.cells
  sectors : List.Forall₂ (SectorStands blob) snapshot.msa records.sectors

theorem encodes_vertex (vertex : Vertex) : Encodes (encodeVertex vertex) (fun _ => decodeVertex)
    fun blob record => VertexStands blob vertex record := by
  unfold encodeVertex decodeVertex
  refine .bindValue (.write (ByteReader.reads_u64 _)) (.bindValue (.write (ByteReader.reads_u64 _)) ?_)
  refine .bind (.ref _) fun ident => .bind (.ref _) fun code => ?_
  refine .bindValue (.write (ByteReader.reads_u8 _)) (.check fun _ => ?_)
  refine .bindValue (.write (ByteReader.reads_u8 _)) (.done fun blob codeResolves identResolves => ?_)
  exact ⟨rfl, identResolves, codeResolves, rfl, rfl⟩

theorem encodes_edge (vertexCount airwayCount : Nat) (edge : PackedEdge) :
    Encodes (encodeEdge vertexCount airwayCount edge) (fun _ => decodeEdge) fun _ result => result = edge := by
  unfold encodeEdge decodeEdge
  refine .check fun _ => .check fun _ => .check fun _ => ?_
  refine .bindValue (.write (ByteReader.reads_i32 _)) (.bindValue (.write (ByteReader.reads_u32 _)) ?_)
  refine .bindValue (.write (ByteReader.reads_u16 _)) (.bindValue (.write (ByteReader.reads_i16 _)) ?_)
  exact .bindValue (.write (ByteReader.reads_i16 _)) (.bindValue (.write (ByteReader.reads_u8 _)) (.done fun _ => rfl))

theorem encodes_arc (arc : MsaArc) : Encodes (E := Error) (encodeArc arc) (fun _ => decodeArc)
    fun _ result => result = arc := by
  unfold encodeArc decodeArc
  refine .bindValue (.write (ByteReader.reads_i32 _)) (.bindValue (.write (ByteReader.reads_i32 _)) ?_)
  exact .bindValue (.write (ByteReader.reads_i32 _)) (.done fun _ => rfl)

theorem emits_encodeArc (arc : MsaArc) : Emits (encodeArc arc) kMsaArcSize :=
  (Emits.write _).append ((Emits.write _).append ((Emits.write _).append Emits.done))

theorem emits_arcs (arcs : List MsaArc) : Emits (each encodeArc arcs) (arcs.length * kMsaArcSize) := by
  have emits := Emits.each arcs fun arc _ => emits_encodeArc arc
  rw [List.map_const', List.sum_replicate_nat] at emits
  exact emits

theorem encodes_sector {sector : MsaSector} (counted : sector.arcs.length < 2 ^ 32) :
    Encodes (encodeSector sector) (fun _ => decodeSector) fun blob record => SectorStands blob sector record := by
  have count := CifpCodec.toNat_ofNat_length counted
  have arcs : Encodes (each encodeArc sector.arcs) (fun _ => times sector.arcs.length decodeArc)
      fun _ results => results = sector.arcs := Encodes.each fun arc _ => encodes_arc arc
  unfold encodeSector decodeSector
  refine .bind (.ref _) fun ident => .bind (.ref _) fun code => .bind (.ref _) fun airport => ?_
  refine .bindValue (.write (ByteReader.reads_u32 _)) (.silent (.requireOk _) ?_)
  refine .fuse (fun _ _ grows fits => decide_eq_true (le_div_of_le grows (of_decide_eq_true fits)))
    ((emits_arcs sector.arcs).append Emits.done) ?_ (.silent (.allocate _) ?_)
  · rw [count]
    exact NavDetailCodec.fits_of_le (by decide) (Nat.le_add_right _ _)
  · rw [count]
    refine .bindValue arcs (.done fun blob airportResolves codeResolves identResolves => ?_)
    exact ⟨identResolves, codeResolves, airportResolves, rfl⟩

/-! ## How long a section is -/

theorem emits_vertices (values : List Vertex) :
    Emits (each encodeVertex values) (values.length * kVertexRecordSize) := by
  have emits := Emits.each values fun vertex _ => show Emits (encodeVertex vertex) kVertexRecordSize from
    (Emits.write _).append ((Emits.write _).append ((Emits.ref _).append ((Emits.ref _).append
      ((Emits.write _).append ((Emits.check _ _).append ((Emits.write _).append Emits.done))))))
  rw [List.map_const', List.sum_replicate_nat] at emits
  exact emits

theorem emits_edges (vertexCount airwayCount : Nat) (edges : List PackedEdge) :
    Emits (each (encodeEdge vertexCount airwayCount) edges) (edges.length * kEdgeRecordSize) := by
  have emits := Emits.each edges fun edge _ => show Emits (encodeEdge vertexCount airwayCount edge) kEdgeRecordSize from
    (Emits.check _ _).append ((Emits.check _ _).append ((Emits.check _ _).append ((Emits.write _).append
      ((Emits.write _).append ((Emits.write _).append ((Emits.write _).append ((Emits.write _).append
        ((Emits.write _).append Emits.done))))))))
  rw [List.map_const', List.sum_replicate_nat] at emits
  exact emits

theorem emits_airways (names : List Text) :
    Emits (E := Error) (each ref names) (names.length * kAirwayRefSize) := by
  have emits := Emits.each (E := Error) names fun name _ => Emits.ref name
  rw [List.map_const', List.sum_replicate_nat] at emits
  exact emits

theorem emits_fields {X : Type} {record : X -> List UInt8} {size : Nat} (values : List X)
    (length : forall x, (record x).length = size) :
    Emits (E := Error) (each (fun x => write (record x)) values) (values.length * size) := by
  have emits := Emits.each (E := Error) values fun x _ => Emits.write (record x)
  rw [List.map_congr_left fun x _ => length x, List.map_const', List.sum_replicate_nat] at emits
  exact emits

theorem emits_offsets (previous : Int32) (offsets : List Int32) :
    Emits (encodeOffsets previous offsets) (offsets.length * 4) := by
  intro pool bytes pool' ran
  cases (encodeOffsets_eq_ok ran).1
  rw [length_flatMap_of_eq _ fun value _ => ByteWriter.length_i32 value]

theorem emits_sector (sector : MsaSector) :
    Emits (encodeSector sector) (kMsaHeaderSize + sector.arcs.length * kMsaArcSize) := by
  have emits : Emits (encodeSector sector) _ := (Emits.ref _).append ((Emits.ref _).append ((Emits.ref _).append
    ((Emits.write _).append ((emits_arcs _).append Emits.done))))
  have total : kMsaHeaderSize + sector.arcs.length * kMsaArcSize = 8 + (8 + (8 +
      ((ByteWriter.u32 (UInt32.ofNat sector.arcs.length)).length + (sector.arcs.length * kMsaArcSize + 0)))) := by
    rw [ByteWriter.length_u32, kMsaHeaderSize]
    omega
  rw [total]
  exact emits

/-- Each sector is at least as long as its header. -/
theorem exists_emits_sectors (sectors : List MsaSector) :
    exists size, sectors.length * kMsaHeaderSize ≤ size ∧ Emits (each encodeSector sectors) size := by
  refine ⟨_, ?_, Emits.each sectors fun sector _ => emits_sector sector⟩
  induction sectors with
  | nil => exact Nat.le_refl _
  | cons sector rest inductionHypothesis =>
      rw [List.length_cons, Nat.succ_mul, List.map_cons, List.sum_cons]
      omega

/-! ## Counts of 32 bits -/

/-- The counts that are written without a check fit in their fields. -/
structure Counted (snapshot : GraphSnapshot) : Prop where
  vertices : snapshot.coords.length < 2 ^ 32
  edges : snapshot.edges.length < 2 ^ 32
  sectors : snapshot.msa.length < 2 ^ 32
  arcs : forall sector, sector ∈ snapshot.msa -> sector.arcs.length < 2 ^ 32

section Body

variable {snapshot : GraphSnapshot}

theorem toNat_airportCount (encodable : Encodable snapshot) (counted : Counted snapshot) :
    (UInt32.ofNat snapshot.coords.length - snapshot.firstAirportVertex.toUInt32).toNat =
      snapshot.airportElevationsFt.length := by
  have count := CifpCodec.toNat_ofNat_length counted.vertices
  have within := encodable.first_le
  rw [UInt32.toNat_sub_of_le _ _ (UInt32.le_iff_toNat_le.mpr (by rw [count]; exact within)), count,
    encodable.elevations_length]

/-- What is written after the counts. -/
def encodeBody (snapshot : GraphSnapshot) : Encoder Error := steps [
  each encodeVertex (vertices snapshot),
  each (fun elevation => write (ByteWriter.i32 elevation)) snapshot.airportElevationsFt,
  check (snapshot.offsets.head? == some 0) (serializationError "CSR offsets must start at 0"),
  encodeOffsets 0 snapshot.offsets,
  check (snapshot.offsets.getLast? == some (Int32.ofNat snapshot.edges.length))
    (serializationError "CSR offsets must end at the edge count"),
  each (encodeEdge snapshot.coords.length snapshot.airwayNames.length) snapshot.edges,
  each ref snapshot.airwayNames,
  each (fun cell => write (ByteWriter.i16 cell)) snapshot.mora.cells,
  each encodeSector snapshot.msa]

/-- It is as long as the decoder demands of the counts. -/
theorem exists_emits_body (encodable : Encodable snapshot) (counted : Counted snapshot) :
    exists size, countsFit (UInt32.ofNat snapshot.coords.length) (UInt32.ofNat snapshot.edges.length)
        (UInt32.ofNat snapshot.airwayNames.length) (UInt32.ofNat snapshot.msa.length)
        (UInt32.ofNat snapshot.coords.length - snapshot.firstAirportVertex.toUInt32) size = true ∧
      minBodyBytes (UInt32.ofNat snapshot.coords.length) (UInt32.ofNat snapshot.edges.length)
        (UInt32.ofNat snapshot.airwayNames.length) (UInt32.ofNat snapshot.msa.length)
        (UInt32.ofNat snapshot.coords.length - snapshot.firstAirportVertex.toUInt32) ≤ size ∧
      Emits (encodeBody snapshot) size := by
  rcases exists_emits_sectors snapshot.msa with ⟨sectorsSize, enough, sectors⟩
  have body : Emits (encodeBody snapshot) _ := (emits_vertices (vertices snapshot)).append
    ((emits_fields snapshot.airportElevationsFt ByteWriter.length_i32).append ((Emits.check _ _).append
    ((emits_offsets 0 snapshot.offsets).append ((Emits.check _ _).append
    ((emits_edges snapshot.coords.length snapshot.airwayNames.length snapshot.edges).append
    ((emits_airways snapshot.airwayNames).append ((emits_fields snapshot.mora.cells ByteWriter.length_i16).append
    (sectors.append Emits.done))))))))
  have vertexCount := CifpCodec.toNat_ofNat_length counted.vertices
  have edgeCount := CifpCodec.toNat_ofNat_length counted.edges
  have sectorCount := CifpCodec.toNat_ofNat_length counted.sectors
  have airwayCount : (UInt32.ofNat snapshot.airwayNames.length).toNat = snapshot.airwayNames.length :=
    CifpCodec.toNat_ofNat_length (Nat.lt_of_le_of_lt encodable.airwayCount (by decide))
  have airportCount := toNat_airportCount encodable counted
  have wrapped : (UInt32.ofNat snapshot.coords.length + 1).toNat ≤ snapshot.coords.length + 1 := by
    rw [UInt32.toNat_add, vertexCount]
    exact Nat.mod_le _ _
  have cells := snapshot.mora.cells_length
  have offsets := encodable.offsets_length
  have vertexTotal := encodable.length_vertices
  refine ⟨_, ?_, ?_, body⟩
  · simp only [countsFit, vertexCount, edgeCount, airwayCount, sectorCount, airportCount, Bool.and_eq_true,
      decide_eq_true_eq, kVertexRecordSize, kAirportRecordSize, kEdgeRecordSize, kAirwayRefSize, kMsaHeaderSize]
    rw [kMsaHeaderSize] at enough
    simp only [Nat.le_div_iff_mul_le (Nat.succ_pos _), vertexTotal]
    omega
  · simp only [minBodyBytes, vertexCount, edgeCount, airwayCount, sectorCount, airportCount, kAirportRecordSize]
    rw [vertexTotal, offsets, cells]
    omega

/-- The records of a snapshot that the encoder accepts. -/
theorem encodes_body (encodable : Encodable snapshot) (counted : Counted snapshot) :
    Encodes (encodeBody snapshot) (fun _ => decodeBody (UInt32.ofNat snapshot.coords.length)
      (UInt32.ofNat snapshot.edges.length) (UInt32.ofNat snapshot.airwayNames.length)
      (UInt32.ofNat snapshot.msa.length) snapshot.firstAirportVertex) fun blob records =>
        RecordsStand blob snapshot records := by
  rcases exists_emits_body encodable counted with ⟨size, counts, total, emits⟩
  have vertexCount := CifpCodec.toNat_ofNat_length counted.vertices
  have edgeCount := CifpCodec.toNat_ofNat_length counted.edges
  have sectorCount := CifpCodec.toNat_ofNat_length counted.sectors
  have airwayCount : (UInt32.ofNat snapshot.airwayNames.length).toNat = snapshot.airwayNames.length :=
    CifpCodec.toNat_ofNat_length (Nat.lt_of_le_of_lt encodable.airwayCount (by decide))
  have vertexPart := Encodes.eachRelated (E := Error) (D := Error) fun vertex (_ : vertex ∈ vertices snapshot) =>
    encodes_vertex vertex
  have edgePart := Encodes.each fun edge (_ : edge ∈ snapshot.edges) =>
    encodes_edge snapshot.coords.length snapshot.airwayNames.length edge
  have airwayPart := Encodes.eachRelated (E := Error) (D := Error) fun name (_ : name ∈ snapshot.airwayNames) =>
    Encodes.ref name
  have sectorPart := Encodes.eachRelated (E := Error) (D := Error) fun sector member =>
    encodes_sector (counted.arcs sector member)
  have elevationReads := Reads.times (E := Error) fun elevation (_ : elevation ∈ snapshot.airportElevationsFt) =>
    ByteReader.reads_i32 elevation
  rw [List.map_id'] at elevationReads
  have offsetPart : Encodes (D := Error) (encodeOffsets 0 snapshot.offsets)
      (fun _ => ByteReader.i32Span snapshot.offsets.length) fun _ result => result = snapshot.offsets :=
    Encodes.written (fun _ _ ran => (encodeOffsets_eq_ok ran).1) (ByteReader.reads_i32Span _)
  have cellReads := ByteReader.reads_i16Span (E := Error) snapshot.mora.cells
  rw [encodable.length_vertices] at vertexPart
  rw [encodable.offsets_length] at offsetPart
  rw [snapshot.mora.cells_length] at cellReads
  unfold decodeBody
  refine .fuse (fun _ _ grows fits => countsFit_mono _ _ grows fits) emits counts ?_
  refine .fuse (fun _ _ grows fits => decide_le_mono grows fits) emits (decide_eq_true total) ?_
  rw [vertexCount, edgeCount, airwayCount, sectorCount, toNat_airportCount encodable counted]
  refine .silent (.allocate _) (.bind vertexPart fun vertexRecords => .silent (.allocate _) ?_)
  refine .bindValue (.fields elevationReads) (.silent (.allocate _) (.check fun _ => ?_))
  refine .bindValue offsetPart (.silent (.allocate _) (.check fun _ => .bindValue edgePart ?_))
  refine .silent (.allocate _) (.bind airwayPart fun airways => .silent (.allocate _) ?_)
  refine .bindValue (.fields cellReads) (.silent (.allocate _) (.bind sectorPart fun sectors => .done fun blob => ?_))
  intro sectorsStand airwaysStand verticesStand
  exact ⟨rfl, rfl, rfl, rfl, verticesStand, rfl, rfl, rfl, airwaysStand, rfl, sectorsStand⟩

theorem encodes_snapshot (encodable : Encodable snapshot) (counted : Counted snapshot) :
    Encodes (encode snapshot) (fun _ => decodeRecords) fun blob records => RecordsStand blob snapshot records := by
  have vertexCount := CifpCodec.toNat_ofNat_length counted.vertices
  have within : (!decide (snapshot.firstAirportVertex < 0 ∨
      UInt32.ofNat snapshot.coords.length < snapshot.firstAirportVertex.toUInt32)) = true := by
    rw [Bool.not_eq_true', decide_eq_false_iff_not, not_or, UInt32.not_lt, UInt32.le_iff_toNat_le, vertexCount]
    exact ⟨Int32.not_lt.mpr encodable.first_nonneg, encodable.first_le⟩
  unfold encode decodeRecords
  refine .check fun _ => .check fun _ => .check fun _ => ?_
  refine .bindValue (.write (ByteReader.reads_u32 _)) (.bindValue (.write (ByteReader.reads_u32 _)) ?_)
  refine .bindValue (.write (ByteReader.reads_u32 _)) (.bindValue (.write (ByteReader.reads_u32 _)) ?_)
  refine .bindValue (.write (ByteReader.reads_u32 _)) (.silent (.requireOk _) (.silent (.require within) ?_))
  exact encodes_body encodable counted

/-! ## The strings of the records -/

variable {blob : Text}

theorem reads_resolveIdents {values : List Vertex} {records : List VertexRecord} (i : Nat)
    (stand : List.Forall₂ (VertexStands blob) values records) :
    Reads (resolveIdents blob i records) [] (values.map Vertex.ident) := by
  induction stand generalizing i with
  | nil => exact Reads.pure []
  | cons here _ inductionHypothesis =>
      rw [resolveIdents]
      refine (reads_resolve here.ident).silent ((reads_resolve here.code).silent ?_)
      rw [FixedIdent.fromParts_self]
      exact (inductionHypothesis (i + 1)).silent (Reads.pure _)

theorem reads_resolveEach {names : List Text} {refs : List StringRef}
    (stand : List.Forall₂ (fun name ref => resolveRef blob ref = some name) names refs) :
    Reads (resolveEach blob refs) [] names := by
  induction stand with
  | nil => exact Reads.pure []
  | cons here _ inductionHypothesis =>
      rw [resolveEach]
      exact (reads_resolve here).silent (inductionHypothesis.silent (Reads.pure _))

theorem reads_resolveSectors {sectors : List MsaSector} {records : List SectorRecord}
    (stand : List.Forall₂ (SectorStands blob) sectors records) :
    Reads (resolveSectors blob records) [] sectors := by
  induction stand with
  | nil => exact Reads.pure []
  | @cons sector record _ _ here _ inductionHypothesis =>
      rw [resolveSectors]
      refine (reads_resolve here.ident).silent ((reads_resolve here.code).silent ?_)
      refine (reads_resolve here.airport).silent ?_
      refine inductionHypothesis.silent ?_
      rw [here.arcs]
      exact Reads.pure _

/-- A snapshot whose flags are zero or one. -/
def normalized (snapshot : GraphSnapshot) : GraphSnapshot :=
  { snapshot with
    hasOutbound := snapshot.hasOutbound.map fun flag => if flag ≠ 0 then 1 else 0
    hasInbound := snapshot.hasInbound.map fun flag => if flag ≠ 0 then 1 else 0 }

theorem flagsByte_spec (hasOutbound hasInbound : UInt8) :
    (flagsByte hasOutbound hasInbound &&& 1 ≠ 0 ↔ hasOutbound ≠ 0) ∧
      (flagsByte hasOutbound hasInbound &&& 2 ≠ 0 ↔ hasInbound ≠ 0) := by
  have bits : forall first second : Bool,
      ((((if first then 1 else 0) ||| (if second then 2 else 0) : UInt8) &&& 1 ≠ 0 ↔ first = true) ∧
        (((if first then 1 else 0) ||| (if second then 2 else 0) : UInt8) &&& 2 ≠ 0 ↔ second = true)) := by
    decide
  have here := bits (decide (hasOutbound ≠ 0)) (decide (hasInbound ≠ 0))
  simp only [decide_eq_true_eq] at here
  exact here

/-- One column of records is that of the values they stand for. -/
theorem map_eq_map {X Y B : Type} {stands : X -> Y -> Prop} {values : List X} {records : List Y} (view : X -> B)
    (column : Y -> B) (stand : List.Forall₂ stands values records)
    (same : forall x record, stands x record -> column record = view x) : records.map column = values.map view := by
  induction stand with
  | nil => rfl
  | cons here _ inductionHypothesis => rw [List.map_cons, List.map_cons, same _ _ here, inductionHypothesis]

theorem fault_eq_none {records : Records} (encodable : Encodable snapshot) (counted : Counted snapshot)
    (stand : RecordsStand blob snapshot records) : fault records = none := by
  have vertexCount := CifpCodec.toNat_ofNat_length counted.vertices
  have airwayCount : (UInt32.ofNat snapshot.airwayNames.length).toNat = snapshot.airwayNames.length :=
    CifpCodec.toNat_ofNat_length (Nat.lt_of_le_of_lt encodable.airwayCount (by decide))
  have ends : Int32.ofNat snapshot.edges.length = records.edgeCount.toInt32 := by
    rw [stand.edgeCount]
    rfl
  have span : ¬ (records.offsets.head? ≠ some 0 ∨ records.offsets.getLast? ≠ some records.edgeCount.toInt32) := by
    rw [stand.offsets, encodable.offsets_first, encodable.offsets_last, ends]
    simp only [ne_eq, not_true_eq_false, or_self, not_false_eq_true]
  have monotone : ¬ ¬ records.offsets.IsChain (· ≤ ·) := not_not.mpr (stand.offsets.symm ▸ encodable.offsets_monotone)
  have edges : records.edges.findSome? (edgeFault records.vertexCount records.airwayCount) = none := by
    rw [List.findSome?_eq_none_iff]
    intro edge member
    rw [stand.edges] at member
    rcases encodable.edges edge member with ⟨nonneg, target, airway, level⟩
    have targetFits : ¬ (edge.toVertex < 0 ∨ UInt32.ofNat snapshot.coords.length ≤ edge.toVertex.toUInt32) := by
      rw [not_or, UInt32.not_le, UInt32.lt_iff_toNat_lt, vertexCount]
      exact ⟨Int32.not_lt.mpr nonneg, target⟩
    have airwayFits : ¬ UInt32.ofNat snapshot.airwayNames.length ≤ edge.airwayId.toUInt32 := by
      rw [UInt32.not_le, UInt32.lt_iff_toNat_lt, airwayCount, UInt16.toNat_toUInt32]
      exact airway
    rw [edgeFault, stand.vertexCount, stand.airwayCount, if_neg targetFits, if_neg airwayFits,
      if_neg (UInt8.not_lt.mpr level)]
  have kinds : (records.vertices.all fun vertex => isVertexKindByte vertex.kind) = true := by
    have same := map_eq_map Vertex.kind VertexRecord.kind stand.vertices fun _ _ here => here.kind
    rw [encodable.map_kind] at same
    rw [List.all_eq_true]
    intro record member
    exact encodable.kinds _ (same ▸ List.mem_map_of_mem member)
  rw [fault, if_neg span, if_neg monotone, edges, if_pos kinds]

theorem reads_assemble {records : Records} (encodable : Encodable snapshot)
    (stand : RecordsStand blob snapshot records) : Reads (assemble blob records) [] (normalized snapshot) := by
  have idents := reads_resolveIdents 0 stand.vertices
  rw [encodable.map_ident] at idents
  have coords := map_eq_map Vertex.coord VertexRecord.coord stand.vertices fun _ _ here => here.coord
  have kinds := map_eq_map Vertex.kind VertexRecord.kind stand.vertices fun _ _ here => here.kind
  have outbound := map_eq_map (fun vertex : Vertex => if vertex.hasOutbound ≠ 0 then (1 : UInt8) else 0)
    (fun record => if record.flags &&& 1 ≠ 0 then 1 else 0) stand.vertices fun vertex _ here => by
      simp only [here.flags, (flagsByte_spec vertex.hasOutbound vertex.hasInbound).1]
  have inbound := map_eq_map (fun vertex : Vertex => if vertex.hasInbound ≠ 0 then (1 : UInt8) else 0)
    (fun record => if record.flags &&& 2 ≠ 0 then 1 else 0) stand.vertices fun vertex _ here => by
      simp only [here.flags, (flagsByte_spec vertex.hasOutbound vertex.hasInbound).2]
  rw [encodable.map_coord] at coords
  rw [encodable.map_kind] at kinds
  have outboundOf : (vertices snapshot).map (fun vertex => if vertex.hasOutbound ≠ 0 then (1 : UInt8) else 0) =
      (normalized snapshot).hasOutbound := by
    rw [normalized, ← encodable.map_hasOutbound, List.map_map]
    rfl
  have inboundOf : (vertices snapshot).map (fun vertex => if vertex.hasInbound ≠ 0 then (1 : UInt8) else 0) =
      (normalized snapshot).hasInbound := by
    rw [normalized, ← encodable.map_hasInbound, List.map_map]
    rfl
  unfold assemble
  refine (Reads.allocate _).silent (idents.silent ((Reads.allocate _).silent ?_))
  refine (reads_resolveEach stand.airways).silent ((Reads.allocate _).silent ?_)
  refine (reads_resolveSectors stand.sectors).silent ((Reads.requireRefs _).silent ?_)
  rw [coords, kinds, outbound, inbound, outboundOf, inboundOf, stand.firstAirportVertex, stand.offsets, stand.edges,
    stand.cells, stand.elevations, MoraGrid.fromCells_cells]
  exact Reads.pure _

end Body

/-- The checks on the records, and the snapshot they stand for. -/
def checkRecords (pool : Text) (records : Records) : Decoder Error GraphSnapshot := do
  requireOk (bad (ofString "corrupt .bfdb graph section"))
  fuse (fun available => available == 0) (bad (ofString "corrupt .bfdb: graph section has trailing bytes"))
  match fault records with
  | some why => refuse (bad (ofString why))
  | none => assemble pool records

theorem decodeSection_eq (pool : Text) : decodeSection pool = decodeRecords >>= checkRecords pool := rfl

/-- What the encoder accepts is decoded from what it is written as, while 32
bits count the records and address the pool. -/
theorem decode_of_encode {snapshot : GraphSnapshot} (counted : Counted snapshot) {pool pool' : StringPool}
    {bytes blob : Text} (ran : encode snapshot pool = .ok (bytes, pool')) (sound : pool.Sound)
    (small : pool'.blob.length < 2 ^ 32) (extended : pool'.blob <+: blob) :
    (decode bytes blob).1 = .ok (normalized snapshot) := by
  have encodable := encodable_of_encode ran
  rcases (encodes_snapshot encodable counted pool bytes pool' ran sound).2.2 small with ⟨records, reads⟩
  rcases reads blob extended with ⟨decodes, stand⟩
  rcases decodes [] [] with ⟨allocated, decoded⟩
  rw [List.append_nil] at decoded
  rcases reads_assemble encodable stand [] allocated with ⟨sizes, assembled⟩
  rw [List.append_nil] at assembled
  have faultless := fault_eq_none encodable counted stand
  rw [decode, decodeSection_eq, bind_of_ok decoded]
  simp only [checkRecords, requireOk, fuse, bind_eq, Reading.remaining, List.length_nil, beq_self_eq_true, if_true,
    faultless, assembled]

end GraphCodec
end BravoFinder
