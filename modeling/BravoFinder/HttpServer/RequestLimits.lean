import BravoFinder.HttpServer.ConnectionRules

namespace BravoFinder

/-!
# Limits on a request

A request comes in pieces, and the caps are checked with each piece.  A pair of
field and value is only counted when the next field starts or the headers end,
so what is counted and what is pending are bounded together.
-/

/-- The bytes of some headers. -/
def headersSize (headers : Headers) : Nat :=
  (headers.map fun header => header.1.length + header.2.length).sum

theorem headersSize_append (headers : Headers) (name value : Text) :
    headersSize (headers ++ [(name, value)]) = headersSize headers + (name.length + value.length) := by
  rw [headersSize, List.map_append, List.sum_append, List.map_singleton, List.sum_singleton]
  rfl

/-- An `Expect: 100-continue`, which is refused. -/
def isContinue (header : Text × Text) : Prop :=
  header.1 = ofString "expect" ∧ asciiIeq header.2 (ofString "100-continue") = true

def isTransferEncoding (header : Text × Text) : Prop :=
  header.1 = ofString "transfer-encoding"

namespace Assembly

variable {Parser : Type}

/-- Callbacks over any number of buffers, up to the first that answers -1; whether none did. -/
def run (limits : Limits) (now : Nat) : Assembly Parser -> List (Text × ParserCallback) -> Assembly Parser × Bool
  | assembly, [] => (assembly, true)
  | assembly, (buf, first) :: rest =>
      if (assembly.callback limits now buf first).2 then run limits now (assembly.callback limits now buf first).1 rest
      else ((assembly.callback limits now buf first).1, false)

/-- The bytes of a callback. -/
def chunk (buf : Text) : ParserCallback -> Text
  | .onUrl span | .onHeaderField span | .onHeaderValue span | .onBody span => span.ofBuffer buf
  | .onMessageBegin | .onHeadersComplete _ | .onMessageComplete _ _ => []

/-! ## What is kept -/

/-- The header bytes that are stored or pending. -/
def headersHeld (assembly : Assembly Parser) : Nat :=
  headersSize assembly.headers + assembly.curField.length + assembly.curValue.length

/-- What is stored has been counted and checked. -/
structure Tallied (assembly : Assembly Parser) : Prop where
  bytes : assembly.headerBytes = headersSize assembly.headers
  count : assembly.headerCount = assembly.headers.length
  encoding : assembly.sawTransferEncoding = false -> forall header, header ∈ assembly.headers ->
    ¬ isTransferEncoding header
  passed : assembly.rejectStatus = kStatusNone -> assembly.headers.length ≤ kMaxHeaderCount ∧
    forall header, header ∈ assembly.headers -> ¬ isContinue header

/-- No limit has tripped. -/
structure Within (limits : Limits) (assembly : Assembly Parser) : Prop extends Tallied assembly where
  accepted : assembly.rejectStatus = kStatusNone
  url : assembly.url.length ≤ kMaxUrlBytes
  held : assembly.headersHeld ≤ kMaxHeaderBytes
  body : assembly.body.length ≤ limits.maxBodyBytes

/-- What is stored, with one chunk that may have tripped a limit. -/
structure Bounded (limits : Limits) (chunkSize : Nat) (assembly : Assembly Parser) : Prop where
  url : assembly.url.length ≤ kMaxUrlBytes + chunkSize
  held : assembly.headersHeld ≤ kMaxHeaderBytes + chunkSize
  headers : assembly.headers.length ≤ kMaxHeaderCount + 1
  body : assembly.body.length ≤ limits.maxBodyBytes

section Steps

variable {limits : Limits} {assembly : Assembly Parser} {now chunkSize : Nat}

theorem within_fresh (llhttp : Llhttp Parser) : Within limits (fresh llhttp) where
  bytes := rfl
  count := rfl
  encoding _ _ member := absurd member List.not_mem_nil
  passed _ := ⟨Nat.zero_le _, fun _ member => absurd member List.not_mem_nil⟩
  accepted := rfl
  url := Nat.zero_le _
  held := Nat.zero_le _
  body := Nat.zero_le _

theorem Within.bounded (within : Within limits assembly) : Bounded limits chunkSize assembly where
  url := Nat.le_trans within.url (Nat.le_add_right _ _)
  held := Nat.le_trans within.held (Nat.le_add_right _ _)
  headers := Nat.le_trans (within.passed within.accepted).1 (Nat.le_add_right _ _)
  body := within.body

/-- A pair that is finished moves from what is pending to what is stored. -/
theorem finishHeaderPair_of_pending (pending : assembly.curField ≠ []) :
    exists status message saw, assembly.finishHeaderPair = { assembly with
        headerCount := assembly.headerCount + 1
        headerBytes := assembly.headerBytes + (assembly.curField.length + assembly.curValue.length)
        rejectStatus := status
        rejectMessage := message
        sawTransferEncoding := saw
        headers := assembly.headers ++ [(assembly.curField.map toLower, assembly.curValue)]
        curField := []
        curValue := []
        readingValue := false } ∧
      (status = kStatusNone -> assembly.rejectStatus = kStatusNone ∧ assembly.headerCount + 1 ≤ kMaxHeaderCount ∧
        ¬ isContinue (assembly.curField.map toLower, assembly.curValue)) ∧
      (saw = false -> assembly.sawTransferEncoding = false ∧
        ¬ isTransferEncoding (assembly.curField.map toLower, assembly.curValue)) := by
  refine ⟨(if assembly.curField.map toLower = ofString "expect" ∧
      asciiIeq assembly.curValue (ofString "100-continue") = true then kStatusExpectationFailed
    else if kMaxHeaderBytes < assembly.headerBytes + (assembly.curField.length + assembly.curValue.length) ∨
      kMaxHeaderCount < assembly.headerCount + 1 then kStatusRequestHeaderFieldsTooLarge
    else assembly.rejectStatus), assembly.finishHeaderPair.rejectMessage,
    (if assembly.curField.map toLower = ofString "transfer-encoding" then true else assembly.sawTransferEncoding),
    ?_, ?_, ?_⟩
  · rw [finishHeaderPair, if_neg pending]
    dsimp only [reject]
    split_ifs <;> rfl
  · split_ifs with expects exceeds
    · exact fun none => absurd none (by decide)
    · exact fun none => absurd none (by decide)
    · rw [not_or, Nat.not_lt, Nat.not_lt] at exceeds
      exact fun none => ⟨none, exceeds.2, expects⟩
  · split_ifs with encoding
    · exact fun unseen => nomatch unseen
    · exact fun unseen => ⟨unseen, encoding⟩

/-- What a finished pair leaves, when nothing had tripped before. -/
structure Finished (limits : Limits) (before after : Assembly Parser) : Prop extends Tallied after where
  url : after.url = before.url
  body : after.body = before.body
  held : after.headersHeld = before.headersHeld
  headers : after.headers.length ≤ kMaxHeaderCount + 1

theorem Within.finished (within : Within limits assembly) : Finished limits assembly assembly.finishHeaderPair := by
  by_cases pending : assembly.curField = []
  · have bounded : Bounded limits 0 assembly := within.bounded
    rw [finishHeaderPair, if_pos pending]
    exact { within.toTallied with
      url := rfl
      body := rfl
      held := rfl
      headers := bounded.headers }
  rcases finishHeaderPair_of_pending pending with ⟨status, message, saw, whole, passed, unseen⟩
  have size : headersSize (assembly.headers ++ [(assembly.curField.map toLower, assembly.curValue)]) =
      headersSize assembly.headers + (assembly.curField.length + assembly.curValue.length) := by
    rw [headersSize_append, List.length_map]
  have stored := (within.passed within.accepted).1
  rw [whole]
  constructor
  case url => rfl
  case body => rfl
  case held =>
    simp only [headersHeld, size, List.length_nil]
    omega
  case headers =>
    rw [List.length_append, List.length_singleton]
    exact Nat.succ_le_succ stored
  case toTallied =>
    constructor
    case bytes =>
      dsimp only
      rw [size, within.bytes]
    case count =>
      dsimp only
      rw [List.length_append, List.length_singleton, within.count]
    case encoding =>
      intro notSeen header member
      rcases List.mem_append.mp member with earlier | last
      · exact within.encoding (unseen notSeen).1 header earlier
      · rw [List.mem_singleton.mp last]
        exact (unseen notSeen).2
    case passed =>
      intro accepted
      rcases passed accepted with ⟨_, few, notContinue⟩
      refine ⟨?_, fun header member => ?_⟩
      · rw [List.length_append, List.length_singleton, ← within.count]
        exact few
      · rcases List.mem_append.mp member with earlier | last
        · exact (within.passed within.accepted).2 header earlier
        · rw [List.mem_singleton.mp last]
          exact notContinue

/-- Where the budget is checked, nothing else changes. -/
theorem checkHeaderBudget_cases (assembly : Assembly Parser) :
    (assembly.checkHeaderBudget = (assembly, true) ∧ assembly.rejectStatus = kStatusNone ∧
      assembly.headerBytes + assembly.curField.length + assembly.curValue.length ≤ kMaxHeaderBytes) ∨
    exists status message, status ≠ kStatusNone ∧
      assembly.checkHeaderBudget = ({ assembly with rejectStatus := status, rejectMessage := message }, false) := by
  by_cases accepted : assembly.rejectStatus = kStatusNone
  · by_cases exceeds : assembly.headerBudgetExceeded = true
    · refine .inr ⟨kStatusRequestHeaderFieldsTooLarge, ofString "request headers too large", by decide, ?_⟩
      rw [checkHeaderBudget, if_pos ⟨accepted, exceeds⟩]
      rfl
    · refine .inl ⟨?_, accepted, ?_⟩
      · rw [checkHeaderBudget, if_neg fun both => exceeds both.2, accepted]
        rfl
      · rw [headerBudgetExceeded, decide_eq_true_iff, Nat.not_lt] at exceeds
        exact exceeds
  · refine .inr ⟨assembly.rejectStatus, assembly.rejectMessage, accepted, ?_⟩
    rw [checkHeaderBudget, if_neg fun both => accepted both.1, decide_eq_false accepted]

/-- A chunk of a field or a value, after what it finishes. -/
theorem checked (finished : Assembly Parser) (tallied : Tallied finished)
    (bounded : Bounded limits chunkSize finished) (url : finished.url.length ≤ kMaxUrlBytes) :
    Bounded limits chunkSize finished.checkHeaderBudget.1 ∧
      (finished.checkHeaderBudget.2 = true -> Within limits finished.checkHeaderBudget.1) := by
  rcases finished.checkHeaderBudget_cases with ⟨same, accepted, small⟩ | ⟨status, message, _, same⟩
  · rw [same]
    refine ⟨bounded, fun _ => { tallied with accepted := accepted, url := url, held := ?_, body := bounded.body }⟩
    rw [headersHeld, ← tallied.bytes]
    exact small
  · rw [same]
    exact ⟨⟨bounded.url, bounded.held, bounded.headers, bounded.body⟩, fun passes => nomatch passes⟩

/-- One callback keeps the limits, or stops with one chunk above them. -/
theorem Within.callback (within : Within limits assembly) {buf : Text} {event : ParserCallback}
    (small : (chunk buf event).length ≤ chunkSize) :
    Bounded limits chunkSize (assembly.callback limits now buf event).1 ∧
      ((assembly.callback limits now buf event).2 = true ->
        Within limits (assembly.callback limits now buf event).1) := by
  have bounded : Bounded limits chunkSize assembly := within.bounded
  have held := within.held
  rw [headersHeld] at held
  cases event with
  | onMessageBegin =>
      rw [Assembly.callback, onMessageBegin]
      split_ifs
      · exact ⟨⟨bounded.url, bounded.held, bounded.headers, bounded.body⟩, fun passes => nomatch passes⟩
      · exact ⟨⟨bounded.url, bounded.held, bounded.headers, bounded.body⟩, fun _ =>
          ⟨⟨within.bytes, within.count, within.encoding, within.passed⟩, within.accepted, within.url, within.held,
            within.body⟩⟩
  | onUrl span =>
      have length : (assembly.url ++ span.ofBuffer buf).length ≤ kMaxUrlBytes + chunkSize := by
        rw [List.length_append]
        exact Nat.add_le_add within.url small
      rw [Assembly.callback, onUrl]
      dsimp only
      split_ifs with long
      · exact ⟨⟨length, bounded.held, bounded.headers, bounded.body⟩, fun passes => nomatch passes⟩
      · exact ⟨⟨length, bounded.held, bounded.headers, bounded.body⟩, fun _ =>
          ⟨⟨within.bytes, within.count, within.encoding, within.passed⟩, within.accepted, Nat.not_lt.mp long,
            within.held, within.body⟩⟩
  | onHeaderField span =>
      -- The pair before is finished when a value has begun.
      have before : Finished limits assembly
          (if assembly.readingValue then assembly.finishHeaderPair else assembly) := by
        split_ifs
        · exact within.finished
        · exact { within.toTallied with url := rfl, body := rfl, held := rfl, headers := bounded.headers }
      rw [Assembly.callback, onHeaderField]
      generalize (if assembly.readingValue then assembly.finishHeaderPair else assembly) = finished at before ⊢
      have heldBefore := before.held
      rw [headersHeld, headersHeld] at heldBefore
      refine checked _ ⟨before.bytes, before.count, before.encoding, before.passed⟩ ⟨?_, ?_, before.headers, ?_⟩ ?_
      · rw [before.url]
        exact bounded.url
      · rw [headersHeld, List.length_append]
        have added : (span.ofBuffer buf).length ≤ chunkSize := small
        dsimp only
        omega
      · rw [before.body]
        exact within.body
      · rw [before.url]
        exact within.url
  | onHeaderValue span =>
      rw [Assembly.callback, onHeaderValue]
      refine checked _ ⟨within.bytes, within.count, within.encoding, within.passed⟩
        ⟨bounded.url, ?_, bounded.headers, bounded.body⟩ within.url
      rw [headersHeld, List.length_append]
      have added : (span.ofBuffer buf).length ≤ chunkSize := small
      dsimp only
      omega
  | onHeadersComplete contentLength =>
      have before := within.finished
      rw [Assembly.callback]
      unfold Assembly.onHeadersComplete
      generalize assembly.finishHeaderPair = finished at before ⊢
      have boundedBefore : Bounded limits chunkSize finished :=
        ⟨before.url ▸ bounded.url, before.held ▸ bounded.held, before.headers, before.body ▸ bounded.body⟩
      have refused : forall status message, Bounded limits chunkSize (finished.reject status message) :=
        fun _ _ => ⟨boundedBefore.url, boundedBefore.held, boundedBefore.headers, boundedBefore.body⟩
      dsimp only
      split_ifs with tripped encoded
      · exact ⟨boundedBefore, fun passes => nomatch passes⟩
      · exact ⟨refused _ _, fun passes => nomatch passes⟩
      · have kept : Within limits finished :=
          { before.toTallied with
            accepted := not_not.mp tripped
            url := before.url ▸ within.url
            held := before.held ▸ within.held
            body := before.body ▸ within.body }
        split
        · split_ifs
          · exact ⟨refused _ _, fun passes => nomatch passes⟩
          · exact ⟨boundedBefore, fun _ => kept⟩
        · exact ⟨boundedBefore, fun _ => kept⟩
  | onBody span =>
      rw [Assembly.callback, onBody]
      split_ifs with exceeds
      · exact ⟨⟨bounded.url, bounded.held, bounded.headers, bounded.body⟩, fun passes => nomatch passes⟩
      · have length : (assembly.body ++ span.ofBuffer buf).length ≤ limits.maxBodyBytes := by
          rw [List.length_append]
          exact Nat.not_lt.mp exceeds
        exact ⟨⟨bounded.url, bounded.held, bounded.headers, length⟩, fun _ =>
          ⟨⟨within.bytes, within.count, within.encoding, within.passed⟩, within.accepted, within.url, within.held,
            length⟩⟩
  | onMessageComplete shouldKeepAlive position =>
      rw [Assembly.callback, onMessageComplete]
      exact ⟨⟨bounded.url, bounded.held, bounded.headers, bounded.body⟩, fun _ =>
        ⟨⟨within.bytes, within.count, within.encoding, within.passed⟩, within.accepted, within.url, within.held,
          within.body⟩⟩

/-- Any callbacks keep the limits, or stop with one chunk above them. -/
theorem Within.run (within : Within limits assembly) {events : List (Text × ParserCallback)}
    (small : forall event, event ∈ events -> (chunk event.1 event.2).length ≤ chunkSize) :
    Bounded limits chunkSize (assembly.run limits now events).1 ∧
      ((assembly.run limits now events).2 = true -> Within limits (assembly.run limits now events).1) := by
  induction events generalizing assembly with
  | nil => exact ⟨within.bounded, fun _ => within⟩
  | cons event rest inductionHypothesis =>
      rcases event with ⟨buf, event⟩
      have step : Bounded limits chunkSize (assembly.callback limits now buf event).1 ∧
          ((assembly.callback limits now buf event).2 = true ->
            Within limits (assembly.callback limits now buf event).1) :=
        within.callback (small (buf, event) List.mem_cons_self)
      rw [Assembly.run]
      split_ifs with passes
      · exact inductionHypothesis (step.2 passes) fun other member => small other (List.mem_cons_of_mem _ member)
      · exact ⟨step.1, fun passes => nomatch passes⟩

end Steps

/-! ## One request -/

section Runs

variable {limits : Limits} {now : Nat}

theorem run_append (assembly : Assembly Parser) (first second : List (Text × ParserCallback)) :
    assembly.run limits now (first ++ second) =
      if (assembly.run limits now first).2 then (assembly.run limits now first).1.run limits now second
      else ((assembly.run limits now first).1, false) := by
  induction first generalizing assembly with
  | nil => rfl
  | cons event rest inductionHypothesis =>
      rcases event with ⟨buf, event⟩
      rw [List.cons_append, run, run]
      by_cases passes : (assembly.callback limits now buf event).2 = true
      · rw [if_pos passes, if_pos passes]
        exact inductionHypothesis _
      · rw [if_neg passes, if_neg passes]
        rfl

theorem run_append_of_passes {assembly : Assembly Parser} {first second : List (Text × ParserCallback)}
    (passes : (assembly.run limits now (first ++ second)).2 = true) :
    (assembly.run limits now first).2 = true ∧ assembly.run limits now (first ++ second) =
      (assembly.run limits now first).1.run limits now second := by
  rw [run_append] at passes ⊢
  split_ifs at passes ⊢ with before
  exact ⟨before, rfl⟩

theorem run_singleton (assembly : Assembly Parser) (buf : Text) (event : ParserCallback) :
    assembly.run limits now [(buf, event)] = assembly.callback limits now buf event := by
  rw [run, run]
  split_ifs with passes
  · exact Prod.ext rfl passes.symm
  · exact Prod.ext rfl (Bool.eq_false_iff.mpr passes).symm

end Runs

/-- A piece of a request, and the buffer it lies in. -/
structure Piece where
  buf : Text
  span : Span

def Piece.data (piece : Piece) : Text := piece.span.ofBuffer piece.buf

/-- What some pieces make together. -/
def joined (pieces : List Piece) : Text := pieces.flatMap Piece.data

theorem joined_cons (piece : Piece) (rest : List Piece) : joined (piece :: rest) = piece.data ++ joined rest := rfl

def onUrls (pieces : List Piece) : List (Text × ParserCallback) :=
  pieces.map fun piece => (piece.buf, .onUrl piece.span)

def onHeaderFields (pieces : List Piece) : List (Text × ParserCallback) :=
  pieces.map fun piece => (piece.buf, .onHeaderField piece.span)

def onHeaderValues (pieces : List Piece) : List (Text × ParserCallback) :=
  pieces.map fun piece => (piece.buf, .onHeaderValue piece.span)

def onBodies (pieces : List Piece) : List (Text × ParserCallback) :=
  pieces.map fun piece => (piece.buf, .onBody piece.span)

inductive HeaderPiece where
  | field (piece : Piece)
  | value (piece : Piece)

def HeaderPiece.event : HeaderPiece -> Text × ParserCallback
  | .field piece => (piece.buf, .onHeaderField piece.span)
  | .value piece => (piece.buf, .onHeaderValue piece.span)

/-- The pieces of one request. -/
structure RequestPieces where
  url : List Piece
  headers : List HeaderPiece
  contentLength : Option Nat
  body : List Piece
  shouldKeepAlive : Bool
  position : Nat

namespace RequestPieces

/-- The callbacks up to the end of the headers. -/
def opening (pieces : RequestPieces) : List (Text × ParserCallback) :=
  ([], .onMessageBegin) :: (onUrls pieces.url ++ (pieces.headers.map HeaderPiece.event ++
    [([], .onHeadersComplete pieces.contentLength)]))

/-- The callbacks of the request. -/
def sequence (pieces : RequestPieces) : List (Text × ParserCallback) :=
  pieces.opening ++ onBodies pieces.body ++ [([], .onMessageComplete pieces.shouldKeepAlive pieces.position)]

end RequestPieces

section Request

variable {limits : Limits} {now : Nat} {assembly : Assembly Parser}

theorem requestReady_finishHeaderPair : assembly.finishHeaderPair.requestReady = assembly.requestReady := by
  by_cases pending : assembly.curField = []
  · rw [finishHeaderPair, if_pos pending]
  · rcases finishHeaderPair_of_pending pending with ⟨status, message, saw, whole, _⟩
    rw [whole]

theorem requestReady_checkHeaderBudget : assembly.checkHeaderBudget.1.requestReady = assembly.requestReady := by
  rcases assembly.checkHeaderBudget_cases with ⟨same, _⟩ | ⟨status, message, _, same⟩
  · rw [same]
  · rw [same]

/-- Only the end of the message makes the request ready. -/
theorem requestReady_callback {buf : Text} {event : ParserCallback}
    (other : forall keep position, event ≠ .onMessageComplete keep position) :
    (assembly.callback limits now buf event).1.requestReady = assembly.requestReady := by
  cases event with
  | onMessageBegin =>
      rw [callback, onMessageBegin]
      split_ifs <;> rfl
  | onUrl span =>
      rw [callback, onUrl]
      dsimp only
      split_ifs <;> rfl
  | onHeaderField span =>
      rw [callback, onHeaderField, requestReady_checkHeaderBudget]
      dsimp only
      split_ifs
      · exact requestReady_finishHeaderPair
      · rfl
  | onHeaderValue span =>
      rw [callback, onHeaderValue, requestReady_checkHeaderBudget]
  | onHeadersComplete contentLength =>
      have kept : assembly.finishHeaderPair.requestReady = assembly.requestReady := requestReady_finishHeaderPair
      rw [callback]
      unfold onHeadersComplete
      generalize assembly.finishHeaderPair = finished at kept ⊢
      dsimp only
      split_ifs
      · exact kept
      · exact kept
      · split
        · split_ifs
          · exact kept
          · exact kept
        · exact kept
  | onBody span =>
      rw [callback, onBody]
      split_ifs <;> rfl
  | onMessageComplete keep position => exact absurd rfl (other keep position)

theorem requestReady_run {events : List (Text × ParserCallback)}
    (others : forall event, event ∈ events -> forall keep position, event.2 ≠ .onMessageComplete keep position) :
    (assembly.run limits now events).1.requestReady = assembly.requestReady := by
  induction events generalizing assembly with
  | nil => rfl
  | cons event rest inductionHypothesis =>
      rcases event with ⟨buf, event⟩
      have step : (assembly.callback limits now buf event).1.requestReady = assembly.requestReady :=
        requestReady_callback (others (buf, event) List.mem_cons_self)
      rw [run]
      split_ifs
      · rw [inductionHypothesis fun other member => others other (List.mem_cons_of_mem _ member), step]
      · exact step

/-- A request that is ready has come whole, and no callback stopped the parser. -/
theorem whole_of_ready {llhttp : Llhttp Parser} {pieces : RequestPieces} {events : List (Text × ParserCallback)}
    (some : events <+: pieces.sequence) (ready : ((fresh llhttp).run limits now events).1.requestReady = true) :
    events = pieces.sequence ∧ ((fresh llhttp).run limits now events).2 = true := by
  have others : forall event, event ∈ pieces.opening ++ onBodies pieces.body ->
      forall keep position, event.2 ≠ .onMessageComplete keep position := by
    intro event member keep position
    rw [RequestPieces.opening, List.mem_append, List.mem_cons, List.mem_append, List.mem_append,
      List.mem_singleton] at member
    rcases member with (rfl | url | header | rfl) | body
    · exact fun same => nomatch same
    · rcases List.mem_map.mp url with ⟨piece, _, rfl⟩
      exact fun same => nomatch same
    · rcases List.mem_map.mp header with ⟨piece | piece, _, rfl⟩
      · exact fun same => nomatch same
      · exact fun same => nomatch same
    · exact fun same => nomatch same
    · rcases List.mem_map.mp body with ⟨piece, _, rfl⟩
      exact fun same => nomatch same
  have unready : forall before, before <+: pieces.opening ++ onBodies pieces.body ->
      ((fresh llhttp).run limits now before).1.requestReady = false := fun before early =>
    requestReady_run fun event member => others event (early.subset member)
  rcases List.prefix_concat_iff.mp some with rfl | early
  · refine ⟨rfl, ?_⟩
    rw [run_append] at ready ⊢
    split_ifs at ready ⊢
    · rw [run_singleton]
      rfl
    · exact absurd ready (Bool.eq_false_iff.mp (unready _ (List.prefix_refl _)))
  · exact absurd ready (Bool.eq_false_iff.mp (unready _ early))

/-- The chunks of the URL are put together. -/
theorem run_onUrls {urls : List Piece} (passes : (assembly.run limits now (onUrls urls)).2 = true) :
    (assembly.run limits now (onUrls urls)).1 = { assembly with url := assembly.url ++ joined urls } := by
  induction urls generalizing assembly with
  | nil =>
      rw [joined, List.flatMap_nil, List.append_nil]
      rfl
  | cons piece rest inductionHypothesis =>
      rw [onUrls, List.map_cons, run, ← onUrls] at passes ⊢
      split_ifs at passes ⊢ with first
      rw [inductionHypothesis passes]
      rw [callback, onUrl] at first ⊢
      dsimp only at first ⊢
      split_ifs at first ⊢
      rw [joined_cons, ← List.append_assoc]
      rfl

theorem run_onBodies {bodies : List Piece} (passes : (assembly.run limits now (onBodies bodies)).2 = true) :
    (assembly.run limits now (onBodies bodies)).1 = { assembly with body := assembly.body ++ joined bodies } := by
  induction bodies generalizing assembly with
  | nil =>
      rw [joined, List.flatMap_nil, List.append_nil]
      rfl
  | cons piece rest inductionHypothesis =>
      rw [onBodies, List.map_cons, run, ← onBodies] at passes ⊢
      split_ifs at passes ⊢ with first
      rw [inductionHypothesis passes]
      rw [callback, onBody] at first ⊢
      split_ifs at first ⊢
      rw [joined_cons, ← List.append_assoc]
      rfl

/-- The end of the headers passes only a request without a transfer encoding. -/
theorem onHeadersComplete_of_passes {contentLength : Option Nat}
    (passes : (assembly.onHeadersComplete limits contentLength).2 = true) :
    (assembly.onHeadersComplete limits contentLength).1 = assembly.finishHeaderPair ∧
      assembly.finishHeaderPair.sawTransferEncoding = false := by
  unfold onHeadersComplete at passes ⊢
  dsimp only at passes ⊢
  split_ifs at passes ⊢ with tripped encoded
  refine ⟨?_, Bool.eq_false_iff.mpr encoded⟩
  split at passes
  · split_ifs at passes ⊢
    rfl
  · rfl

/-! ### Fields in pieces -/

/-- A header that comes in pieces. -/
structure FieldPieces where
  name : List Piece
  value : List Piece
  named : joined name ≠ []
  valued : value ≠ []

def FieldPieces.pieces (field : FieldPieces) : List HeaderPiece :=
  field.name.map .field ++ field.value.map .value

/-- The header as it is stored, its name in lower case. -/
def FieldPieces.header (field : FieldPieces) : Text × Text :=
  ((joined field.name).map toLower, joined field.value)

/-- The headers with the pending pair. -/
def heard (assembly : Assembly Parser) : Headers :=
  if assembly.curField = [] then assembly.headers
  else assembly.headers ++ [(assembly.curField.map toLower, assembly.curValue)]

theorem headers_finishHeaderPair : assembly.finishHeaderPair.headers = assembly.heard := by
  rw [heard]
  split_ifs with pending
  · rw [finishHeaderPair, if_pos pending]
  · rcases finishHeaderPair_of_pending pending with ⟨status, message, saw, whole, _⟩
    rw [whole]

/-- No field has come, or the last one has a value. -/
def BetweenFields (assembly : Assembly Parser) : Prop :=
  (assembly.readingValue = true ∧ assembly.curField ≠ []) ∨
    (assembly.readingValue = false ∧ assembly.curField = [] ∧ assembly.curValue = [])

theorem run_onHeaderFields {names : List Piece} (reading : assembly.readingValue = false)
    (passes : (assembly.run limits now (onHeaderFields names)).2 = true) :
    (assembly.run limits now (onHeaderFields names)).1 =
      { assembly with curField := assembly.curField ++ joined names } := by
  induction names generalizing assembly with
  | nil =>
      rw [joined, List.flatMap_nil, List.append_nil]
      rfl
  | cons piece rest inductionHypothesis =>
      rw [onHeaderFields, List.map_cons, run, ← onHeaderFields] at passes ⊢
      split_ifs at passes ⊢ with first
      rw [callback, onHeaderField, if_neg (Bool.eq_false_iff.mp reading)] at first passes ⊢
      rcases checkHeaderBudget_cases { assembly with curField := assembly.curField ++ piece.span.ofBuffer piece.buf } with
        ⟨same, _⟩ | ⟨status, message, _, same⟩
      · rw [same] at passes ⊢
        have still : { assembly with curField := assembly.curField ++ piece.span.ofBuffer piece.buf }.readingValue =
            false := reading
        rw [inductionHypothesis still passes]
        rw [joined_cons, ← List.append_assoc]
        rfl
      · rw [same] at first
        exact nomatch first

theorem run_onHeaderValues {values : List Piece} (some : values ≠ [])
    (passes : (assembly.run limits now (onHeaderValues values)).2 = true) :
    (assembly.run limits now (onHeaderValues values)).1 =
      { assembly with readingValue := true, curValue := assembly.curValue ++ joined values } := by
  induction values generalizing assembly with
  | nil => exact absurd rfl some
  | cons piece rest inductionHypothesis =>
      rw [onHeaderValues, List.map_cons, run, ← onHeaderValues] at passes ⊢
      split_ifs at passes ⊢ with first
      rw [callback, onHeaderValue] at first passes ⊢
      rcases checkHeaderBudget_cases
        { assembly with readingValue := true, curValue := assembly.curValue ++ piece.span.ofBuffer piece.buf } with
        ⟨same, _⟩ | ⟨status, message, _, same⟩
      · rw [same] at passes ⊢
        cases rest with
        | nil =>
            rw [joined, List.flatMap_cons, List.flatMap_nil, List.append_nil]
            rfl
        | cons next rest =>
            rw [inductionHypothesis (List.cons_ne_nil _ _) passes]
            rw [joined_cons piece, ← List.append_assoc]
            rfl
      · rw [same] at first
        exact nomatch first

/-- A whole field adds one header. -/
theorem run_field {field : FieldPieces} (between : BetweenFields assembly)
    (passes : (assembly.run limits now (field.pieces.map HeaderPiece.event)).2 = true) :
    BetweenFields (assembly.run limits now (field.pieces.map HeaderPiece.event)).1 ∧
      (assembly.run limits now (field.pieces.map HeaderPiece.event)).1.heard = assembly.heard ++ [field.header] := by
  have events : field.pieces.map HeaderPiece.event = onHeaderFields field.name ++ onHeaderValues field.value := by
    rw [FieldPieces.pieces, List.map_append, List.map_map, List.map_map]
    rfl
  rw [events] at passes ⊢
  rcases run_append_of_passes passes with ⟨named, whole⟩
  rw [whole] at passes ⊢
  -- The first chunk of the name finishes the pair before.
  have finished : exists start : Assembly Parser, start.readingValue = false ∧ start.curField = [] ∧
      start.curValue = [] ∧ start.headers = assembly.heard ∧
        assembly.run limits now (onHeaderFields field.name) = start.run limits now (onHeaderFields field.name) := by
    rcases between with ⟨reading, pending⟩ | ⟨idle, noField, noValue⟩
    · rcases finishHeaderPair_of_pending pending with ⟨status, message, saw, same, _⟩
      refine ⟨assembly.finishHeaderPair, by rw [same], by rw [same], by rw [same], headers_finishHeaderPair, ?_⟩
      cases names : field.name with
      | nil => exact absurd (by rw [names]; rfl) field.named
      | cons piece rest =>
          rw [onHeaderFields, List.map_cons, run, run]
          have first : assembly.callback limits now piece.buf (.onHeaderField piece.span) =
              assembly.finishHeaderPair.callback limits now piece.buf (.onHeaderField piece.span) := by
            rw [callback, callback, onHeaderField, onHeaderField, reading]
            rw [if_pos rfl, same]
            rfl
          rw [first]
    · exact ⟨assembly, idle, noField, noValue, by rw [heard, if_pos noField], rfl⟩
  rcases finished with ⟨start, reading, noField, noValue, stored, begun⟩
  rw [begun] at named passes ⊢
  rw [run_onHeaderFields reading named, noField, List.nil_append] at passes ⊢
  rw [run_onHeaderValues field.valued passes]
  refine ⟨.inl ⟨rfl, field.named⟩, ?_⟩
  rw [heard, if_neg field.named]
  dsimp only
  rw [stored, noValue, List.nil_append]
  rfl

theorem run_fields {fields : List FieldPieces} (between : BetweenFields assembly)
    (passes : (assembly.run limits now ((fields.flatMap FieldPieces.pieces).map HeaderPiece.event)).2 = true) :
    (assembly.run limits now ((fields.flatMap FieldPieces.pieces).map HeaderPiece.event)).1.heard =
      assembly.heard ++ fields.map FieldPieces.header := by
  induction fields generalizing assembly with
  | nil => exact (List.append_nil _).symm
  | cons field rest inductionHypothesis =>
      rw [List.flatMap_cons, List.map_append] at passes ⊢
      rcases run_append_of_passes passes with ⟨first, whole⟩
      rw [whole] at passes ⊢
      rcases run_field between first with ⟨after, added⟩
      rw [inductionHypothesis after passes, added, List.append_assoc]
      rfl

/-! ### What is handed over -/

/-- A request that is handed over has come whole, within the limits. -/
structure Handed (limits : Limits) (pieces : RequestPieces) (req : HttpRequest) : Prop where
  url_le : (joined pieces.url).length ≤ kMaxUrlBytes
  path : req.path = (joined pieces.url).takeWhile (· != 63)
  query : req.query = ((joined pieces.url).dropWhile (· != 63)).drop 1
  count : req.headers.length ≤ kMaxHeaderCount
  size : headersSize req.headers ≤ kMaxHeaderBytes
  encoding : forall header, header ∈ req.headers -> ¬ isTransferEncoding header
  continue_ : forall header, header ∈ req.headers -> ¬ isContinue header
  headers : forall fields : List FieldPieces, pieces.headers = fields.flatMap FieldPieces.pieces ->
    req.headers = fields.map FieldPieces.header
  body : req.body = joined pieces.body
  body_le : req.body.length ≤ limits.maxBodyBytes

theorem kept_finishHeaderPair :
    assembly.finishHeaderPair.url = assembly.url ∧ assembly.finishHeaderPair.body = assembly.body := by
  by_cases pending : assembly.curField = []
  · rw [finishHeaderPair, if_pos pending]
    exact ⟨rfl, rfl⟩
  · rcases finishHeaderPair_of_pending pending with ⟨status, message, saw, whole, _⟩
    rw [whole]
    exact ⟨rfl, rfl⟩

theorem kept_checkHeaderBudget :
    assembly.checkHeaderBudget.1.url = assembly.url ∧ assembly.checkHeaderBudget.1.body = assembly.body := by
  rcases assembly.checkHeaderBudget_cases with ⟨same, _⟩ | ⟨status, message, _, same⟩
  · rw [same]
    exact ⟨rfl, rfl⟩
  · rw [same]
    exact ⟨rfl, rfl⟩

/-- The headers leave the URL and the body alone. -/
theorem kept_run_headers {headers : List HeaderPiece} :
    (assembly.run limits now (headers.map HeaderPiece.event)).1.url = assembly.url ∧
      (assembly.run limits now (headers.map HeaderPiece.event)).1.body = assembly.body := by
  induction headers generalizing assembly with
  | nil => exact ⟨rfl, rfl⟩
  | cons header rest inductionHypothesis =>
      have step : (assembly.callback limits now header.event.1 header.event.2).1.url = assembly.url ∧
          (assembly.callback limits now header.event.1 header.event.2).1.body = assembly.body := by
        cases header with
        | field piece =>
            rw [HeaderPiece.event, callback, onHeaderField, kept_checkHeaderBudget.1, kept_checkHeaderBudget.2]
            dsimp only
            split_ifs
            · exact kept_finishHeaderPair
            · exact ⟨rfl, rfl⟩
        | value piece =>
            rw [HeaderPiece.event, callback, onHeaderValue, kept_checkHeaderBudget.1, kept_checkHeaderBudget.2]
            exact ⟨rfl, rfl⟩
      rw [List.map_cons, ← Prod.eta header.event, run]
      split_ifs
      · rw [inductionHypothesis.1, inductionHypothesis.2]
        exact step
      · exact step

/-- A request before its headers. -/
def afterUrl (llhttp : Llhttp Parser) (now : Nat) (pieces : RequestPieces) : Assembly Parser :=
  { fresh llhttp with requestStartedAt := now, url := joined pieces.url }

/-- Where the end of the headers passes, the last pair is finished and no transfer encoding was seen. -/
theorem run_opening {llhttp : Llhttp Parser} {pieces : RequestPieces}
    (passes : ((fresh llhttp).run limits now pieces.opening).2 = true) :
    exists listed, (afterUrl llhttp now pieces).run limits now (pieces.headers.map HeaderPiece.event) = (listed, true) ∧
      ((fresh llhttp).run limits now pieces.opening).1 = listed.finishHeaderPair ∧
        listed.finishHeaderPair.sawTransferEncoding = false := by
  have begun : (fresh llhttp).run limits now pieces.opening =
      { fresh llhttp with requestStartedAt := now }.run limits now (onUrls pieces.url ++
        (pieces.headers.map HeaderPiece.event ++
          [([], ParserCallback.onHeadersComplete pieces.contentLength)])) := by
    rw [RequestPieces.opening, run]
    rfl
  rw [begun] at passes ⊢
  rcases run_append_of_passes passes with ⟨urls, afterUrls⟩
  have located : ({ fresh llhttp with requestStartedAt := now }.run limits now (onUrls pieces.url)).1 =
      afterUrl llhttp now pieces := run_onUrls urls
  rw [afterUrls, located] at passes ⊢
  rcases run_append_of_passes passes with ⟨listed, afterHeaders⟩
  rw [afterHeaders, run_singleton] at passes ⊢
  exact ⟨_, Prod.ext rfl listed, onHeadersComplete_of_passes passes⟩

theorem exists_chunkSize (events : List (Text × ParserCallback)) :
    exists chunkSize, forall event, event ∈ events -> (chunk event.1 event.2).length ≤ chunkSize := by
  induction events with
  | nil => exact ⟨0, fun event member => absurd member List.not_mem_nil⟩
  | cons first rest inductionHypothesis =>
      rcases inductionHypothesis with ⟨chunkSize, small⟩
      refine ⟨max (chunk first.1 first.2).length chunkSize, fun event member => ?_⟩
      rcases List.mem_cons.mp member with rfl | later
      · exact Nat.le_max_left _ _
      · exact Nat.le_trans (small event later) (Nat.le_max_right _ _)

/-- What the callbacks of a whole request leave. -/
theorem handed_of_whole {llhttp : Llhttp Parser} {pieces : RequestPieces} {whole : Assembly Parser} {req : HttpRequest}
    (ran : (fresh llhttp).run limits now pieces.sequence = (whole, true))
    (path : req.path = whole.url.takeWhile (· != 63)) (query : req.query = (whole.url.dropWhile (· != 63)).drop 1)
    (headers : req.headers = whole.headers) (body : req.body = whole.body) : Handed limits pieces req := by
  have within : Within limits whole := by
    rcases exists_chunkSize pieces.sequence with ⟨chunkSize, small⟩
    have kept : Bounded limits chunkSize ((fresh llhttp).run limits now pieces.sequence).1 ∧
        (((fresh llhttp).run limits now pieces.sequence).2 = true ->
          Within limits ((fresh llhttp).run limits now pieces.sequence).1) :=
      (within_fresh llhttp).run small
    rw [ran] at kept
    exact kept.2 rfl
  have passes := congrArg Prod.snd ran
  rw [RequestPieces.sequence, List.append_assoc] at ran passes
  rcases run_append_of_passes passes with ⟨opened, afterOpening⟩
  rw [afterOpening] at ran passes
  rcases run_append_of_passes passes with ⟨filled, afterBodies⟩
  rcases run_opening opened with ⟨listed, ranHeaders, completed, unseen⟩
  rw [afterBodies, run_onBodies filled, run_singleton, completed] at ran
  have result : whole = { listed.finishHeaderPair with
      body := listed.finishHeaderPair.body ++ joined pieces.body
      keepAlive := pieces.shouldKeepAlive
      requestReady := true } := (congrArg Prod.fst ran).symm
  have kept : ((afterUrl llhttp now pieces).run limits now (pieces.headers.map HeaderPiece.event)).1.url =
        (afterUrl llhttp now pieces).url ∧
      ((afterUrl llhttp now pieces).run limits now (pieces.headers.map HeaderPiece.event)).1.body =
        (afterUrl llhttp now pieces).body :=
    kept_run_headers
  rw [ranHeaders] at kept
  have located : whole.url = joined pieces.url := by
    rw [result]
    exact kept_finishHeaderPair.1.trans kept.1
  have stored : whole.headers = listed.heard := by
    rw [result]
    exact headers_finishHeaderPair
  constructor
  case url_le => exact located ▸ within.url
  case path => rw [path, located]
  case query => rw [query, located]
  case count =>
    rw [headers]
    exact (within.passed within.accepted).1
  case size =>
    have held := within.held
    rw [headersHeld] at held
    rw [headers]
    omega
  case encoding =>
    rw [headers]
    refine within.encoding ?_
    rw [result]
    exact unseen
  case continue_ =>
    rw [headers]
    exact (within.passed within.accepted).2
  case headers =>
    intro fields inPieces
    have between : BetweenFields (afterUrl llhttp now pieces) := .inr ⟨rfl, rfl, rfl⟩
    have whole : ((afterUrl llhttp now pieces).run limits now
        ((fields.flatMap FieldPieces.pieces).map HeaderPiece.event)).2 = true := by
      rw [← inPieces, ranHeaders]
    have joins := run_fields between whole
    rw [← inPieces, ranHeaders] at joins
    rw [headers, stored]
    exact joins
  case body =>
    rw [body, result]
    dsimp only
    rw [kept_finishHeaderPair.2, kept.2]
    rfl
  case body_le =>
    rw [body]
    exact within.body

end Request

end Assembly

namespace Connection

variable {Parser : Type} {llhttp : Llhttp Parser} {conn : Connection Parser} {outside : Outside} {req : HttpRequest}

theorem dispatched_startClose (handed : .dispatched req ∈ conn.startClose.log) : .dispatched req ∈ conn.log := by
  unfold startClose notifyClosed closeTcp closeTimer emit at handed
  split_ifs at handed
  all_goals simpa using handed

theorem dispatched_writeRaw {payload : Text} {mode : WriteMode}
    (handed : .dispatched req ∈ (conn.writeRaw outside payload mode).log) : .dispatched req ∈ conn.log := by
  rcases writeRaw_cases conn outside payload mode with ⟨_, same⟩ | ⟨_, started, same | same⟩
  · rwa [same] at handed
  · rw [same] at handed
    exact (dispatched_startClose handed :)
  · rw [same] at handed
    rcases List.mem_cons.mp handed with wrote | earlier
    · exact nomatch wrote
    · exact earlier

theorem dispatched_refuse {status : Int} {message : Text}
    (handed : .dispatched req ∈ (conn.refuse outside status message).log) : .dispatched req ∈ conn.log := by
  rw [refuse, writeResponse] at handed
  exact (dispatched_writeRaw handed :)

/-- Only a request that is ready is handed over, as it was assembled. -/
theorem dispatched_onExecuted {bytes : Text} {err : LlhttpErrno} {errorPos : Option Nat}
    (handed : .dispatched req ∈ (conn.onExecuted llhttp outside bytes err errorPos).log)
    (isNew : .dispatched req ∉ conn.log) :
    conn.assembly.requestReady = true ∧ req.path = conn.assembly.url.takeWhile (· != 63) ∧
      req.query = (conn.assembly.url.dropWhile (· != 63)).drop 1 ∧ req.headers = conn.assembly.headers ∧
        req.body = conn.assembly.body := by
  rw [onExecuted] at handed
  split_ifs at handed with rejected ready left malformed
  · exact absurd (dispatched_refuse handed) isNew
  · rcases List.mem_cons.mp handed with same | earlier
    · cases same
      exact ⟨ready, rfl, rfl, rfl, rfl⟩
    · exact absurd earlier isNew
  · rcases List.mem_cons.mp handed with same | earlier
    · cases same
      exact ⟨ready, rfl, rfl, rfl, rfl⟩
    · exact absurd earlier isNew
  · exact absurd (dispatched_refuse handed) isNew
  · exact absurd handed isNew

/-- Whatever callbacks the parser makes, what is stored is bounded; and only a
request within every limit is handed over. -/
theorem requests_withinLimits (llhttp : Llhttp Parser) (limits : Limits) (now : Nat) :
    (forall (chunkSize : Nat) (events : List (Text × ParserCallback)),
      (forall event, event ∈ events -> (Assembly.chunk event.1 event.2).length ≤ chunkSize) ->
        Assembly.Bounded limits chunkSize ((Assembly.fresh llhttp).run limits now events).1) ∧
    forall (pieces : Assembly.RequestPieces) (events : List (Text × ParserCallback)) (conn : Connection Parser)
      (outside : Outside) (bytes : Text) (err : LlhttpErrno) (errorPos : Option Nat) (req : HttpRequest),
      events <+: pieces.sequence ->
      conn.assembly = { ((Assembly.fresh llhttp).run limits now events).1 with
        parser := conn.assembly.parser, requestStartedAt := conn.assembly.requestStartedAt } ->
      .dispatched req ∈ (conn.onExecuted llhttp outside bytes err errorPos).log -> .dispatched req ∉ conn.log ->
        Assembly.Handed limits pieces req := by
  refine ⟨fun chunkSize events small => ((Assembly.within_fresh llhttp).run small).1, ?_⟩
  intro pieces events conn outside bytes err errorPos req some assembled handed isNew
  rcases dispatched_onExecuted handed isNew with ⟨ready, path, query, headers, body⟩
  rw [assembled] at ready path query headers body
  rcases Assembly.whole_of_ready some ready with ⟨rfl, passes⟩
  exact Assembly.handed_of_whole (Prod.ext rfl passes) path query headers body

/-- `GET /a` with `Host: x`, the name in two pieces. -/
def splitHost : Assembly.RequestPieces where
  url := [⟨[47, 97], ⟨0, 2⟩⟩]
  headers := [.field ⟨[72, 111], ⟨0, 2⟩⟩, .field ⟨[115, 116], ⟨0, 2⟩⟩, .value ⟨[120], ⟨0, 1⟩⟩]
  contentLength := none
  body := []
  shouldKeepAlive := true
  position := 0

/-- A parser that does nothing by itself. -/
def silentParser : Llhttp Unit where
  init := ()
  callbacks _ _ := []
  outcome _ _ _ := ⟨(), .hpeOk, none⟩
  methodName _ := [71, 69, 84]

def hostConnection : Connection Unit :=
  { create silentParser ⟨10, 0, 0⟩ [] 0 with
    assembly := ((Assembly.fresh silentParser).run ⟨10, 0, 0⟩ 0 splitHost.sequence).1 }

theorem requests_withinLimits_split :
    Assembly.Bounded ⟨10, 0, 0⟩ 2 ((Assembly.fresh silentParser).run ⟨10, 0, 0⟩ 0 splitHost.sequence).1 ∧
      Assembly.Handed ⟨10, 0, 0⟩ splitHost (hostConnection.assembly.request silentParser []) := by
  have promises := requests_withinLimits silentParser ⟨10, 0, 0⟩ 0
  have accepted : hostConnection.assembly.rejectStatus = kStatusNone := by decide +kernel
  have ready : hostConnection.assembly.requestReady = true := by decide +kernel
  refine ⟨promises.1 2 splitHost.sequence (by decide), ?_⟩
  refine promises.2 splitHost splitHost.sequence hostConnection ⟨true, true, ⟨0, 0, 0, 0, 0, 0, 0⟩⟩ [] .hpePaused none _
    (List.prefix_refl _) rfl ?_ List.not_mem_nil
  have whole : ¬ hostConnection.assembly.leftOver [] none = true := by decide +kernel
  rw [onExecuted, if_neg (not_not.mpr accepted), if_pos ready, if_neg whole]
  exact List.mem_cons_self

end Connection
end BravoFinder
