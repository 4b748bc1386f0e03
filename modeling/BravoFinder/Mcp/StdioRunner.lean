import BravoFinder.Mcp.Replies
import BravoFinder.Library.LineFraming

namespace BravoFinder
namespace Mcp

/-!
# Requests line by line

The transport reads a line of standard input without holding more of it than its
bound, parses it, and writes the reply on a line of standard output.  What the
parser makes of a text is a parameter.
-/

def JsonRpc.kParseError : Int := -32700

def kMaxLineLen : Nat := 16 * 1024 * 1024

inductive LineResult where
  | kOk
  | kOversized
  | kEof
deriving DecidableEq

/-- A line as it was read, how long the buffer grew for it, and the input after it. -/
structure LineRead where
  result : LineResult
  out : Text
  held : Nat
  rest : Text

/-- The loop of `ReadBoundedLine`: the input, the line so far, whether it is too
long and whether anything was read. -/
def readChars (maxLen : Nat) : Text -> Text -> Bool -> Bool -> LineRead
  | [], out, oversized, sawAny =>
      ⟨if !sawAny then .kEof else if oversized then .kOversized else .kOk, out, out.length, []⟩
  | ch :: rest, out, oversized, _ =>
      if ch = 10 then
        ⟨if oversized then .kOversized else .kOk, if out.getLast? = some 13 then out.dropLast else out, out.length,
          rest⟩
      else if out.length < maxLen then readChars maxLen rest (out ++ [ch]) oversized true
      else readChars maxLen rest out true true

/-- `ReadBoundedLine`. -/
def readBoundedLine (stdin : Text) (maxLen : Nat) : LineRead :=
  readChars maxLen stdin [] false false

/-- `JsonRpcFramingError`. -/
def jsonRpcFramingError (writer : JsonWriter) (code : Int) (message : Text) : Text :=
  writer.write (makeError .null code message)

/-- `ParseRequest`: the document, or the code and the text of the framing error. -/
def parseRequest (parse : Text -> Option Json) (line : Text) : Except (Int × Text) Json :=
  if line.isEmpty then .error (JsonRpc.kParseError, ofString "empty request")
  else
    match parse line with
    | none => .error (JsonRpc.kParseError, ofString "parse error")
    | some (.object members) => .ok (.object members)
    | some (.array elements) => .ok (.array elements)
    | some _ => .error (JsonRpc.kInvalidRequest, ofString "request must be a JSON object or array")

/-- A line of input: its bytes, and whether its newline came. -/
structure RequestLine where
  bytes : Text
  ended : Bool

/-- The lines of the input, the last of which may not be ended. -/
def requestLines (stdin : Text) : List RequestLine :=
  let (lines, tail) := splitStream 10 stdin
  lines.map (⟨·, true⟩) ++ if tail.isEmpty then [] else [⟨tail, false⟩]

namespace RequestLine

/-- The request of a line: a carriage return belongs to the newline. -/
def text (line : RequestLine) : Text :=
  if line.ended && line.bytes.getLast? == some 13 then line.bytes.dropLast else line.bytes

def Fits (line : RequestLine) : Prop :=
  line.bytes.length ≤ kMaxLineLen

instance (line : RequestLine) : Decidable line.Fits :=
  inferInstanceAs (Decidable (line.bytes.length ≤ kMaxLineLen))

end RequestLine

section Reading

variable {maxLen : Nat}

/-- The buffer does not grow beyond the bound. -/
theorem held_readChars_le {out : Text} (within : out.length ≤ maxLen) (stdin : Text) (oversized sawAny : Bool) :
    (readChars maxLen stdin out oversized sawAny).held ≤ maxLen := by
  induction stdin generalizing out oversized sawAny with
  | nil => exact within
  | cons ch rest inductionHypothesis =>
      rw [readChars]
      by_cases newline : ch = 10
      · rw [if_pos newline]
        exact within
      · rw [if_neg newline]
        by_cases room : out.length < maxLen
        · rw [if_pos room]
          apply inductionHypothesis
          rw [List.length_append, List.length_singleton]
          exact room
        · rw [if_neg room]
          exact inductionHypothesis within _ _

theorem held_readBoundedLine_le (stdin : Text) : (readBoundedLine stdin maxLen).held ≤ maxLen :=
  held_readChars_le (Nat.zero_le _) stdin false false

/-- A read that is not at the end takes a character. -/
theorem length_rest_readChars (stdin out : Text) (oversized sawAny : Bool) :
    (readChars maxLen stdin out oversized sawAny).rest.length ≤ stdin.length - 1 := by
  induction stdin generalizing out oversized sawAny with
  | nil => simp [readChars]
  | cons ch rest inductionHypothesis =>
      rw [readChars, List.length_cons]
      by_cases newline : ch = 10
      · rw [if_pos newline]
        exact Nat.le_refl rest.length
      · rw [if_neg newline]
        by_cases room : out.length < maxLen
        · have shorter := inductionHypothesis (out ++ [ch]) oversized true
          rw [if_pos room]
          omega
        · have shorter := inductionHypothesis out true true
          rw [if_neg room]
          omega

theorem length_rest_lt {stdin : Text} (more : (readBoundedLine stdin maxLen).result ≠ .kEof) :
    (readBoundedLine stdin maxLen).rest.length < stdin.length := by
  cases stdin with
  | nil => exact absurd rfl more
  | cons ch rest =>
      have shorter : (readChars maxLen (ch :: rest) [] false false).rest.length ≤ (ch :: rest).length - 1 :=
        length_rest_readChars _ _ _ _
      rw [List.length_cons] at shorter ⊢
      exact Nat.lt_succ_of_le shorter

/-- Characters before a newline are kept up to the bound. -/
theorem readChars_append {line : Text} (clean : 10 ∉ line) {out : Text} (within : out.length ≤ maxLen) (rest : Text)
    (oversized sawAny : Bool) :
    readChars maxLen (line ++ rest) out oversized sawAny =
      readChars maxLen rest (out ++ line.take (maxLen - out.length))
        (oversized || decide (maxLen < out.length + line.length)) (sawAny || !line.isEmpty) := by
  induction line generalizing out oversized sawAny with
  | nil => simp [Nat.not_lt.mpr within]
  | cons ch others inductionHypothesis =>
      rw [List.mem_cons, not_or] at clean
      rw [List.cons_append, readChars, if_neg (Ne.symm clean.1)]
      by_cases room : out.length < maxLen
      · have grown : (out ++ [ch]).length = out.length + 1 := List.length_append
        have left : maxLen - out.length = (maxLen - (out.length + 1)) + 1 := by omega
        rw [if_pos room, inductionHypothesis clean.2 (by omega), grown, left, List.take_succ_cons,
          List.append_assoc, List.singleton_append, List.length_cons, Nat.add_right_comm, Nat.add_assoc]
        simp
      · have full : maxLen - out.length = 0 := by omega
        have tooLong : maxLen < out.length + (ch :: others).length := by
          rw [List.length_cons]
          omega
        rw [if_neg room, inductionHypothesis clean.2 within, full, decide_eq_true tooLong]
        simp

/-- What is kept of an ended line, which is drained. -/
theorem readBoundedLine_ended {line : Text} (clean : 10 ∉ line) (rest : Text) :
    readBoundedLine (line ++ 10 :: rest) maxLen =
      ⟨if maxLen < line.length then .kOversized else .kOk,
        if (line.take maxLen).getLast? = some 13 then (line.take maxLen).dropLast else line.take maxLen,
        (line.take maxLen).length, rest⟩ := by
  rw [readBoundedLine, readChars_append clean (Nat.zero_le _), readChars, if_pos rfl]
  simp

/-- The end of the input ends a line that has begun. -/
theorem readBoundedLine_tail {tail : Text} (clean : 10 ∉ tail) (begun : tail ≠ []) :
    readBoundedLine tail maxLen =
      ⟨if maxLen < tail.length then .kOversized else .kOk, tail.take maxLen, (tail.take maxLen).length, []⟩ := by
  have drained := readChars_append clean (show ([] : Text).length ≤ maxLen from Nat.zero_le maxLen) [] false false
  rw [List.append_nil] at drained
  have some_ : (!tail.isEmpty) = true := by simpa using begun
  rw [readBoundedLine, drained, some_, readChars]
  simp

end Reading

section Running

variable {NavDatabase : Type} (parse : Text -> Option Json) (dispatcher : Dispatcher NavDatabase)

/-- What is written for a line that was read, if anything. -/
def replyTo (result : LineResult) (out : Text) : Option Text :=
  match result with
  | .kEof => none
  | .kOversized => some (jsonRpcFramingError dispatcher.writer JsonRpc.kParseError (ofString "request line too large"))
  | .kOk =>
      match parseRequest parse out with
      | .error (code, message) => some (jsonRpcFramingError dispatcher.writer code message)
      | .ok doc => dispatcher.dispatch doc

/-- `WriteStdoutLine`. -/
def writeStdoutLine (payload : Text) : Text :=
  payload ++ [10]

/-- `Run`: what is written to standard output. -/
def run (stdin : Text) : Text :=
  let read := readBoundedLine stdin kMaxLineLen
  if _ : read.result = .kEof then []
  else ((replyTo parse dispatcher read.result read.out).map writeStdoutLine).getD [] ++ run read.rest
termination_by stdin.length
decreasing_by exact length_rest_lt (by assumption)

/-- The reads of a run, up to the end of the input. -/
def lineReads (stdin : Text) : List LineRead :=
  let read := readBoundedLine stdin kMaxLineLen
  if _ : read.result = .kEof then [] else read :: lineReads read.rest
termination_by stdin.length
decreasing_by exact length_rest_lt (by assumption)

/-- What is written for a line of input. -/
def lineReply (line : RequestLine) : Option Text :=
  replyTo parse dispatcher (if line.Fits then .kOk else .kOversized) line.text

variable {parse dispatcher}

/-- What is kept of a line counts only when the line is not too long. -/
theorem replyTo_congr {result other : LineResult} {out text : Text} (same : result = other)
    (kept : result = .kOk -> out = text) :
    replyTo parse dispatcher result out = replyTo parse dispatcher other text := by
  subst same
  cases result with
  | kOk => rw [kept rfl]
  | _ => rfl

/-- A run writes what is replied to its reads, which never hold more than the bound. -/
theorem run_eq_reads (stdin : Text) :
    (run parse dispatcher stdin = (lineReads stdin).flatMap fun read =>
        ((replyTo parse dispatcher read.result read.out).map writeStdoutLine).getD []) ∧
      forall read, read ∈ lineReads stdin -> read.held ≤ kMaxLineLen := by
  induction stdin using lineReads.induct with
  | case1 stdin read last =>
      rw [run, dif_pos last, lineReads, dif_pos last]
      exact ⟨rfl, fun _ member => absurd member List.not_mem_nil⟩
  | case2 stdin read more inductionHypothesis =>
      rw [run, dif_neg more, lineReads, dif_neg more, List.flatMap_cons, inductionHypothesis.1]
      exact ⟨rfl, List.forall_mem_cons.mpr ⟨held_readBoundedLine_le stdin, inductionHypothesis.2⟩⟩

theorem run_nil : run parse dispatcher [] = [] := by
  rw [run]
  rfl

/-- A read that says whether the line fits, and has its text if it does, is answered as the line. -/
theorem replyTo_line {read : LineRead} {line : RequestLine}
    (result : read.result = if kMaxLineLen < line.bytes.length then .kOversized else .kOk)
    (out : line.Fits -> read.out = line.text) :
    replyTo parse dispatcher read.result read.out = lineReply parse dispatcher line ∧ read.result ≠ .kEof := by
  by_cases fits : line.Fits
  · rw [if_neg (Nat.not_lt.mpr fits)] at result
    refine ⟨replyTo_congr ?_ fun _ => out fits, ?_⟩
    · rw [result, if_pos fits]
    · rw [result]
      decide
  · rw [if_pos (Nat.lt_of_not_le fits)] at result
    refine ⟨replyTo_congr ?_ ?_, ?_⟩
    · rw [result, if_neg fits]
    · rw [result]
      intro ok
      cases ok
    · rw [result]
      decide

/-- A turn of the loop answers one ended line. -/
theorem run_ended {line : Text} (clean : 10 ∉ line) (rest : Text) :
    run parse dispatcher (line ++ 10 :: rest) =
      ((lineReply parse dispatcher ⟨line, true⟩).map writeStdoutLine).getD [] ++ run parse dispatcher rest := by
  have read : readBoundedLine (line ++ 10 :: rest) kMaxLineLen = _ := readBoundedLine_ended clean rest
  have out : RequestLine.Fits ⟨line, true⟩ ->
      (readBoundedLine (line ++ 10 :: rest) kMaxLineLen).out = RequestLine.text ⟨line, true⟩ := by
    intro fits
    rw [read]
    simp [RequestLine.text, List.take_of_length_le (show line.length ≤ kMaxLineLen from fits)]
  rcases replyTo_line (congrArg LineRead.result read) out with ⟨same, more⟩
  rw [run, dif_neg more, same, read]

/-- A line without its newline is the last. -/
theorem run_tail {tail : Text} (clean : 10 ∉ tail) (begun : tail ≠ []) :
    run parse dispatcher tail = ((lineReply parse dispatcher ⟨tail, false⟩).map writeStdoutLine).getD [] := by
  have read : readBoundedLine tail kMaxLineLen = _ := readBoundedLine_tail clean begun
  have out : RequestLine.Fits ⟨tail, false⟩ ->
      (readBoundedLine tail kMaxLineLen).out = RequestLine.text ⟨tail, false⟩ := by
    intro fits
    rw [read]
    simp [RequestLine.text, List.take_of_length_le (show tail.length ≤ kMaxLineLen from fits)]
  rcases replyTo_line (congrArg LineRead.result read) out with ⟨same, more⟩
  rw [run, dif_neg more, same, read, run_nil, List.append_nil]

/-- A run writes one line for each line that is answered, in order. -/
theorem run_eq (stdin : Text) :
    run parse dispatcher stdin = joinStream 10 ((requestLines stdin).filterMap (lineReply parse dispatcher)) := by
  induction stdin using stream_induction (10 : UInt8) with
  | ofTail tail clean =>
      rw [requestLines, splitStream_of_not_mem clean]
      rcases tail with _ | ⟨first, others⟩
      · exact run_nil
      · rw [run_tail clean (List.cons_ne_nil _ _)]
        simp only [List.map_nil, List.nil_append, List.isEmpty_cons, Bool.false_eq_true, if_false, List.filterMap_cons]
        cases lineReply parse dispatcher ⟨first :: others, false⟩ <;> simp [joinStream, writeStdoutLine]
  | ofLine line rest clean inductionHypothesis =>
      have lines : requestLines (line ++ 10 :: rest) = ⟨line, true⟩ :: requestLines rest := by
        simp [requestLines, splitStream_append clean]
      rw [run_ended clean, inductionHypothesis, lines, List.filterMap_cons]
      cases lineReply parse dispatcher ⟨line, true⟩ <;> simp [joinStream, writeStdoutLine]

end Running

/-! ## What is answered -/

/-- The answer to a line, by what the line holds. -/
inductive Answers (writer : JsonWriter) (parse : Text -> Option Json) (line : RequestLine) : Text -> Prop where
  | tooLarge (long : ¬ line.Fits) :
      Answers writer parse line (jsonRpcFramingError writer JsonRpc.kParseError (ofString "request line too large"))
  | empty (fits : line.Fits) (blank : line.text = []) :
      Answers writer parse line (jsonRpcFramingError writer JsonRpc.kParseError (ofString "empty request"))
  | unparsed (fits : line.Fits) (filled : line.text ≠ []) (failed : parse line.text = none) :
      Answers writer parse line (jsonRpcFramingError writer JsonRpc.kParseError (ofString "parse error"))
  | noRequest (fits : line.Fits) (filled : line.text ≠ []) {value : Json} (parsed : parse line.text = some value)
      (notObject : value.isObject = false) (notArray : forall elements, value ≠ .array elements) :
      Answers writer parse line
        (jsonRpcFramingError writer JsonRpc.kInvalidRequest (ofString "request must be a JSON object or array"))
  | single (fits : line.Fits) (filled : line.text ≠ []) {request : Json} (parsed : parse line.text = some request)
      (isObject : request.isObject = true) {reply : Json} (envelope : IsEnvelopeOf request reply) :
      Answers writer parse line (writer.write reply)
  | refused (fits : line.Fits) (filled : line.text ≠ []) {elements : List Json}
      (parsed : parse line.text = some (.array elements))
      (size : elements = [] ∨ kMaxBatchSize < elements.length) (message : Text) :
      Answers writer parse line (writer.write (makeError .null JsonRpc.kInvalidRequest message))
  | batch (fits : line.Fits) (filled : line.text ≠ []) {elements : List Json}
      (parsed : parse line.text = some (.array elements)) (within : elements.length ≤ kMaxBatchSize)
      {replies : List Json}
      (each : List.Forall₂ IsReplyTo (elements.filter fun element => !silentByDesign element) replies)
      (some_ : replies ≠ []) :
      Answers writer parse line (writer.writeArray (replies.map writer.write))

/-- A notification of version 2.0, alone. -/
def silentAlone (request : Json) : Bool :=
  request.isObject && (request.member? (ofString "id")).isNone &&
    decide (request.string? (ofString "jsonrpc") = some JsonRpc.kVersion)

/-- Whether a document asks for no reply: a notification, or a batch of nothing else. -/
def silentDocument : Json -> Bool
  | .array elements => !elements.isEmpty && decide (elements.length ≤ kMaxBatchSize) && elements.all silentByDesign
  | request => silentAlone request

/-- Whether a line asks for no reply. -/
def silentLine (parse : Text -> Option Json) (line : RequestLine) : Bool :=
  decide line.Fits && !line.text.isEmpty && (parse line.text).any silentDocument

section Answering

variable {NavDatabase : Type} {parse : Text -> Option Json} {dispatcher : Dispatcher NavDatabase}

/-- Alone, exactly the notifications of version 2.0 get no envelope. -/
theorem dispatchOne_alone_eq_none_iff {request : Json} (isObject : request.isObject = true) :
    dispatcher.dispatchOne request false = none ↔ silentAlone request = true := by
  rw [Dispatcher.dispatchOne, silentAlone, isObject, Bool.not_true, if_neg (by decide), Bool.true_and]
  simp only
  rcases lookup : request.member? (ofString "id") with _ | id
  · rw [Option.map_none, Option.getD_none, if_neg (by decide), Option.isNone_none, Bool.true_and, decide_eq_true_iff]
    by_cases version : request.string? (ofString "jsonrpc") = some JsonRpc.kVersion
    · rw [if_neg (not_not.mpr version)]
      constructor
      · exact fun _ => version
      · intro _
        split
        · rfl
        · rw [Dispatcher.runMethod]
          split_ifs <;> first | rfl | contradiction
    · rw [if_pos version]
      constructor
      · intro none
        cases none
      · exact fun same => absurd same version
  · rw [Option.isNone_some, Bool.false_and]
    constructor
    · intro none
      split_ifs at none
      split at none
      · cases none
      · rename_i echoable _ _ method _
        have echoed : (some id).getD .null = echoedId request := by
          rw [← lookup]
          apply echoedId_of_echoable
          rw [lookup]
          exact Bool.not_eq_false _ ▸ echoable
        rcases runMethod_cases dispatcher echoed method false with ⟨absent, _⟩ | ⟨_, reply, replied, _⟩
        · cases absent
        · rw [none] at replied
          cases replied
    · intro false_
      cases false_

/-- A document that is an object or an array is silent, or answered. -/
theorem dispatch_cases (splices : dispatcher.writer.SplicesArrays) {line : RequestLine} (fits : line.Fits) (filled : line.text ≠ []) {document : Json}
    (parsed : parse line.text = some document)
    (isRequest : document.isObject = true ∨ exists elements, document = .array elements) :
    (dispatcher.dispatch document = none ∧ silentDocument document = true) ∨
      exists reply, dispatcher.dispatch document = some reply ∧ Answers dispatcher.writer parse line reply ∧
        silentDocument document = false := by
  have corresponds := repliesCorrespond dispatcher splices
  rcases isRequest with isObject | ⟨elements, rfl⟩
  · have alone : silentDocument document = silentAlone document := by
      cases document <;> first | rfl | cases isObject
    have notBatch : forall elements, document ≠ .array elements := by
      rintro elements rfl
      cases isObject
    have one : dispatcher.dispatch document = (dispatcher.dispatchOne document false).map dispatcher.writer.write := by
      cases document <;> first | rfl | cases isObject
    have silent : dispatcher.dispatchOne document false = none ↔ silentAlone document = true :=
      dispatchOne_alone_eq_none_iff isObject
    rw [alone]
    rcases corresponds.single document notBatch with none | ⟨reply, envelope, replied⟩
    · refine Or.inl ⟨none, silent.mp ?_⟩
      rw [one] at none
      exact Option.map_eq_none_iff.mp none
    · refine Or.inr ⟨_, replied, Answers.single fits filled parsed isObject envelope, ?_⟩
      rw [← Bool.not_eq_true, ← silent]
      intro none
      rw [one, none] at replied
      cases replied
  · by_cases blank : elements = []
    · rcases corresponds.empty with ⟨message, replied⟩
      rw [blank] at parsed ⊢
      exact Or.inr ⟨_, replied, Answers.refused fits filled parsed (Or.inl rfl) message, rfl⟩
    · by_cases within : elements.length ≤ kMaxBatchSize
      · rcases corresponds.batch elements blank within with ⟨replies, each, replied⟩
        have size : silentDocument (.array elements) = elements.all silentByDesign := by
          simp [silentDocument, blank, within]
        rw [replied, size]
        by_cases none : replies = []
        · refine Or.inl ⟨if_pos none, ?_⟩
          rw [none, List.forall₂_nil_right_iff, List.filter_eq_nil_iff] at each
          simpa using each
        · refine Or.inr ⟨_, if_neg none, Answers.batch fits filled parsed within each none, ?_⟩
          rw [← Bool.not_eq_true, List.all_eq_true]
          intro all
          apply none
          have nothing : elements.filter (fun element => !silentByDesign element) = [] := by
            rw [List.filter_eq_nil_iff]
            intro element member
            simp [all element member]
          rw [nothing] at each
          exact List.forall₂_nil_left_iff.mp each
      · have above := Nat.lt_of_not_le within
        rcases corresponds.oversized elements above with ⟨message, replied⟩
        refine Or.inr ⟨_, replied, Answers.refused fits filled parsed (Or.inr above) message, ?_⟩
        simp [silentDocument, within]

/-- A line is silent, or gets its answer. -/
theorem lineReply_cases (splices : dispatcher.writer.SplicesArrays) (line : RequestLine) :
    (lineReply parse dispatcher line = none ∧ silentLine parse line = true) ∨
      exists reply, lineReply parse dispatcher line = some reply ∧ Answers dispatcher.writer parse line reply ∧
        silentLine parse line = false := by
  rw [lineReply, silentLine]
  by_cases fits : line.Fits
  · simp only [replyTo, if_pos fits, parseRequest, decide_eq_true fits, Bool.true_and]
    by_cases blank : line.text = []
    · refine Or.inr ⟨_, ?_, Answers.empty fits blank, ?_⟩
      · simp [blank]
      · simp [blank]
    · have filled : line.text.isEmpty = false := List.isEmpty_eq_false_iff.mpr blank
      simp only [filled, Bool.false_eq_true, if_false, Bool.not_false, Bool.true_and]
      cases parsed : parse line.text with
      | none => exact Or.inr ⟨_, rfl, Answers.unparsed fits blank parsed, rfl⟩
      | some document =>
          cases document with
          | object members => exact dispatch_cases splices fits blank parsed (Or.inl rfl)
          | array elements => exact dispatch_cases splices fits blank parsed (Or.inr ⟨elements, rfl⟩)
          | _ => exact Or.inr ⟨_, rfl, Answers.noRequest fits blank parsed rfl (by simp), rfl⟩
  · refine Or.inr ⟨_, ?_, Answers.tooLarge fits, ?_⟩
    · simp [replyTo, fits]
    · simp [fits]

theorem lineless_dispatch (splices : dispatcher.writer.SplicesArrays) (compact : dispatcher.writer.OnOneLine)
    {request : Json} {body : Text} (replied : dispatcher.dispatch request = some body) : 10 ∉ body := by
  cases request with
  | array elements =>
      rw [Dispatcher.dispatch, Dispatcher.dispatchBatch] at replied
      simp only at replied
      split_ifs at replied
      · cases replied
        exact compact _
      · cases replied
        exact compact _
      · cases replied
        apply splices.lineless
        intro text member
        rcases List.mem_map.mp member with ⟨envelope, _, rfl⟩
        exact compact envelope
  | _ =>
      simp only [Dispatcher.dispatch, Option.map_eq_some_iff] at replied
      rcases replied with ⟨reply, _, rfl⟩
      exact compact reply

theorem lineless_lineReply (splices : dispatcher.writer.SplicesArrays) (compact : dispatcher.writer.OnOneLine)
    {line : RequestLine} {reply : Text} (replied : lineReply parse dispatcher line = some reply) : 10 ∉ reply := by
  rw [lineReply, replyTo.eq_def] at replied
  split at replied
  · cases replied
  · cases replied
    exact compact _
  · split at replied
    · cases replied
      exact compact _
    · exact lineless_dispatch splices compact replied

/-- The lines of standard output answer the lines of standard input, in order,
one each, but for those that ask for no reply; and no read of a line holds more
than the bound. -/
theorem run_answers (splices : dispatcher.writer.SplicesArrays) (compact : dispatcher.writer.OnOneLine) (stdin : Text) :
    (exists replies, splitStream 10 (run parse dispatcher stdin) = (replies, []) ∧
      List.Forall₂ (Answers dispatcher.writer parse)
        ((requestLines stdin).filter fun line => !silentLine parse line) replies) ∧
    (run parse dispatcher stdin = (lineReads stdin).flatMap fun read =>
      ((replyTo parse dispatcher read.result read.out).map writeStdoutLine).getD []) ∧
    forall read, read ∈ lineReads stdin -> read.held ≤ kMaxLineLen := by
  refine ⟨⟨(requestLines stdin).filterMap (lineReply parse dispatcher), ?_, ?_⟩, run_eq_reads stdin⟩
  · rw [run_eq]
    apply splitStream_joinStream
    intro reply member
    rcases List.mem_filterMap.mp member with ⟨line, _, replied⟩
    exact lineless_lineReply splices compact replied
  · induction requestLines stdin with
    | nil => exact List.Forall₂.nil
    | cons line rest inductionHypothesis =>
        rw [List.filter_cons, List.filterMap_cons]
        rcases lineReply_cases splices line with ⟨none, silent⟩ | ⟨reply, replied, answers, asks⟩
        · rw [none, silent]
          exact inductionHypothesis
        · rw [replied, asks]
          exact List.Forall₂.cons answers inductionHypothesis

end Answering

/-- A parser of two texts. -/
def sampleParse (text : Text) : Option Json :=
  if text = ofString "[]" then some (.array [])
  else if text = ofString "1.5" then some (.number (.double 0x3FF8000000000000))
  else none

/-- A line that is no request and an empty batch without its newline. -/
theorem run_answers_sample :
    (exists replies, splitStream 10 (run sampleParse bareDispatcher (ofString "1.5\r\n[]")) = (replies, []) ∧
      List.Forall₂ (Answers plainWriter sampleParse)
        ((requestLines (ofString "1.5\r\n[]")).filter fun line => !silentLine sampleParse line) replies) ∧
    (run sampleParse bareDispatcher (ofString "1.5\r\n[]") = (lineReads (ofString "1.5\r\n[]")).flatMap fun read =>
      ((replyTo sampleParse bareDispatcher read.result read.out).map writeStdoutLine).getD []) ∧
    forall read, read ∈ lineReads (ofString "1.5\r\n[]") -> read.held ≤ kMaxLineLen :=
  run_answers splicesArrays_plainWriter onOneLine_plainWriter (ofString "1.5\r\n[]")

end Mcp
end BravoFinder
