import BravoFinder.Core.Result
import BravoFinder.HttpServer.Origin

namespace BravoFinder

/-!
# Request assembly

The parser calls back for each piece of a request it finds in a buffer, and the
connection accumulates the pieces until the message is complete.  A callback
that answers -1 stops the parser.  The parser itself is a parameter: which
callbacks it makes on a buffer, where it finds the end of a message, and where and
how it stops.
-/

/-- Where the data of a callback lies in the buffer that was read. -/
structure Span where
  start : Nat
  length : Nat

/-- `(at, len)` of a callback. -/
def Span.ofBuffer (span : Span) (buf : Text) : Text :=
  (buf.drop span.start).take span.length

inductive ParserCallback where
  | onMessageBegin
  | onUrl (span : Span)
  | onHeaderField (span : Span)
  | onHeaderValue (span : Span)
  /-- The declared body length, when the request has a `Content-Length`. -/
  | onHeadersComplete (contentLength : Option Nat)
  | onBody (span : Span)
  /-- The position in the buffer behind the last byte of the message. -/
  | onMessageComplete (shouldKeepAlive : Bool) (position : Nat)

/-- `llhttp_errno_t`, as far as the connection tells the values apart. -/
inductive LlhttpErrno where
  | hpeOk
  | hpePaused
  | other
deriving DecidableEq

/-- How `llhttp_execute` returns. -/
structure ParserOutcome (Parser : Type) where
  parser : Parser
  err : LlhttpErrno
  /-- `llhttp_get_error_pos`, as an offset into the buffer. -/
  errorPos : Option Nat

/-- The HTTP parser. -/
structure Llhttp (Parser : Type) where
  /-- What `llhttp_init` and `llhttp_reset` leave. -/
  init : Parser
  /-- The callbacks `llhttp_execute` makes on a buffer while none of them stops it. -/
  callbacks : Parser -> Text -> List ParserCallback
  /-- How it returns; given the callback that stopped it, if one did. -/
  outcome : Parser -> Text -> Option Nat -> ParserOutcome Parser
  /-- `llhttp_method_name(llhttp_get_method(..))`. -/
  methodName : Parser -> Text

/-- `Limits`, as far as a connection reads them. -/
structure Limits where
  maxBodyBytes : Nat
  ioTimeoutMs : Nat
  requestTimeoutMs : Nat

def kMaxHeaderBytes : Nat := 32 * 1024
def kMaxHeaderCount : Nat := 100
def kMaxUrlBytes : Nat := 8 * 1024

def kStatusNone : Int := 0
def kStatusBadRequest : Int := 400
def kStatusRequestTimeout : Int := 408
def kStatusPayloadTooLarge : Int := 413
def kStatusUriTooLong : Int := 414
def kStatusExpectationFailed : Int := 417
def kStatusRequestHeaderFieldsTooLarge : Int := 431

/-- The per-request accumulation of a `Connection`, and its parser. -/
structure Assembly (Parser : Type) where
  parser : Parser
  url : Text
  curField : Text
  curValue : Text
  readingValue : Bool
  headerBytes : Nat
  headerCount : Nat
  sawTransferEncoding : Bool
  headers : Headers
  body : Text
  requestReady : Bool
  keepAlive : Bool
  /-- A second request began in the same buffer. -/
  pipelined : Bool
  rejectStatus : Int
  rejectMessage : Text
  requestStartedAt : Nat

namespace Assembly

variable {Parser : Type}

/-- No byte of a request has arrived. -/
def fresh (llhttp : Llhttp Parser) : Assembly Parser where
  parser := llhttp.init
  url := []
  curField := []
  curValue := []
  readingValue := false
  headerBytes := 0
  headerCount := 0
  sawTransferEncoding := false
  headers := []
  body := []
  requestReady := false
  keepAlive := false
  pipelined := false
  rejectStatus := kStatusNone
  rejectMessage := []
  requestStartedAt := 0

/-- A hardening limit tripped. -/
def reject (assembly : Assembly Parser) (status : Int) (message : String) : Assembly Parser :=
  { assembly with rejectStatus := status, rejectMessage := ofString message }

/-- `HeaderBudgetExceeded`. -/
def headerBudgetExceeded (assembly : Assembly Parser) : Bool :=
  kMaxHeaderBytes < assembly.headerBytes + assembly.curField.length + assembly.curValue.length

/-- `FinishHeaderPair`. -/
def finishHeaderPair (assembly : Assembly Parser) : Assembly Parser :=
  if assembly.curField = [] then assembly
  else
    let headerCount := assembly.headerCount + 1
    let headerBytes := assembly.headerBytes + (assembly.curField.length + assembly.curValue.length)
    let counted := { assembly with headerCount := headerCount, headerBytes := headerBytes }
    let bounded :=
      if kMaxHeaderBytes < headerBytes ∨ kMaxHeaderCount < headerCount then
        counted.reject kStatusRequestHeaderFieldsTooLarge "request headers too large"
      else counted
    let lower := assembly.curField.map toLower
    let noted :=
      if lower = ofString "transfer-encoding" then { bounded with sawTransferEncoding := true } else bounded
    let checked :=
      if lower = ofString "expect" ∧ asciiIeq assembly.curValue (ofString "100-continue") = true then
        noted.reject kStatusExpectationFailed "Expect: 100-continue is not supported"
      else noted
    { checked with
      headers := checked.headers ++ [(lower, assembly.curValue)]
      curField := []
      curValue := []
      readingValue := false }

/-- The end of `OnHeaderField` and `OnHeaderValue`: the budget, and the callback's answer. -/
def checkHeaderBudget (assembly : Assembly Parser) : Assembly Parser × Bool :=
  let checked :=
    if assembly.rejectStatus = kStatusNone ∧ assembly.headerBudgetExceeded = true then
      assembly.reject kStatusRequestHeaderFieldsTooLarge "request headers too large"
    else assembly
  (checked, checked.rejectStatus = kStatusNone)

/-- `OnMessageBegin`.  A callback answers `true` for 0 and `false` for -1. -/
def onMessageBegin (now : Nat) (assembly : Assembly Parser) : Assembly Parser × Bool :=
  if assembly.requestReady then ({ assembly with pipelined := true }, false)
  else ({ assembly with requestStartedAt := now }, true)

/-- `OnUrl`. -/
def onUrl (data : Text) (assembly : Assembly Parser) : Assembly Parser × Bool :=
  let longer := { assembly with url := assembly.url ++ data }
  if kMaxUrlBytes < longer.url.length then (longer.reject kStatusUriTooLong "request URI too long", false)
  else (longer, true)

/-- `OnHeaderField`. -/
def onHeaderField (data : Text) (assembly : Assembly Parser) : Assembly Parser × Bool :=
  let finished := if assembly.readingValue then assembly.finishHeaderPair else assembly
  { finished with curField := finished.curField ++ data }.checkHeaderBudget

/-- `OnHeaderValue`. -/
def onHeaderValue (data : Text) (assembly : Assembly Parser) : Assembly Parser × Bool :=
  { assembly with readingValue := true, curValue := assembly.curValue ++ data }.checkHeaderBudget

/-- `OnHeadersComplete`. -/
def onHeadersComplete (limits : Limits) (contentLength : Option Nat) (assembly : Assembly Parser) :
    Assembly Parser × Bool :=
  let finished := assembly.finishHeaderPair
  if finished.rejectStatus ≠ kStatusNone then (finished, false)
  else if finished.sawTransferEncoding then
    (finished.reject kStatusBadRequest "chunked transfer-encoding is not supported", false)
  else
    match contentLength with
    | some declared =>
        if limits.maxBodyBytes < declared then
          (finished.reject kStatusPayloadTooLarge "request body exceeds the configured limit", false)
        else (finished, true)
    | none => (finished, true)

/-- `OnBody`. -/
def onBody (limits : Limits) (data : Text) (assembly : Assembly Parser) : Assembly Parser × Bool :=
  if limits.maxBodyBytes < assembly.body.length + data.length then
    (assembly.reject kStatusPayloadTooLarge "request body exceeds the configured limit", false)
  else ({ assembly with body := assembly.body ++ data }, true)

/-- `OnMessageComplete`. -/
def onMessageComplete (shouldKeepAlive : Bool) (assembly : Assembly Parser) : Assembly Parser × Bool :=
  ({ assembly with keepAlive := shouldKeepAlive, requestReady := true }, true)

/-- The connection's side of one callback. -/
def callback (limits : Limits) (now : Nat) (buf : Text) (assembly : Assembly Parser) :
    ParserCallback -> Assembly Parser × Bool
  | .onMessageBegin => assembly.onMessageBegin now
  | .onUrl span => assembly.onUrl (span.ofBuffer buf)
  | .onHeaderField span => assembly.onHeaderField (span.ofBuffer buf)
  | .onHeaderValue span => assembly.onHeaderValue (span.ofBuffer buf)
  | .onHeadersComplete contentLength => assembly.onHeadersComplete limits contentLength
  | .onBody span => assembly.onBody limits (span.ofBuffer buf)
  | .onMessageComplete shouldKeepAlive _ => assembly.onMessageComplete shouldKeepAlive

/-- The callbacks in order, up to the first that stops the parser; which one did. -/
def callbacks (limits : Limits) (now : Nat) (buf : Text) (assembly : Assembly Parser) :
    List ParserCallback -> Assembly Parser × Option Nat
  | [] => (assembly, none)
  | first :: rest =>
      match assembly.callback limits now buf first with
      | (answered, false) => (answered, some 0)
      | (answered, true) =>
          let (finished, stopped) := answered.callbacks limits now buf rest
          (finished, stopped.map (· + 1))

/-- The callbacks that are made: all up to the first that stops the parser. -/
def made (limits : Limits) (now : Nat) (buf : Text) (assembly : Assembly Parser) :
    List ParserCallback -> List ParserCallback
  | [] => []
  | first :: rest =>
      match assembly.callback limits now buf first with
      | (_, false) => [first]
      | (answered, true) => first :: answered.made limits now buf rest

/-- The request's clock starts with its first byte. -/
def startClock (now : Nat) (assembly : Assembly Parser) : Assembly Parser :=
  if assembly.requestStartedAt = 0 then { assembly with requestStartedAt := now } else assembly

/-- `llhttp_execute` on a buffer, after the request's clock is started with its first byte. -/
def execute (llhttp : Llhttp Parser) (limits : Limits) (now : Nat) (buf : Text) (assembly : Assembly Parser) :
    Assembly Parser × LlhttpErrno × Option Nat :=
  let started := assembly.startClock now
  let (called, stopped) := started.callbacks limits now buf (llhttp.callbacks started.parser buf)
  let outcome := llhttp.outcome started.parser buf stopped
  ({ called with parser := outcome.parser }, outcome.err, outcome.errorPos)

/-- What `OnRead` takes for bytes left in the buffer after the completed request: a
second request began, or the parser stopped before the end. -/
def leftOver (buf : Text) (errorPos : Option Nat) (assembly : Assembly Parser) : Bool :=
  assembly.pipelined || errorPos.getD buf.length < buf.length

/-- A completed request with bytes behind it is not kept alive. -/
def settle (buf : Text) (errorPos : Option Nat) (assembly : Assembly Parser) : Assembly Parser :=
  if assembly.requestReady && assembly.leftOver buf errorPos then { assembly with keepAlive := false }
  else assembly

/-- The assembly after a buffer. -/
def absorb (llhttp : Llhttp Parser) (limits : Limits) (now : Nat) (buf : Text) (assembly : Assembly Parser) :
    Assembly Parser :=
  let (executed, _, errorPos) := assembly.execute llhttp limits now buf
  executed.settle buf errorPos

/-- The request `Dispatch` hands to the handler. -/
def request (llhttp : Llhttp Parser) (peer : Text) (assembly : Assembly Parser) : HttpRequest where
  method := llhttp.methodName assembly.parser
  path := assembly.url.takeWhile (· != 63)
  query := (assembly.url.dropWhile (· != 63)).drop 1
  body := assembly.body
  headers := assembly.headers
  keepAlive := assembly.keepAlive
  remoteAddress := peer

end Assembly

/-! ## What the parser reports -/

namespace ParserCallback

/-- Where a message is complete. -/
def completedAt : ParserCallback -> Option Nat
  | .onMessageComplete _ position => some position
  | _ => none

end ParserCallback

/-- The callbacks the parser made on a buffer, and where it says it stopped. -/
structure ParserReport where
  buf : Text
  calls : List ParserCallback
  errorPos : Option Nat

namespace ParserReport

/-- Bytes of the buffer stand behind the message that was completed in it. -/
def leavesBytes (report : ParserReport) : Bool :=
  (report.calls.findSome? ParserCallback.completedAt).any (· < report.buf.length)

end ParserReport

namespace Assembly

variable {Parser : Type}

/-- What the parser reports when it executes a buffer. -/
def report (llhttp : Llhttp Parser) (limits : Limits) (now : Nat) (buf : Text) (assembly : Assembly Parser) :
    ParserReport where
  buf := buf
  calls := (assembly.startClock now).made limits now buf (llhttp.callbacks (assembly.startClock now).parser buf)
  errorPos := (assembly.execute llhttp limits now buf).2.2

end Assembly
end BravoFinder
