import BravoFinder.HttpServer.RequestAssembly
import BravoFinder.HttpServer.Response
import BravoFinder.Library.Runs

namespace BravoFinder

/-!
# The connection state machine

A `Connection` lives on the loop thread: one event below is one callback the
loop makes, with what libuv answers to the requests made from it.  The handler
owes one answer for each request it is handed, and gives it whenever it likes.
The log records, newest first, what the connection did.
-/

/-- `WriteMode`: what follows a write. -/
inductive WriteMode where
  | kClose
  | kKeepAlive
  | kStream
deriving DecidableEq

/-- `WriteReq`: a write libuv has not finished. -/
structure WriteReq where
  payload : Text
  mode : WriteMode

/-- The two handles of a connection. -/
inductive Handle where
  | tcp
  | timer
deriving DecidableEq

/-- `uv_close` moves a handle from `opened` to `closing`, its callback to `closed`. -/
inductive HandleState where
  | opened
  | closing
  | closed
deriving DecidableEq

/-- What a connection did. -/
inductive Effect where
  /-- A read brought bytes. -/
  | received (now : Nat) (bytes : Text)
  /-- Bytes were thrown away: they came while a response was awaited, or stood in the
  buffer behind the end of the completed request. -/
  | discarded
  /-- A request was handed to the handler. -/
  | dispatched (req : HttpRequest)
  /-- The idle timer or the request deadline made the connection answer 408. -/
  | timedOut
  | wrote (mode : WriteMode) (payload : Text)
  | reset
  | closeStarted
  | handleClosed (handle : Handle)
  /-- `on_closed_` ran. -/
  | onClosed

/-- `Connection`. -/
structure Connection (Parser : Type) where
  limits : Limits
  peer : Text
  tcp : HandleState
  timer : HandleState
  openHandles : Nat
  closing : Bool
  /-- Whether `on_closed_` is set. -/
  onClosed : Bool
  reading : Bool
  timerArmed : Bool
  /-- `uv_now`. -/
  now : Nat
  writeStartedAt : Nat
  headRequest : Bool
  closeAfterShutdown : Bool
  assembly : Assembly Parser
  awaitingResponse : Bool
  forceCloseAfterResponse : Bool
  streaming : Bool
  /-- The writes libuv has not finished, oldest first. -/
  writes : List WriteReq
  shutdownPending : Bool
  /-- The answers the handler owes. -/
  owed : Nat
  log : List Effect

/-- What the world outside answers during one callback. -/
structure Outside where
  /-- `uv_write` accepts the write. -/
  writeStarts : Bool
  /-- `uv_shutdown` accepts the request. -/
  shutdownStarts : Bool
  date : Tm

/-- `WorkResult`. -/
structure WorkResult where
  status : Int
  body : Text
  elapsedMs : UInt32
  contentType : Text
  extraHeaders : Headers

/-- The one answer of a handler to a request. -/
inductive Answer where
  /-- `WriteResponse` from the handler. -/
  | respond (status : Int) (body : Text) (keepAlive : Bool) (contentType : Text) (extraHeaders : Headers)
      (elapsedMs : UInt32)
  /-- `OnAfterWork`: an offloaded result comes back. -/
  | afterWork (status : Int) (keepAlive : Bool) (result : WorkResult)
  /-- `BeginStream`. -/
  | beginStream (status : Int) (contentType : Text) (extraHeaders : Headers)

inductive LoopEvent where
  | read (bytes : Text)
  /-- EOF or a read error. -/
  | readEnd
  | timeout
  | writeDone (succeeded : Bool)
  | shutdownDone
  | handleClosed (handle : Handle)
  | answer (answer : Answer)
  /-- `WriteEvent`. -/
  | writeEvent (chunk : Text)
  /-- `Close`, when the server shuts down. -/
  | close
  | elapse (ms : Nat)

/-- `JsonError`; no message of the core needs an escape. -/
def jsonError (message : Text) : Text :=
  ofString "\x7b\"error\":\"" ++ message ++ ofString "\"\x7d"

def applicationJson : Text := ofString "application/json"

namespace Connection

variable {Parser : Type}

def emit (conn : Connection Parser) (effect : Effect) : Connection Parser :=
  { conn with log := effect :: conn.log }

/-- `RestartTimer`. -/
def restartTimer (conn : Connection Parser) : Connection Parser :=
  { conn with timerArmed := true }

/-- `on_closed_` runs once both handles are closed. -/
def notifyClosed (conn : Connection Parser) : Connection Parser :=
  if conn.openHandles = 0 ∧ conn.onClosed = true then { conn with onClosed := false }.emit .onClosed else conn

/-- `uv_close` of the timer, or the count of a timer that is closing already. -/
def closeTimer (conn : Connection Parser) : Connection Parser :=
  if conn.timer = .opened then { conn with timer := .closing }
  else { conn with openHandles := conn.openHandles - 1 }

/-- `uv_close` of the socket, which also ends reading. -/
def closeTcp (conn : Connection Parser) : Connection Parser :=
  if conn.tcp = .opened then { conn with tcp := .closing, reading := false }
  else { conn with openHandles := conn.openHandles - 1 }

/-- `StartClose`. -/
def startClose (conn : Connection Parser) : Connection Parser :=
  if conn.closing then conn
  else
    ({ conn with closing := true, timerArmed := false }.emit .closeStarted).closeTimer.closeTcp.notifyClosed

/-- `OnHandleClosed`. -/
def onHandleClosed (handle : Handle) (conn : Connection Parser) : Connection Parser :=
  let closed :=
    match handle with
    | .tcp => { conn with tcp := .closed, openHandles := conn.openHandles - 1 }
    | .timer => { conn with timer := .closed, openHandles := conn.openHandles - 1 }
  (closed.emit (.handleClosed handle)).notifyClosed

/-- The largest length `uv_buf_init` takes. -/
def maxBufLength : Nat := 2 ^ 32 - 1

/-- `WriteRaw`. -/
def writeRaw (outside : Outside) (payload : Text) (mode : WriteMode) (conn : Connection Parser) :
    Connection Parser :=
  if conn.closing then conn
  else
    let stamped := if conn.writeStartedAt = 0 then { conn with writeStartedAt := conn.now } else conn
    if maxBufLength < payload.length then stamped.startClose
    else if outside.writeStarts then
      { stamped with writes := stamped.writes ++ [WriteReq.mk payload mode] }.emit (.wrote mode payload)
    else stamped.startClose

/-- `WriteResponse`. -/
def writeResponse (outside : Outside) (status : Int) (body : Text) (keepAlive : Bool) (contentType : Text)
    (extraHeaders : Headers) (elapsedMs : UInt32) (conn : Connection Parser) : Connection Parser :=
  let kept := keepAlive && !conn.forceCloseAfterResponse
  let frame := buildResponse outside.date status (if conn.headRequest then [] else body) kept contentType
    extraHeaders elapsedMs body.length
  conn.writeRaw outside frame (if kept then .kKeepAlive else .kClose)

/-- An answer of the core itself, after which the connection closes. -/
def refuse (outside : Outside) (status : Int) (message : Text) (conn : Connection Parser) : Connection Parser :=
  { conn with awaitingResponse := true }.writeResponse outside status (jsonError message) false applicationJson [] 0

/-- `BeginStream`. -/
def beginStream (outside : Outside) (status : Int) (contentType : Text) (extraHeaders : Headers)
    (conn : Connection Parser) : Connection Parser :=
  if conn.closing then conn
  else
    { conn with streaming := true }.restartTimer.writeRaw outside
      (buildStreamHeader outside.date status contentType extraHeaders) .kStream

/-- `WriteEvent`. -/
def writeEvent (outside : Outside) (chunk : Text) (conn : Connection Parser) : Connection Parser :=
  if conn.closing || !conn.streaming then conn
  else conn.restartTimer.writeRaw outside chunk .kStream

/-- `ShutdownThenClose`. -/
def shutdownThenClose (outside : Outside) (conn : Connection Parser) : Connection Parser :=
  if conn.closing then conn
  else
    let stopped := { conn with reading := false }
    if outside.shutdownStarts then
      { stopped with shutdownPending := true, closeAfterShutdown := true }.restartTimer
    else stopped.startClose

/-- `ResetForNextRequest`. -/
def resetForNextRequest (llhttp : Llhttp Parser) (conn : Connection Parser) : Connection Parser :=
  let cleared := { conn with
    assembly := Assembly.fresh llhttp
    awaitingResponse := false
    forceCloseAfterResponse := false
    streaming := false
    headRequest := false
    closeAfterShutdown := false
    writeStartedAt := 0 }
  (cleared.emit .reset).restartTimer

/-- `RequestDeadlineExceeded`. -/
def requestDeadlineExceeded (conn : Connection Parser) : Bool :=
  conn.limits.requestTimeoutMs ≠ 0 && conn.assembly.requestStartedAt ≠ 0 &&
    conn.limits.requestTimeoutMs ≤ conn.now - conn.assembly.requestStartedAt

/-- `Dispatch`.  The body and the headers move into the request. -/
def dispatch (llhttp : Llhttp Parser) (conn : Connection Parser) : Connection Parser :=
  let req := conn.assembly.request llhttp conn.peer
  { conn with
    headRequest := asciiIeq req.method (ofString "HEAD")
    assembly := { conn.assembly with body := [], headers := [] }
    owed := conn.owed + 1 }.emit (.dispatched req)

/-- `OnRead`, once the parser has been given the bytes. -/
def onExecuted (llhttp : Llhttp Parser) (outside : Outside) (bytes : Text) (err : LlhttpErrno)
    (errorPos : Option Nat) (conn : Connection Parser) : Connection Parser :=
  if conn.assembly.rejectStatus ≠ kStatusNone then
    conn.refuse outside conn.assembly.rejectStatus conn.assembly.rejectMessage
  else if conn.assembly.requestReady then
    if conn.assembly.leftOver bytes errorPos then
      { conn with
        assembly := { conn.assembly with keepAlive := false }
        forceCloseAfterResponse := true
        awaitingResponse := true }.dispatch llhttp
    else { conn with awaitingResponse := true }.dispatch llhttp
  else if err ≠ .hpeOk ∧ err ≠ .hpePaused then
    conn.refuse outside kStatusBadRequest (ofString "malformed HTTP request")
  else conn

/-- The request is complete, and bytes of the buffer stand behind its end. -/
def leavesBytes (report : ParserReport) (conn : Connection Parser) : Bool :=
  conn.assembly.rejectStatus = kStatusNone && conn.assembly.requestReady && report.leavesBytes

/-- `OnRead` of bytes. -/
def onRead (llhttp : Llhttp Parser) (outside : Outside) (bytes : Text) (conn : Connection Parser) :
    Connection Parser :=
  if bytes = [] then conn
  else
    let received := conn.emit (.received conn.now bytes)
    if conn.awaitingResponse then
      -- No pipelining: the bytes are dropped, and the response in flight is to be the last.
      { received with
        forceCloseAfterResponse := true
        assembly := { conn.assembly with keepAlive := false } }.emit .discarded
    else if conn.requestDeadlineExceeded then
      (received.emit .timedOut).refuse outside kStatusRequestTimeout (ofString "request timeout")
    else
      let (executed, err, errorPos) := conn.assembly.execute llhttp conn.limits conn.now bytes
      let parsed := { received.restartTimer with assembly := executed }
      let answered := parsed.onExecuted llhttp outside bytes err errorPos
      -- Nothing reads what stands behind the request: the next read overwrites the buffer.
      if parsed.leavesBytes (conn.assembly.report llhttp conn.limits conn.now bytes) then answered.emit .discarded
      else answered

/-- `OnTimeout`. -/
def onTimeout (outside : Outside) (conn : Connection Parser) : Connection Parser :=
  if conn.closeAfterShutdown then conn.startClose
  else if conn.streaming then conn.startClose
  else if conn.awaitingResponse then
    if conn.writeStartedAt ≠ 0 ∧ conn.limits.ioTimeoutMs ≤ conn.now - conn.writeStartedAt then conn.startClose
    else conn.restartTimer
  else if !conn.closing then
    (conn.emit .timedOut).refuse outside kStatusRequestTimeout (ofString "request timeout")
  else conn.startClose

/-- `OnWriteDone`. -/
def onWriteDone (llhttp : Llhttp Parser) (outside : Outside) (mode : WriteMode) (succeeded : Bool)
    (conn : Connection Parser) : Connection Parser :=
  if conn.closing then conn
  else if !succeeded then conn.startClose
  else
    match mode with
    | .kStream => { conn with writeStartedAt := 0 }
    | .kKeepAlive => { conn with writeStartedAt := 0 }.resetForNextRequest llhttp
    | .kClose => { conn with writeStartedAt := 0 }.shutdownThenClose outside

/-- `OnAfterWork`, on the loop thread. -/
def onAfterWork (outside : Outside) (status : Int) (keepAlive : Bool) (result : WorkResult)
    (conn : Connection Parser) : Connection Parser :=
  if conn.closing then conn
  else if status = 0 then
    let contentType := if result.contentType = [] then applicationJson else result.contentType
    conn.writeResponse outside result.status result.body keepAlive contentType result.extraHeaders
      result.elapsedMs
  else conn.startClose

/-- The handler's answer reaches the connection. -/
def onAnswer (outside : Outside) (conn : Connection Parser) : Answer -> Connection Parser
  | .respond status body keepAlive contentType extraHeaders elapsedMs =>
      conn.writeResponse outside status body keepAlive contentType extraHeaders elapsedMs
  | .afterWork status keepAlive result => conn.onAfterWork outside status keepAlive result
  | .beginStream status contentType extraHeaders => conn.beginStream outside status contentType extraHeaders

/-- `Create`, and `SetOnClosed` after the accept. -/
def create (llhttp : Llhttp Parser) (limits : Limits) (peer : Text) (now : Nat) : Connection Parser where
  limits := limits
  peer := peer
  tcp := .opened
  timer := .opened
  openHandles := 2
  closing := false
  onClosed := true
  reading := false
  timerArmed := false
  now := now
  writeStartedAt := 0
  headRequest := false
  closeAfterShutdown := false
  assembly := Assembly.fresh llhttp
  awaitingResponse := false
  forceCloseAfterResponse := false
  streaming := false
  writes := []
  shutdownPending := false
  owed := 0
  log := []

/-- `Start`; whether `uv_read_start` succeeds. -/
def start (readStarts : Bool) (conn : Connection Parser) : Connection Parser :=
  if readStarts then { conn.restartTimer with reading := true } else conn.restartTimer.startClose

/-- One callback of the loop, `none` when libuv does not make it in this state. -/
def step (llhttp : Llhttp Parser) (conn : Connection Parser) : Outside × LoopEvent -> Option (Connection Parser)
  | (outside, .read bytes) => if conn.reading then some (conn.onRead llhttp outside bytes) else none
  | (_, .readEnd) => if conn.reading then some conn.startClose else none
  | (outside, .timeout) =>
      -- The timer is one-shot.
      if conn.timerArmed then some ({ conn with timerArmed := false }.onTimeout outside) else none
  | (outside, .writeDone succeeded) =>
      match conn.writes with
      | done :: rest => some ({ conn with writes := rest }.onWriteDone llhttp outside done.mode succeeded)
      | [] => none
  | (_, .shutdownDone) =>
      if conn.shutdownPending then some { conn with shutdownPending := false }.startClose else none
  | (_, .handleClosed .tcp) =>
      -- Pending requests of a closing socket are called back first.
      if conn.tcp = .closing ∧ conn.writes.isEmpty = true ∧ conn.shutdownPending = false then
        some (conn.onHandleClosed .tcp)
      else none
  | (_, .handleClosed .timer) => if conn.timer = .closing then some (conn.onHandleClosed .timer) else none
  | (outside, .answer answer) =>
      if 0 < conn.owed then some ({ conn with owed := conn.owed - 1 }.onAnswer outside answer) else none
  | (outside, .writeEvent chunk) => some (conn.writeEvent outside chunk)
  | (_, .close) => some conn.startClose
  | (_, .elapse ms) => some { conn with now := conn.now + ms }

end Connection
end BravoFinder
