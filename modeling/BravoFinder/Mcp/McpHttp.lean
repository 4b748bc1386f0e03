import BravoFinder.Mcp.StdioRunner
import BravoFinder.HttpServer.WorkQueue
import BravoFinder.HttpServer.Origin

namespace BravoFinder

/-- `IsArray`. -/
def Json.isArray : Json -> Bool
  | .array _ => true
  | _ => false

namespace Mcp

/-!
# Requests over HTTP

One endpoint takes a request as the body of a POST, of a page of this machine or
of no page at all.  What the dispatcher replies comes back as the body of the
response, or as the data of one server-sent event.  A body on one line is answered
as the same line of standard input is, unless there is no room for it or its work
throws.
-/

/-- `McpHttpHandler`.  What the parser makes of a text, the session id that is
drawn for a request and whether its work throws are parameters. -/
structure McpHttpHandler (NavDatabase : Type) where
  dispatcher : Dispatcher NavDatabase
  bindHost : Text
  parse : Text -> Option Json
  sessionId : HandedRequest -> Text
  throws : HandedRequest -> Bool

def textEventStream : Text := ofString "text/event-stream"

/-- `SseData`: each line of the text becomes a field, and a blank line ends the event. -/
def sseData (json : Text) : Text :=
  let (lines, tail) := splitStream 10 json
  (lines ++ [tail]).flatMap (fun line => ofString "data: " ++ line ++ [10]) ++ [10]

/-- `WantsSse`. -/
def wantsSse (req : HandedRequest) : Bool :=
  (findSub textEventStream (req.header (ofString "accept"))).isSome

/-- `ContainsInitialize`. -/
def containsInitialize (req : Json) : Bool :=
  let isInit := fun (value : Json) => value.string? (ofString "method") == some (ofString "initialize")
  match req with
  | .array elements => elements.any isInit
  | _ => isInit req

/-- `BuildMcpWorkResult`. -/
def buildMcpWorkResult {NavDatabase : Type} (dispatcher : Dispatcher NavDatabase) (req : Json) (wantsSse : Bool)
    (sessionId : Text) : WorkResult :=
  match dispatcher.dispatch req with
  | none => ⟨kStatusAccepted, [], 0, [], []⟩
  | some body =>
      { status := kStatusOk
        body := if wantsSse then sseData body else body
        elapsedMs := 0
        contentType := if wantsSse then textEventStream else applicationJson
        extraHeaders := if containsInitialize req then [(ofString "Mcp-Session-Id", sessionId)] else [] }

namespace McpHttpHandler

variable {NavDatabase : Type} (handler : McpHttpHandler NavDatabase)

/-- The closure that is queued for a document: its result, or nothing when it throws. -/
def work (req : HandedRequest) (doc : Json) : Option WorkResult :=
  if handler.throws req then none
  else some (buildMcpWorkResult handler.dispatcher doc (wantsSse req) (handler.sessionId req))

/-- `HandlePost`. -/
def handlePost (inflight : Int) (req : HandedRequest) : Handled :=
  if kMaxInflightWork ≤ inflight then .reply (serverBusy req.keepAlive)
  else if req.body.isEmpty then
    respond req kStatusBadRequest
      (jsonRpcFramingError handler.dispatcher.writer JsonRpc.kParseError (ofString "empty request body"))
  else
    match handler.parse req.body with
    | none =>
        respond req kStatusBadRequest
          (jsonRpcFramingError handler.dispatcher.writer JsonRpc.kParseError (ofString "parse error"))
    | some doc =>
        if !doc.isObject && !doc.isArray then
          respond req kStatusBadRequest
            (jsonRpcFramingError handler.dispatcher.writer JsonRpc.kInvalidRequest
              (ofString "request must be a JSON object or array"))
        else .queueWork (handler.work req doc)

/-- `Handle`.  The comment that a stream begins with is an event of its own. -/
def handle (inflight : Int) (req : HandedRequest) : Handled :=
  if matchedPath req.path ≠ ofString "/mcp" then
    respond req kStatusNotFound (jsonError handler.dispatcher.writer (ofString "not found"))
  else if !originAllowed req.stale req.toHttpRequest handler.bindHost then
    respond req kStatusForbidden (jsonError handler.dispatcher.writer (ofString "origin not allowed"))
  else if req.method = ofString "POST" then handler.handlePost inflight req
  else if req.method = ofString "HEAD" then .reply (.respond kStatusOk [] req.keepAlive textEventStream [] 0)
  else if req.method = ofString "GET" then .reply (.beginStream kStatusOk textEventStream [])
  else if req.method = ofString "DELETE" then respond req kStatusOk []
  else
    .reply (.respond kStatusMethodNotAllowed (jsonError handler.dispatcher.writer (ofString "method not allowed"))
      req.keepAlive applicationJson [(ofString "Allow", ofString "GET, HEAD, POST, DELETE")] 0)

end McpHttpHandler

/-! ## Server-sent events -/

/-- The lines before the first blank one, without the name of their field, are
joined by newlines. -/
def readSse (body : Text) : Text :=
  joinLines [10] (((splitStream 10 body).1.takeWhile fun line => !line.isEmpty).map fun line => line.drop 6)

/-- An event gives its data back, whatever they are. -/
theorem readSse_sseData (json : Text) : readSse (sseData json) = json := by
  have fieldLineless : 10 ∉ ofString "data: " := by decide +kernel
  have fieldLength : (ofString "data: ").length = 6 := by decide +kernel
  have filled : forall line : Text, (ofString "data: " ++ line).isEmpty = false := by
    intro line
    rw [List.isEmpty_eq_false_iff]
    intro blank
    rw [List.append_eq_nil_iff.mp blank |>.1] at fieldLength
    cases fieldLength
  have fields : sseData json = joinStream 10
      (((splitStream 10 json).1 ++ [(splitStream 10 json).2]).map (fun line => ofString "data: " ++ line) ++ [[]]) := by
    simp [sseData, joinStream, List.flatMap_map]
  have named : (fun line : Text => line.drop 6) ∘ (fun line => ofString "data: " ++ line) = id := by
    funext line
    exact List.drop_left' fieldLength
  rw [readSse, fields, splitStream_joinStream]
  · rw [List.takeWhile_append_of_pos]
    · simp only [List.takeWhile_cons, List.isEmpty_nil, Bool.not_true, Bool.false_eq_true, if_false, List.append_nil,
        List.map_map]
      rw [named, List.map_id, joinLines_splitStream]
    · intro field member
      rcases List.mem_map.mp member with ⟨line, _, rfl⟩
      rw [filled line]
      rfl
  · intro field member
    rcases List.mem_append.mp member with inside | last
    · rcases List.mem_map.mp inside with ⟨line, isLine, rfl⟩
      intro newline
      rcases List.mem_append.mp newline with name | value
      · exact fieldLineless name
      · exact not_mem_of_mem_splitStream json line isLine value
    · rw [List.mem_singleton.mp last]
      exact List.not_mem_nil

/-! ## One answer for either transport -/

/-- A request that the dispatcher is asked. -/
structure IsPost {NavDatabase : Type} (handler : McpHttpHandler NavDatabase) (req : HandedRequest) : Prop where
  path : matchedPath req.path = ofString "/mcp"
  origin : originAllowed req.stale req.toHttpRequest handler.bindHost = true
  method : req.method = ofString "POST"

/-- A body that is a line of input. -/
structure IsLine (body : Text) : Prop where
  filled : body ≠ []
  lineless : 10 ∉ body
  fits : body.length ≤ kMaxLineLen

/-- The envelope a client reads from an answer. -/
def carried : Answer -> Option Text
  | .respond _ body _ _ _ _ => some body
  | .afterWork _ _ result =>
      if result.status = kStatusAccepted then none
      else if result.contentType = textEventStream then some (readSse result.body)
      else some result.body
  | .beginStream _ _ _ => none

/-- A handler at work answers each request once, and carries for a body on one
line what standard output would, unless it has no room or the work throws; an
event gives its data back. -/
structure AnswersAsStdio {NavDatabase : Type} (handler : McpHttpHandler NavDatabase) (queue : WorkQueue) : Prop where
  account : Accounted handler.handle queue
  agrees : forall entry req, entry ∈ queue.outcomes -> queue.requests[entry.1]? = some req ->
    IsPost handler req -> IsLine req.body -> entry.2.TurnedAway req ∨
      handler.throws req = true ∧ entry.2 = .finished 0 req.keepAlive (onWork none) ∨
      run handler.parse handler.dispatcher req.body = joinStream 10 (carried entry.2.answer).toList
  /-- A page of another site is refused, whatever it asks. -/
  refused : forall entry req, entry ∈ queue.outcomes -> queue.requests[entry.1]? = some req ->
    matchedPath req.path = ofString "/mcp" ->
      originAllowed req.stale req.toHttpRequest handler.bindHost = false ->
        entry.2.answer = .respond kStatusForbidden
          (jsonError handler.dispatcher.writer (ofString "origin not allowed")) req.keepAlive applicationJson [] 0
  framed : forall json, readSse (sseData json) = json

section Agreement

variable {NavDatabase : Type} {handler : McpHttpHandler NavDatabase}

theorem handle_post {req : HandedRequest} (post : IsPost handler req) (inflight : Int) :
    handler.handle inflight req = handler.handlePost inflight req := by
  rw [McpHttpHandler.handle, if_neg (not_not.mpr post.path), post.origin, Bool.not_true, if_neg Bool.false_ne_true,
    if_pos post.method]

theorem sheds_handle (handler : McpHttpHandler NavDatabase) : Sheds handler.handle where
  full inflight req work full := by
    intro queued
    rw [McpHttpHandler.handle, McpHttpHandler.handlePost, if_pos full] at queued
    split_ifs at queued <;> cases queued
  either inflight req := by
    by_cases full : kMaxInflightWork ≤ inflight
    · simp only [McpHttpHandler.handle, McpHttpHandler.handlePost, if_pos full]
      split_ifs <;> first | exact Or.inl rfl | exact Or.inr ⟨full, rfl⟩
    · left
      have empty : ¬ kMaxInflightWork ≤ 0 := by decide
      simp only [McpHttpHandler.handle, McpHttpHandler.handlePost, if_neg full, if_neg empty]

/-- A body on one line is a line of input. -/
theorem run_body {body : Text} (line : IsLine body) :
    run handler.parse handler.dispatcher body =
      joinStream 10 (lineReply handler.parse handler.dispatcher ⟨body, false⟩).toList := by
  rw [run_tail line.lineless line.filled]
  cases lineReply handler.parse handler.dispatcher ⟨body, false⟩ <;> simp [joinStream, writeStdoutLine]

theorem lineReply_body {body : Text} (line : IsLine body) :
    lineReply handler.parse handler.dispatcher ⟨body, false⟩ = replyTo handler.parse handler.dispatcher .kOk body := by
  apply replyTo_congr
  · exact if_pos line.fits
  · intro _
    rfl

/-- The work for a document carries what the dispatcher replies. -/
theorem carried_buildMcpWorkResult (dispatcher : Dispatcher NavDatabase) (doc : Json) (sse : Bool) (sessionId : Text)
    (status : Int) (keepAlive : Bool) :
    carried (.afterWork status keepAlive (buildMcpWorkResult dispatcher doc sse sessionId)) = dispatcher.dispatch doc := by
  have notAccepted : kStatusOk ≠ kStatusAccepted := by decide
  have notStream : applicationJson ≠ textEventStream := by decide +kernel
  rw [buildMcpWorkResult]
  cases dispatcher.dispatch doc with
  | none => rfl
  | some body => cases sse <;> simp [carried, notAccepted, notStream, readSse_sseData]

/-- What the endpoint does with a body on one line when it has room: the framing
error of the line, or the work for its document. -/
theorem handle_line {req : HandedRequest} (post : IsPost handler req) (line : IsLine req.body) :
    (exists status body, handler.handle 0 req = respond req status body ∧
        lineReply handler.parse handler.dispatcher ⟨req.body, false⟩ = some body) ∨
      exists doc, handler.handle 0 req = .queueWork (handler.work req doc) ∧
        lineReply handler.parse handler.dispatcher ⟨req.body, false⟩ = handler.dispatcher.dispatch doc := by
  have room : ¬ kMaxInflightWork ≤ 0 := by decide
  have filled : req.body.isEmpty = false := List.isEmpty_eq_false_iff.mpr line.filled
  rw [lineReply_body line, handle_post post, McpHttpHandler.handlePost, if_neg room, filled,
    if_neg Bool.false_ne_true]
  simp only [replyTo, parseRequest, filled, Bool.false_eq_true, if_false]
  cases handler.parse req.body with
  | none => exact Or.inl ⟨_, _, rfl, rfl⟩
  | some doc =>
      cases doc with
      | object members => exact Or.inr ⟨_, rfl, rfl⟩
      | array elements => exact Or.inr ⟨_, rfl, rfl⟩
      | _ => exact Or.inl ⟨_, _, rfl, rfl⟩

/-- What is decided of a POST with a line as its body. -/
theorem agrees_of_decided {req : HandedRequest} {outcome : Outcome} (post : IsPost handler req) (line : IsLine req.body)
    (decided : Decided handler.handle req outcome) :
    outcome.TurnedAway req ∨ handler.throws req = true ∧ outcome = .finished 0 req.keepAlive (onWork none) ∨
      lineReply handler.parse handler.dispatcher ⟨req.body, false⟩ = carried outcome.answer := by
  cases outcome with
  | replied inflight answer =>
      rcases decided with ⟨_, replied | away⟩
      · right
        rcases handle_line post line with ⟨status, body, handled, reply⟩ | ⟨doc, handled, _⟩
        · rw [handled] at replied
          cases replied
          exact Or.inr reply
        · rw [handled] at replied
          cases replied
      · exact Or.inl away
  | refused keepAlive => exact Or.inl trivial
  | finished status keepAlive result =>
      by_cases done : status = 0
      · right
        rcases decided with ⟨rfl, work, queued, rfl⟩
        rcases handle_line post line with ⟨status, body, handled, _⟩ | ⟨doc, handled, reply⟩
        · rw [handled] at queued
          cases queued
        · rw [handled] at queued
          cases queued
          by_cases throws : handler.throws req = true
          · refine Or.inl ⟨throws, ?_⟩
            rw [done, McpHttpHandler.work, if_pos throws]
          · refine Or.inr (reply.trans ?_)
            rw [McpHttpHandler.work, if_neg throws]
            exact (carried_buildMcpWorkResult _ doc _ _ status req.keepAlive).symm
      · exact Or.inl done

/-- A page of another site is refused where its request is handed over. -/
theorem refused_of_decided {req : HandedRequest} {outcome : Outcome} (path : matchedPath req.path = ofString "/mcp")
    (foreign : originAllowed req.stale req.toHttpRequest handler.bindHost = false)
    (decided : Decided handler.handle req outcome) :
    outcome.answer = .respond kStatusForbidden
      (jsonError handler.dispatcher.writer (ofString "origin not allowed")) req.keepAlive applicationJson [] 0 := by
  have handled : forall inflight, handler.handle inflight req = respond req kStatusForbidden
      (jsonError handler.dispatcher.writer (ofString "origin not allowed")) := by
    intro inflight
    rw [McpHttpHandler.handle, if_neg (not_not.mpr path), foreign, Bool.not_false, if_pos rfl]
  cases outcome with
  | replied inflight answer =>
      rcases decided with ⟨replied, _⟩
      rw [handled] at replied
      cases replied
      rfl
  | refused keepAlive =>
      rcases decided with ⟨_, work, queued⟩
      rw [handled] at queued
      cases queued
  | finished status keepAlive result =>
      rcases decided with ⟨_, work, queued, _⟩
      rw [handled] at queued
      cases queued

/-- The transports agree in every run. -/
theorem runs_answerAsStdio (handler : McpHttpHandler NavDatabase) {events : List QueueEvent} {final : WorkQueue}
    (ran : runs (WorkQueue.step handler.handle) WorkQueue.fresh events = some final) :
    AnswersAsStdio handler final := by
  have account := Accounted.runs (sheds_handle handler) ran
  have decided : forall entry req, entry ∈ final.outcomes -> final.requests[entry.1]? = some req ->
      Decided handler.handle req entry.2 := by
    intro entry req member numbered
    rcases account.decided entry member with ⟨known, found, decided⟩
    rw [numbered] at found
    cases found
    exact decided
  refine ⟨account, ?_, ?_, readSse_sseData⟩
  · intro entry req member numbered post line
    rw [run_body line]
    rcases agrees_of_decided post line (decided entry req member numbered) with away | threw | same
    · exact Or.inl away
    · exact Or.inr (Or.inl threw)
    · exact Or.inr (Or.inr (congrArg (fun reply : Option Text => joinStream 10 reply.toList) same))
  · intro entry req member numbered path foreign
    exact refused_of_decided path foreign (decided entry req member numbered)

end Agreement

/-- A handler of two texts that is bound to loopback. -/
def sampleHandler : McpHttpHandler Unit :=
  ⟨bareDispatcher, ofString "127.0.0.1", sampleParse, fun _ => [], fun _ => false⟩

/-- A POST of a body. -/
def samplePost (body : Text) : HandedRequest where
  method := ofString "POST"
  path := ofString "/mcp/"
  query := []
  body := body
  headers := [(ofString "accept", textEventStream)]
  keepAlive := true
  remoteAddress := ofString "127.0.0.1"
  stale := .shortInPlace

/-- A batch that waits while another body is refused. -/
def samplePosts : List QueueEvent :=
  [.handle (samplePost (ofString "[]")) true, .handle (samplePost (ofString "1.5")) true, .afterWork 0 0]

theorem runs_answerAsStdio_sample : exists final,
    runs (WorkQueue.step sampleHandler.handle) WorkQueue.fresh samplePosts = some final ∧
      AnswersAsStdio sampleHandler final := by
  have ran : (runs (WorkQueue.step sampleHandler.handle) WorkQueue.fresh samplePosts).isSome = true := by
    decide +kernel
  rcases Option.isSome_iff_exists.mp ran with ⟨final, reached⟩
  exact ⟨final, reached, runs_answerAsStdio sampleHandler reached⟩

end Mcp
end BravoFinder
