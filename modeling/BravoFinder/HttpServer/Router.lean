import BravoFinder.HttpServer.WorkQueue
import BravoFinder.HttpServer.Origin
import BravoFinder.Mcp.McpHttp
import BravoFinder.Cache.BfdbNaming

namespace BravoFinder

/-!
# The REST router

A query endpoint takes its arguments as the body of a POST and its cycle from
the query string, and is answered off the loop thread.  The other endpoints are
read, by GET or by HEAD.
-/

/-- `HandlerResult`. -/
structure HandlerResult where
  body : Text
  status : Int
  elapsedMs : UInt32

/-- `QueryHandler`, without a result when it throws. -/
abbrev QueryHandler (NavDatabase : Type) := Json -> NavDatabase -> Option HandlerResult

/-- `Router`, over the registry: the cycles it can serve and the database it
gives for a cycle, or for the latest. -/
structure Router (NavDatabase : Type) where
  version : Text
  inventory : BfdbInventory
  get : Option UInt32 -> Except Error NavDatabase
  /-- `MakeHandlers`. -/
  handlers : List (Text × QueryHandler NavDatabase)
  bindHost : Text
  /-- What the parser makes of a text. -/
  parse : Text -> Option Json
  writer : JsonWriter

/-- `kRoutes`: the names of the handlers and their paths. -/
def kRoutes : List (Text × Text) :=
  [(ofString "find_routes", ofString "/v1/routes"),
    (ofString "parse_route", ofString "/v1/parse-route"),
    (ofString "lookup_waypoints", ofString "/v1/waypoints"),
    (ofString "lookup_airports", ofString "/v1/airports"),
    (ofString "lookup_procedures", ofString "/v1/procedures"),
    (ofString "lookup_procedure_legs", ofString "/v1/procedure-legs"),
    (ofString "lookup_airways", ofString "/v1/airways"),
    (ofString "lookup_navaid_detail", ofString "/v1/navaid-detail"),
    (ofString "lookup_holds", ofString "/v1/holds"),
    (ofString "lookup_msa", ofString "/v1/msa")]

/-- `from_chars` into 32 bits, over the whole of a text that is not empty. -/
def wholeUint (value : Text) : Option UInt32 :=
  if value.isEmpty then none else (addDigits value 0).map UInt32.ofNat

/-- Whether a parameter is a `cycle`. -/
def isCycle (token : Text) : Bool :=
  token.contains 61 && token.takeWhile (· != 61) == ofString "cycle"

/-- `ParseCycle`: nothing for a malformed cycle. -/
def Router.parseCycle (query : Text) : Option (Option UInt32) :=
  match (query.splitOn 38).find? isCycle with
  | none => some none
  | some token => (wholeUint ((token.dropWhile (· != 61)).drop 1)).map some

/-- `StatusJson`. -/
def statusJson (writer : JsonWriter) (value : Text) : Text :=
  writer.write (.object [(ofString "status", .string value)])

/-- `ReadyHandler`. -/
def readyHandler {NavDatabase : Type} (writer : JsonWriter) : QueryHandler NavDatabase :=
  fun _ _ => some ⟨statusJson writer (ofString "ready"), kStatusOk, 0⟩

namespace Router

variable {NavDatabase : Type} (router : Router NavDatabase)

/-- `routes_`: the paths that have a handler. -/
def routes : List (Text × QueryHandler NavDatabase) :=
  kRoutes.filterMap fun (name, path) =>
    (router.handlers.find? fun handler => handler.1 == name).map fun handler => (path, handler.2)

/-- `VersionJson`. -/
def versionJson : Text :=
  router.writer.write (.object [(ofString "version", .string router.version)])

/-- `SerializeCycles`: the newest first. -/
def serializeCycles : Text :=
  router.writer.write (.object [(ofString "cycles", .array (router.inventory.entries.reverse.map fun entry =>
    .object [(ofString "cycle", .number (.int entry.cycle.toNat))]))])

/-- `MakeWork`. -/
def makeWork (handler : QueryHandler NavDatabase) (args : Json) (cycle : Option UInt32) (cycleErrorStatus : Int) :
    Option WorkResult :=
  match router.get cycle with
  | .error e => some ⟨cycleErrorStatus, Mcp.jsonError router.writer e.message, 0, [], []⟩
  | .ok db => (handler args db).map fun r => ⟨r.status, r.body, r.elapsedMs, [], []⟩

/-- A query, once its endpoint is known. -/
def handleQuery (handler : QueryHandler NavDatabase) (inflight : Int) (req : HandedRequest) : Handled :=
  if kMaxInflightWork ≤ inflight then .reply (serverBusy req.keepAlive)
  else
    match Router.parseCycle req.query with
    | none => respond req kStatusBadRequest (jsonError (ofString "cycle must be a non-negative integer"))
    | some cycle =>
        if req.body.isEmpty then .queueWork (router.makeWork handler (.object []) cycle kStatusBadRequest)
        else
          match router.parse req.body with
          | some (.object members) => .queueWork (router.makeWork handler (.object members) cycle kStatusBadRequest)
          | _ => respond req kStatusBadRequest (jsonError (ofString "request body must be a JSON object"))

/-- `Handle`. -/
def handle (inflight : Int) (req : HandedRequest) : Handled :=
  let path := matchedPath req.path
  let isHead := req.method = ofString "HEAD"
  let isGet := req.method = ofString "GET" ∨ isHead
  if !originAllowed req.stale req.toHttpRequest router.bindHost then
    respond req kStatusForbidden (jsonError (ofString "origin not allowed"))
  else if isGet ∧ path = ofString "/healthz" then respond req kStatusOk (statusJson router.writer (ofString "ok"))
  else if isGet ∧ path = ofString "/v1/version" then respond req kStatusOk router.versionJson
  else if isGet ∧ path = ofString "/v1/cycles" then respond req kStatusOk router.serializeCycles
  else if isGet ∧ path = ofString "/readyz" then
    if kMaxInflightWork ≤ inflight then .reply (serverBusy req.keepAlive)
    else .queueWork (router.makeWork (readyHandler router.writer) (.object []) none kStatusServiceUnavailable)
  else
    match router.routes.find? fun route => route.1 == path with
    | none => respond req kStatusNotFound (if isHead then [] else jsonError (ofString "not found"))
    | some route =>
        if req.method ≠ ofString "POST" then
          .reply (.respond kStatusMethodNotAllowed (if isHead then [] else jsonError (ofString "method not allowed"))
            req.keepAlive applicationJson [(ofString "Allow", ofString "POST")] 0)
        else router.handleQuery route.2 inflight req

end Router

/-! ## What is asked of the database -/

/-- The value of a `cycle` parameter is a number of 32 bits. -/
def IsCycleValue (value : Text) (cycle : UInt32) : Prop :=
  value ≠ [] ∧ AllDigits value ∧ decimalValue value 0 = cycle.toNat

/-- The first `cycle` parameter of a query gives the cycle; without one it is the
latest. -/
inductive CycleOf (query : Text) : Option UInt32 -> Prop where
  | latest (absent : forall token, token ∈ query.splitOn 38 -> ¬ ofString "cycle=" <+: token) : CycleOf query none
  | named {before after : List Text} {value : Text} {cycle : UInt32}
      (parameters : query.splitOn 38 = before ++ (ofString "cycle=" ++ value) :: after)
      (first : forall token, token ∈ before -> ¬ ofString "cycle=" <+: token)
      (number : IsCycleValue value cycle) : CycleOf query (some cycle)

/-- The arguments of a query. -/
def ArgsOf (parse : Text -> Option Json) (body : Text) (args : Json) : Prop :=
  body = [] ∧ args = .object [] ∨ body ≠ [] ∧ parse body = some args ∧ args.isObject = true

/-- A request asks a handler, with arguments, of the database of a cycle. -/
structure Asks {NavDatabase : Type} (router : Router NavDatabase) (req : HandedRequest)
    (handler : QueryHandler NavDatabase) (args : Json) (cycle : Option UInt32) : Prop where
  origin : originAllowed req.stale req.toHttpRequest router.bindHost = true
  method : req.method = ofString "POST"
  routed : router.routes.find? (fun route => route.1 == matchedPath req.path) = some (matchedPath req.path, handler)
  cycle : CycleOf req.query cycle
  args : ArgsOf router.parse req.body args

/-- A request asks whether the latest cycle can be served. -/
structure AsksReady {NavDatabase : Type} (router : Router NavDatabase) (req : HandedRequest) : Prop where
  origin : originAllowed req.stale req.toHttpRequest router.bindHost = true
  method : req.method = ofString "GET" ∨ req.method = ofString "HEAD"
  path : matchedPath req.path = ofString "/readyz"

/-- What a router at work has answered. -/
structure ServesQueries {NavDatabase : Type} (router : Router NavDatabase) (queue : WorkQueue) : Prop where
  account : Accounted router.handle queue
  /-- A query is answered with its result, or was turned away. -/
  served : forall entry req handler args cycle, entry ∈ queue.outcomes -> queue.requests[entry.1]? = some req ->
    Asks router req handler args cycle -> entry.2.TurnedAway req ∨
      entry.2 = .finished 0 req.keepAlive (onWork (router.makeWork handler args cycle kStatusBadRequest))
  /-- The database is asked by such a query only, or for readiness. -/
  asked : forall entry req status keepAlive result, entry ∈ queue.outcomes -> queue.requests[entry.1]? = some req ->
    entry.2 = .finished status keepAlive result ->
      AsksReady router req ∧
        result = onWork (router.makeWork (readyHandler router.writer) (.object []) none kStatusServiceUnavailable) ∨
      exists handler args cycle, Asks router req handler args cycle ∧
        result = onWork (router.makeWork handler args cycle kStatusBadRequest)

/-! ## Parameters -/

theorem ofString_cycle : ofString "cycle=" = ofString "cycle" ++ [61] := by
  decide +kernel

/-- A name without an equals sign ends at the first one. -/
theorem takeWhile_name {name : Text} (clean : 61 ∉ name) (value : Text) :
    (name ++ 61 :: value).takeWhile (· != 61) = name ∧ (name ++ 61 :: value).dropWhile (· != 61) = 61 :: value := by
  have each : forall c, c ∈ name -> (c != 61) = true := by
    intro c member
    rw [bne_iff_ne]
    rintro rfl
    exact clean member
  constructor
  · rw [List.takeWhile_append_of_pos each]
    simp
  · rw [List.dropWhile_append_of_pos each]
    simp

theorem isCycle_iff (token : Text) : isCycle token = true ↔ ofString "cycle=" <+: token := by
  have clean : 61 ∉ ofString "cycle" := by decide +kernel
  rw [isCycle, Bool.and_eq_true, ofString_cycle]
  constructor
  · rintro ⟨equals, name⟩
    rcases List.eq_append_cons_of_mem (List.contains_iff_mem.mp equals) with ⟨before, value, rfl, noEquals⟩
    rw [(takeWhile_name noEquals value).1] at name
    rw [← eq_of_beq name]
    exact ⟨value, by simp⟩
  · rintro ⟨value, rfl⟩
    rw [List.append_assoc, List.singleton_append, (takeWhile_name clean value).1]
    simp

/-- What follows the name of a `cycle` parameter. -/
theorem value_of_cycle (value : Text) : ((ofString "cycle=" ++ value).dropWhile (· != 61)).drop 1 = value := by
  have clean : 61 ∉ ofString "cycle" := by decide +kernel
  rw [ofString_cycle, List.append_assoc, List.singleton_append, (takeWhile_name clean value).2]
  rfl

theorem wholeUint_eq_some_iff {value : Text} {cycle : UInt32} :
    wholeUint value = some cycle ↔ IsCycleValue value cycle := by
  rw [wholeUint, IsCycleValue]
  by_cases blank : value = []
  · simp [blank]
  · have filled : value.isEmpty = false := List.isEmpty_eq_false_iff.mpr blank
    rw [filled, if_neg Bool.false_ne_true, Option.map_eq_some_iff]
    constructor
    · rintro ⟨total, added, rfl⟩
      have all := allDigits_of_addDigits added
      rw [addDigits_eq (by decide) all] at added
      split_ifs at added with fits
      cases added
      refine ⟨blank, all, ?_⟩
      rw [UInt32.toNat_ofNat_of_lt' fits]
    · rintro ⟨_, all, number⟩
      refine ⟨cycle.toNat, ?_, UInt32.ofNat_toNat⟩
      rw [addDigits_eq (by decide) all, number, if_pos cycle.toNat_lt]

/-- The cycle of a query string. -/
theorem queryCycle_eq_some_iff {query : Text} {cycle : Option UInt32} :
    Router.parseCycle query = some cycle ↔ CycleOf query cycle := by
  have others : forall {tokens : List Text}, (forall token, token ∈ tokens -> (!isCycle token) = true) ↔
      forall token, token ∈ tokens -> ¬ ofString "cycle=" <+: token := by
    intro tokens
    simp [← isCycle_iff]
  rw [Router.parseCycle]
  cases found : (query.splitOn 38).find? isCycle with
  | none =>
      have absent : forall token, token ∈ query.splitOn 38 -> ¬ ofString "cycle=" <+: token := by
        intro token member
        rw [← isCycle_iff]
        exact List.find?_eq_none.mp found token member
      constructor
      · intro same
        cases same
        exact CycleOf.latest absent
      · intro asked
        cases asked with
        | latest _ => rfl
        | @named _ _ value _ parameters _ _ =>
            have member : ofString "cycle=" ++ value ∈ query.splitOn 38 := by
              rw [parameters]
              exact List.mem_append_right _ List.mem_cons_self
            exact absurd (List.prefix_append _ _) (absent _ member)
  | some token =>
      rcases List.find?_eq_some_iff_append.mp found with ⟨isToken, before, after, split, first⟩
      rcases (isCycle_iff token).mp isToken with ⟨value, rfl⟩
      simp only [value_of_cycle, Option.map_eq_some_iff]
      constructor
      · rintro ⟨number, read, rfl⟩
        exact CycleOf.named split (others.mp first) (wholeUint_eq_some_iff.mp read)
      · intro asked
        cases asked with
        | latest absent =>
            have member : ofString "cycle=" ++ value ∈ query.splitOn 38 := by
              rw [split]
              exact List.mem_append_right _ List.mem_cons_self
            exact absurd (List.prefix_append _ _) (absent _ member)
        | @named otherBefore otherAfter other number parameters otherFirst isNumber =>
            have again : (query.splitOn 38).find? isCycle = some (ofString "cycle=" ++ other) := by
              rw [List.find?_eq_some_iff_append]
              exact ⟨(isCycle_iff _).mpr (List.prefix_append _ _), otherBefore, otherAfter, parameters,
                others.mpr otherFirst⟩
            rw [found] at again
            rw [List.append_cancel_left (Option.some.inj again)]
            exact ⟨number, wholeUint_eq_some_iff.mpr isNumber, rfl⟩

/-! ## Runs -/

section Serving

variable {NavDatabase : Type} {router : Router NavDatabase}

/-- A POST to a query endpoint is taken as a query. -/
theorem handle_query {req : HandedRequest} {handler : QueryHandler NavDatabase}
    (origin : originAllowed req.stale req.toHttpRequest router.bindHost = true) (method : req.method = ofString "POST")
    (routed : router.routes.find? (fun route => route.1 == matchedPath req.path) = some (matchedPath req.path, handler))
    (inflight : Int) : router.handle inflight req = router.handleQuery handler inflight req := by
  have notGet : ¬ (req.method = ofString "GET" ∨ req.method = ofString "HEAD") := by
    rw [method]
    decide +kernel
  have notRead : forall path, ¬ ((req.method = ofString "GET" ∨ req.method = ofString "HEAD") ∧ matchedPath req.path = path) :=
    fun _ both => notGet both.1
  rw [Router.handle, origin, Bool.not_true, if_neg Bool.false_ne_true, if_neg (notRead _), if_neg (notRead _),
    if_neg (notRead _), if_neg (notRead _), routed]
  exact if_neg (not_not.mpr method)

/-- What the router does with a request: a reply that the request alone decides,
the readiness check, or a query. -/
theorem handle_cases (router : Router NavDatabase) (req : HandedRequest) :
    (exists answer, forall inflight, router.handle inflight req = .reply answer) ∨
      (AsksReady router req ∧ forall inflight, router.handle inflight req =
        if kMaxInflightWork ≤ inflight then .reply (serverBusy req.keepAlive)
        else .queueWork (router.makeWork (readyHandler router.writer) (.object []) none kStatusServiceUnavailable)) ∨
      exists handler, originAllowed req.stale req.toHttpRequest router.bindHost = true ∧ req.method = ofString "POST" ∧
        router.routes.find? (fun route => route.1 == matchedPath req.path) = some (matchedPath req.path, handler) ∧
          forall inflight, router.handle inflight req = router.handleQuery handler inflight req := by
  by_cases origin : originAllowed req.stale req.toHttpRequest router.bindHost = true
  · by_cases read : (req.method = ofString "GET" ∨ req.method = ofString "HEAD") ∧
        matchedPath req.path = ofString "/readyz"
    · have others : forall path, path ≠ ofString "/readyz" ->
          ¬ ((req.method = ofString "GET" ∨ req.method = ofString "HEAD") ∧ matchedPath req.path = path) :=
        fun path other both => other (both.2.symm.trans read.2)
      refine Or.inr (Or.inl ⟨⟨origin, read.1, read.2⟩, ?_⟩)
      intro inflight
      rw [Router.handle, origin, Bool.not_true, if_neg Bool.false_ne_true, if_neg (others _ (by decide +kernel)),
        if_neg (others _ (by decide +kernel)), if_neg (others _ (by decide +kernel)), if_pos read]
    · cases routed : router.routes.find? (fun route => route.1 == matchedPath req.path) with
      | none =>
          left
          simp only [Router.handle, origin, Bool.not_true, Bool.false_eq_true, if_false, if_neg read, routed]
          split_ifs <;> exact ⟨_, fun _ => rfl⟩
      | some route =>
          have matched : (route.1 == matchedPath req.path) = true :=
            List.find?_some (p := fun known : Text × QueryHandler NavDatabase => known.1 == matchedPath req.path) routed
          have path : route.1 = matchedPath req.path := eq_of_beq matched
          by_cases method : req.method = ofString "POST"
          · have known : router.routes.find? (fun route => route.1 == matchedPath req.path) =
                some (matchedPath req.path, route.2) := by
              rw [routed, ← path]
            exact Or.inr (Or.inr ⟨route.2, origin, method, routed ▸ known, handle_query origin method known⟩)
          · left
            simp only [Router.handle, origin, Bool.not_true, Bool.false_eq_true, if_false, if_neg read, routed,
              if_pos (show req.method ≠ ofString "POST" from method)]
            split_ifs <;> exact ⟨_, fun _ => rfl⟩
  · left
    rw [Bool.not_eq_true] at origin
    simp only [Router.handle, origin, Bool.not_false, if_true]
    exact ⟨_, fun _ => rfl⟩

/-- What the router does with a query: a reply that the request alone decides, or
the work for its arguments. -/
theorem handleQuery_cases (router : Router NavDatabase) (handler : QueryHandler NavDatabase) (req : HandedRequest) :
    (exists answer, forall inflight, ¬ kMaxInflightWork ≤ inflight ->
        router.handleQuery handler inflight req = .reply answer) ∨
      exists args cycle, CycleOf req.query cycle ∧ ArgsOf router.parse req.body args ∧
        forall inflight, ¬ kMaxInflightWork ≤ inflight -> router.handleQuery handler inflight req =
          .queueWork (router.makeWork handler args cycle kStatusBadRequest) := by
  simp only [Router.handleQuery]
  cases parsed : Router.parseCycle req.query with
  | none => exact Or.inl ⟨_, fun _ room => if_neg room⟩
  | some cycle =>
      have asked := queryCycle_eq_some_iff.mp parsed
      by_cases blank : req.body = []
      · refine Or.inr ⟨_, cycle, asked, Or.inl ⟨blank, rfl⟩, ?_⟩
        intro inflight room
        simp [room, blank]
      · have filled : req.body.isEmpty = false := List.isEmpty_eq_false_iff.mpr blank
        simp only [filled, Bool.false_eq_true, if_false]
        cases args : router.parse req.body with
        | none => exact Or.inl ⟨_, fun _ room => if_neg room⟩
        | some value =>
            cases value with
            | object members => exact Or.inr ⟨_, cycle, asked, Or.inr ⟨blank, args, rfl⟩, fun _ room => if_neg room⟩
            | _ => exact Or.inl ⟨_, fun _ room => if_neg room⟩

theorem handleQuery_full {handler : QueryHandler NavDatabase} {inflight : Int} {req : HandedRequest}
    (full : kMaxInflightWork ≤ inflight) : router.handleQuery handler inflight req = .reply (serverBusy req.keepAlive) :=
  if_pos full

theorem sheds_router (router : Router NavDatabase) : Sheds router.handle where
  full inflight req work full := by
    intro queued
    rcases handle_cases router req with ⟨answer, replies⟩ | ⟨_, ready⟩ | ⟨handler, _, _, _, query⟩
    · rw [replies] at queued
      cases queued
    · rw [ready, if_pos full] at queued
      cases queued
    · rw [query, handleQuery_full full] at queued
      cases queued
  either inflight req := by
    have empty : ¬ kMaxInflightWork ≤ 0 := by decide
    rcases handle_cases router req with ⟨answer, replies⟩ | ⟨_, ready⟩ | ⟨handler, _, _, _, query⟩
    · exact Or.inl ((replies inflight).trans (replies 0).symm)
    · by_cases full : kMaxInflightWork ≤ inflight
      · exact Or.inr ⟨full, by rw [ready, if_pos full]⟩
      · exact Or.inl (by rw [ready, ready, if_neg full, if_neg empty])
    · by_cases full : kMaxInflightWork ≤ inflight
      · exact Or.inr ⟨full, by rw [query, handleQuery_full full]⟩
      · left
        rw [query, query]
        rcases handleQuery_cases router handler req with ⟨answer, replies⟩ | ⟨args, cycle, _, _, queues⟩
        · rw [replies inflight full, replies 0 empty]
        · rw [queues inflight full, queues 0 empty]

/-- A query that asks is queued for its handler. -/
theorem handle_of_asks {req : HandedRequest} {handler : QueryHandler NavDatabase} {args : Json} {cycle : Option UInt32}
    (asks : Asks router req handler args cycle) :
    router.handle 0 req = .queueWork (router.makeWork handler args cycle kStatusBadRequest) := by
  have room : ¬ kMaxInflightWork ≤ 0 := by decide
  rw [handle_query asks.origin asks.method asks.routed, Router.handleQuery, if_neg room,
    queryCycle_eq_some_iff.mpr asks.cycle]
  rcases asks.args with ⟨blank, rfl⟩ | ⟨filled, parsed, isObject⟩
  · simp [blank]
  · have notBlank : req.body.isEmpty = false := List.isEmpty_eq_false_iff.mpr filled
    cases args with
    | object members => simp [notBlank, parsed]
    | _ => cases isObject

/-- What is queued was asked. -/
theorem asked_of_queued {req : HandedRequest} {work : Option WorkResult} (queued : router.handle 0 req = .queueWork work) :
    AsksReady router req ∧ work = router.makeWork (readyHandler router.writer) (.object []) none kStatusServiceUnavailable ∨
      exists handler args cycle, Asks router req handler args cycle ∧
        work = router.makeWork handler args cycle kStatusBadRequest := by
  have room : ¬ kMaxInflightWork ≤ 0 := by decide
  rcases handle_cases router req with ⟨answer, replies⟩ | ⟨asks, ready⟩ | ⟨handler, origin, method, routed, query⟩
  · rw [replies] at queued
    cases queued
  · rw [ready, if_neg room] at queued
    cases queued
    exact Or.inl ⟨asks, rfl⟩
  · rw [query] at queued
    rcases handleQuery_cases router handler req with ⟨answer, replies⟩ | ⟨args, cycle, asked, given, queues⟩
    · rw [replies 0 room] at queued
      cases queued
    · rw [queues 0 room] at queued
      cases queued
      exact Or.inr ⟨handler, args, cycle, ⟨origin, method, routed, asked, given⟩, rfl⟩

/-- In every run each request is answered once, and each query by its result. -/
theorem runs_servesQueries (router : Router NavDatabase) {events : List QueueEvent} {final : WorkQueue}
    (ran : runs (WorkQueue.step router.handle) WorkQueue.fresh events = some final) : ServesQueries router final := by
  have account := Accounted.runs (sheds_router router) ran
  have decided : forall entry req, entry ∈ final.outcomes -> final.requests[entry.1]? = some req ->
      Decided router.handle req entry.2 := by
    intro entry req member numbered
    rcases account.decided entry member with ⟨known, found, decided⟩
    rw [numbered] at found
    cases found
    exact decided
  refine ⟨account, ?_, ?_⟩
  · intro entry req handler args cycle member numbered asks
    have queued := handle_of_asks asks
    have known := decided entry req member numbered
    cases outcome : entry.2 with
    | replied inflight answer =>
        rw [outcome] at known
        rcases known with ⟨_, replied | away⟩
        · rw [queued] at replied
          cases replied
        · exact Or.inl away
    | refused keepAlive => exact Or.inl trivial
    | finished status keepAlive result =>
        rw [outcome] at known
        rcases known with ⟨rfl, work, handled, rfl⟩
        rw [queued] at handled
        cases handled
        by_cases done : status = 0
        · rw [done]
          exact Or.inr rfl
        · exact Or.inl done
  · intro entry req status keepAlive result member numbered outcome
    have known := decided entry req member numbered
    rw [outcome] at known
    rcases known with ⟨_, work, handled, rfl⟩
    rcases asked_of_queued handled with ⟨ready, rfl⟩ | ⟨handler, args, cycle, asks, rfl⟩
    · exact Or.inl ⟨ready, rfl⟩
    · exact Or.inr ⟨handler, args, cycle, asks, rfl⟩

end Serving

/-- A router of one cycle and one handler, which echoes. -/
def sampleRouter : Router Unit where
  version := ofString "1.0"
  inventory := ⟨[⟨ofString "nav_2513.bfdb", 2513⟩], List.pairwise_singleton _ _⟩
  get cycle := if cycle = none ∨ cycle = some 2513 then .ok () else .error ⟨.kDataMissing, ofString "unknown cycle"⟩
  handlers := [(ofString "lookup_holds", fun args _ => some ⟨plainText args, kStatusOk, 1⟩)]
  bindHost := []
  parse _ := none
  writer := plainWriter

/-- A query of a cycle, without arguments. -/
def sampleQuery (query : Text) : HandedRequest where
  method := ofString "POST"
  path := ofString "/v1/holds/"
  query := query
  body := []
  headers := []
  keepAlive := true
  remoteAddress := ofString "127.0.0.1"
  stale := .shortInPlace

/-- A query of one cycle is overtaken by a query of another. -/
def sampleQueries : List QueueEvent :=
  [.handle (sampleQuery (ofString "a=1&cycle=2513")) true, .handle (sampleQuery (ofString "cycle=2601")) true,
    .handle (sampleQuery (ofString "cycle=26x1")) true, .afterWork 1 0, .afterWork 0 0]

theorem runs_servesQueries_sample : exists final,
    runs (WorkQueue.step sampleRouter.handle) WorkQueue.fresh sampleQueries = some final ∧
      ServesQueries sampleRouter final := by
  have ran : (runs (WorkQueue.step sampleRouter.handle) WorkQueue.fresh sampleQueries).isSome = true := by
    decide +kernel
  rcases Option.isSome_iff_exists.mp ran with ⟨final, reached⟩
  exact ⟨final, reached, runs_servesQueries sampleRouter reached⟩

end BravoFinder
