import BravoFinder.Mcp.JsonValue
import BravoFinder.Service.Registry

namespace BravoFinder
namespace Mcp

/-!
# Dispatching JSON-RPC requests

A request is one object or a batch of them.  Each envelope is built as the value
that the writer is handed, and a batch splices the texts of its envelopes.
-/

namespace JsonRpc

def kVersion : Text := ofString "2.0"
def kInvalidRequest : Int := -32600
def kMethodNotFound : Int := -32601
def kInvalidParams : Int := -32602

end JsonRpc

def kMaxBatchSize : Nat := 32
def kProtocolVersion2024 : Text := ofString "2024-11-05"
def kProtocolVersion2025 : Text := ofString "2025-03-26"
def kDefaultProtocolVersion : Text := kProtocolVersion2025
def kListCyclesTool : Text := ofString "list_cycles"

/-- A string read up to its first NUL, as `GetString` and `c_str` alone are. -/
def cString (value : Text) : Text :=
  value.takeWhile fun byte => byte != 0

structure ToolResult where
  jsonText : Text
  isError : Bool
  elapsedMs : UInt32

structure Tool (NavDatabase : Type) where
  name : Text
  description : Text
  inputSchema : Json
  handler : Json -> NavDatabase -> ToolResult

/-- A dispatcher over the registry: the cycles it can serve and the database it
gives for a cycle, or for the latest. -/
structure Dispatcher (NavDatabase : Type) where
  version : Text
  inventory : BfdbInventory
  get : Option UInt32 -> Except Error NavDatabase
  tools : List (Tool NavDatabase)
  writer : JsonWriter

/-- The fields of an envelope, after which comes its result or its error. -/
def envelope (id : Json) (key : Text) (payload : Json) : Json :=
  .object [(ofString "jsonrpc", .string JsonRpc.kVersion), (ofString "id", id), (key, payload)]

def makeResult (id result : Json) : Json :=
  envelope id (ofString "result") result

def makeError (id : Json) (code : Int) (message : Text) : Json :=
  envelope id (ofString "error")
    (.object [(ofString "code", .number (.int code)), (ofString "message", .string message)])

def makeToolResult (id : Json) (jsonText : Text) (isError : Bool) (elapsedMs : UInt32) : Json :=
  envelope id (ofString "result") (.object
    [(ofString "content", .array
        [.object [(ofString "type", .string (ofString "text")), (ofString "text", .string jsonText)]]),
      (ofString "isError", .bool isError),
      (ofString "_meta", .object [(ofString "elapsed_ms", .number (.int elapsedMs.toNat))])])

/-- `JsonError`. -/
def jsonError (writer : JsonWriter) (message : Text) : Text :=
  writer.write (.object [(ofString "error", .string message)])

/-- `InjectCycleProperty`: another member of the first `properties`. -/
def injectCycleProperty (schema : Json) : Json :=
  match schema with
  | .object members =>
      match (members.takeWhile fun entry => entry.1 != ofString "properties",
          members.dropWhile fun entry => entry.1 != ofString "properties") with
      | (before, (key, .object properties) :: after) =>
          let cycle := Json.object
            [(ofString "type", .string (ofString "integer")),
              (ofString "description", .string (ofString ("AIRAC cycle to query, e.g. 2601. Omit to use the latest" ++
                " loaded cycle. Use list_cycles to see what is available.")))]
          .object (before ++ (key, .object (properties ++ [(ofString "cycle", cycle)])) :: after)
      | _ => schema
  | _ => schema

/-- `NegotiateProtocolVersion`. -/
def negotiateProtocolVersion (params : Option Json) : Text :=
  match params.bind fun value => value.string? (ofString "protocolVersion") with
  | some requested =>
      if cString requested = kProtocolVersion2025 then kProtocolVersion2025
      else if cString requested = kProtocolVersion2024 then kProtocolVersion2024
      else kDefaultProtocolVersion
  | none => kDefaultProtocolVersion

/-- `IsEchoableId`. -/
def isEchoableId (id : Json) : Bool :=
  id.isScalarId

namespace Dispatcher

variable {NavDatabase : Type} (dispatcher : Dispatcher NavDatabase)

/-- `HandleInitialize`. -/
def handleInitialize (id : Json) (params : Option Json) : Json :=
  makeResult id (.object
    [(ofString "protocolVersion", .string (negotiateProtocolVersion params)),
      (ofString "serverInfo", .object
        [(ofString "name", .string (ofString "bf-mcp")), (ofString "version", .string dispatcher.version)]),
      (ofString "capabilities", .object
        [(ofString "tools", .object [(ofString "listChanged", .bool false)])])])

/-- `HandleToolsList`. -/
def handleToolsList (id : Json) : Json :=
  let entries := dispatcher.tools.map fun tool => Json.object
    [(ofString "name", .string (cString tool.name)), (ofString "description", .string (cString tool.description)),
      (ofString "inputSchema", injectCycleProperty tool.inputSchema)]
  let listCycles := Json.object
    [(ofString "name", .string kListCyclesTool),
      (ofString "description", .string (ofString ("List the AIRAC cycles this server can query. Returns each cycle" ++
        " (newest first). Pass a cycle to the other tools' 'cycle' argument to query a specific one."))),
      (ofString "inputSchema", .object
        [(ofString "type", .string (ofString "object")), (ofString "properties", .object [])])]
  makeResult id (.object [(ofString "tools", .array (entries ++ [listCycles]))])

/-- `HandleListCycles`: the newest first. -/
def handleListCycles (id : Json) : Json :=
  let cycles := Json.array (dispatcher.inventory.entries.reverse.map fun entry =>
    .object [(ofString "cycle", .number (.int entry.cycle.toNat))])
  makeToolResult id (dispatcher.writer.write cycles) false 0

/-- The tools, tried in order. -/
def callTool (id args : Json) (name : Text) (db : NavDatabase) : Json :=
  match dispatcher.tools.find? fun tool => tool.name == name with
  | some tool =>
      let result := tool.handler args db
      makeToolResult id result.jsonText result.isError result.elapsedMs
  | none => makeError id JsonRpc.kInvalidParams (ofString "unknown tool: " ++ name)

/-- The call, with the database of the cycle. -/
def serve (id args : Json) (name : Text) (cycle : Option UInt32) : Json :=
  match dispatcher.get cycle with
  | .error e => makeToolResult id (jsonError dispatcher.writer e.message) true 0
  | .ok db => dispatcher.callTool id args name db

/-- `HandleToolsCall`. -/
def handleToolsCall (id params : Json) : Json :=
  match params.string? (ofString "name") with
  | none => makeError id JsonRpc.kInvalidParams (ofString "missing tool name")
  | some name =>
      if name = kListCyclesTool then dispatcher.handleListCycles id
      else
        let args :=
          match params.member? (ofString "arguments") with
          | some (.object members) => Json.object members
          | _ => .object []
        let invalid := makeToolResult id
          (jsonError dispatcher.writer (ofString "cycle must be a non-negative integer (omit for latest)")) true 0
        match args.member? (ofString "cycle") with
        | none => dispatcher.serve id args name none
        | some value =>
            match value.uint? with
            | none => invalid
            | some cycle => dispatcher.serve id args name (some cycle)

/-- The methods, once the request has passed its checks.  `id` is `none` for a
notification. -/
def runMethod (request : Json) (id : Option Json) (method : Text) (inBatch : Bool) : Option Json :=
  if method = ofString "initialize" then
    if inBatch then
      some (makeError (id.getD .null) JsonRpc.kInvalidRequest
        (ofString "invalid request: initialize must not be part of a batch"))
    else id.map fun id => dispatcher.handleInitialize id (request.member? (ofString "params"))
  else if method = ofString "ping" then id.map fun id => makeResult id (.object [])
  else if method = ofString "tools/list" then id.map dispatcher.handleToolsList
  else if method = ofString "tools/call" then
    id.map fun id =>
      match request.member? (ofString "params") with
      | some (.object members) => dispatcher.handleToolsCall id (.object members)
      | _ => makeError id JsonRpc.kInvalidParams (ofString "tools/call requires a params object")
  else id.map fun id => makeError id JsonRpc.kMethodNotFound (ofString "method not found: " ++ method)

/-- `DispatchOne`.  No envelope is the source's response without a body. -/
def dispatchOne (request : Json) (inBatch : Bool) : Option Json :=
  if !request.isObject then none
  else
    let id := request.member? (ofString "id")
    if (id.map isEchoableId).getD true = false then
      some (makeError .null JsonRpc.kInvalidRequest (ofString "invalid request: id must be a string or a number"))
    else if request.string? (ofString "jsonrpc") ≠ some JsonRpc.kVersion then
      some (makeError (id.getD .null) JsonRpc.kInvalidRequest
        (ofString "invalid request: jsonrpc must be \"2.0\""))
    else
      match request.string? (ofString "method") with
      | none => id.map fun id =>
          makeError id JsonRpc.kInvalidRequest (ofString "invalid request: missing or non-string method")
      | some method => dispatcher.runMethod request id method inBatch

/-- What an element of a batch is answered with. -/
def dispatchElement (item : Json) : Option Json :=
  if !item.isObject then some (makeError .null JsonRpc.kInvalidRequest (ofString "invalid request"))
  else dispatcher.dispatchOne item true

/-- `DispatchBatch`: the body of the response, if there is one. -/
def dispatchBatch (batch : List Json) : Option Text :=
  let refuse := fun (message : Text) => dispatcher.writer.write (makeError .null JsonRpc.kInvalidRequest message)
  if batch.isEmpty then some (refuse (ofString "invalid request: empty batch"))
  else if kMaxBatchSize < batch.length then
    some (refuse (ofString "invalid request: batch of " ++ decimal batch.length ++
      ofString " exceeds the limit of " ++ decimal kMaxBatchSize))
  else
    let envelopes := batch.filterMap dispatcher.dispatchElement
    if envelopes.isEmpty then none
    else some (dispatcher.writer.writeArray (envelopes.map dispatcher.writer.write))

/-- `Dispatch`. -/
def dispatch (request : Json) : Option Text :=
  match request with
  | .array batch => dispatcher.dispatchBatch batch
  | _ => (dispatcher.dispatchOne request false).map dispatcher.writer.write

end Dispatcher
end Mcp
end BravoFinder
