import BravoFinder.Mcp.Dispatcher
import Mathlib.Data.List.Forall2

namespace BravoFinder
namespace Mcp

/-!
# What is replied to what

Every element of a batch gets one envelope, in order, unless it is silent.  An
envelope carries the id of its request when that is a string or a number, and
null otherwise.  The checks run in a fixed order, the version before the method,
so an object without id and without version is answered, and so is an
`initialize` in a batch, with or without id.
-/

/-- The id that may be echoed. -/
def echoedId (request : Json) : Json :=
  match request.member? (ofString "id") with
  | some (.string value) => .string value
  | some (.number value) => .number value
  | _ => .null

/-- An envelope of a request: a result or an error, under the request's id. -/
def IsEnvelopeOf (request reply : Json) : Prop :=
  exists key payload, reply = envelope (echoedId request) key payload ∧
    (key = ofString "result" ∨ key = ofString "error")

/-- A refusal with -32600. -/
def IsRefusal (reply : Json) : Prop :=
  exists id message, reply = makeError id JsonRpc.kInvalidRequest message

/-- The envelope of an element: `initialize` is refused. -/
structure IsReplyTo (element reply : Json) : Prop where
  envelope : IsEnvelopeOf element reply
  refused : element.string? (ofString "method") = some (ofString "initialize") -> IsRefusal reply

/-- How the replies of a dispatcher correspond to requests, when the elements of
a kind get none. -/
structure RepliesCorrespond {NavDatabase : Type} (dispatcher : Dispatcher NavDatabase) (silent : Json -> Bool) :
    Prop where
  /-- A batch has one envelope for each element that is not silent, in order. -/
  batch : forall elements, elements ≠ [] -> elements.length ≤ kMaxBatchSize -> exists replies,
    List.Forall₂ IsReplyTo (elements.filter fun element => !silent element) replies ∧
      dispatcher.dispatch (.array elements) =
        if replies = [] then none else some (dispatcher.writer.writeArray (replies.map dispatcher.writer.write))
  empty : exists message,
    dispatcher.dispatch (.array []) = some (dispatcher.writer.write (makeError .null JsonRpc.kInvalidRequest message))
  oversized : forall elements, kMaxBatchSize < elements.length -> exists message,
    dispatcher.dispatch (.array elements) =
      some (dispatcher.writer.write (makeError .null JsonRpc.kInvalidRequest message))
  /-- A request that is no batch has at most one envelope. -/
  single : forall request, (forall elements, request ≠ .array elements) ->
    dispatcher.dispatch request = none ∨
      exists reply, IsEnvelopeOf request reply ∧ dispatcher.dispatch request = some (dispatcher.writer.write reply)
  /-- Alone in a batch, a request gets the envelope it gets alone. -/
  alone : forall request, request.isObject = true ->
    request.string? (ofString "method") ≠ some (ofString "initialize") ->
      dispatcher.dispatch (.array [request]) = (dispatcher.dispatch request).map fun body => [91] ++ body ++ [93]

/-- An object without id, of version 2.0, that does not initialize. -/
def silentByDesign (element : Json) : Bool :=
  element.isObject && (element.member? (ofString "id")).isNone &&
    decide (element.string? (ofString "jsonrpc") = some JsonRpc.kVersion) &&
      decide (element.string? (ofString "method") ≠ some (ofString "initialize"))

/-- A notification of version 2.0, or any object with neither id nor method. -/
def silentAsNotification (element : Json) : Bool :=
  element.isObject && (element.member? (ofString "id")).isNone &&
    ((element.string? (ofString "method")).isNone ||
      decide (element.string? (ofString "jsonrpc") = some JsonRpc.kVersion))

/-! ## One request -/

section One

variable {NavDatabase : Type} {dispatcher : Dispatcher NavDatabase}

theorem isEnvelopeOf_makeError {request id : Json} (echoed : id = echoedId request) (code : Int) (message : Text) :
    IsEnvelopeOf request (makeError id code message) :=
  ⟨_, _, by rw [makeError, echoed], Or.inr rfl⟩

theorem isEnvelopeOf_makeResult {request id : Json} (echoed : id = echoedId request) (result : Json) :
    IsEnvelopeOf request (makeResult id result) :=
  ⟨_, _, by rw [makeResult, echoed], Or.inl rfl⟩

theorem isEnvelopeOf_makeToolResult {request id : Json} (echoed : id = echoedId request) (jsonText : Text)
    (isError : Bool) (elapsedMs : UInt32) : IsEnvelopeOf request (makeToolResult id jsonText isError elapsedMs) :=
  ⟨_, _, by rw [makeToolResult, echoed], Or.inl rfl⟩

/-- An id that passed its check is the one echoed. -/
theorem echoedId_of_echoable {request : Json}
    (echoable : ((request.member? (ofString "id")).map isEchoableId).getD true = true) :
    (request.member? (ofString "id")).getD .null = echoedId request := by
  rw [echoedId]
  generalize request.member? (ofString "id") = id at echoable ⊢
  rcases id with _ | id
  · rfl
  · cases id <;> first | rfl | cases echoable

/-- Without a string or a number as id, null is echoed. -/
theorem echoedId_of_not_echoable {request : Json}
    (refused : ((request.member? (ofString "id")).map isEchoableId).getD true = false) :
    Json.null = echoedId request := by
  rw [echoedId]
  generalize request.member? (ofString "id") = id at refused ⊢
  rcases id with _ | id
  · rfl
  · cases id <;> first | rfl | cases refused

theorem isEnvelopeOf_callTool {request id : Json} (echoed : id = echoedId request) (args : Json) (name : Text)
    (db : NavDatabase) : IsEnvelopeOf request (dispatcher.callTool id args name db) := by
  rw [Dispatcher.callTool]
  split
  · exact isEnvelopeOf_makeToolResult echoed _ _ _
  · exact isEnvelopeOf_makeError echoed _ _

theorem isEnvelopeOf_serve {request id : Json} (echoed : id = echoedId request) (args : Json) (name : Text)
    (cycle : Option UInt32) : IsEnvelopeOf request (dispatcher.serve id args name cycle) := by
  rw [Dispatcher.serve]
  split
  · exact isEnvelopeOf_makeToolResult echoed _ _ _
  · exact isEnvelopeOf_callTool echoed _ _ _

/-- A tool call answers under the id it was given. -/
theorem isEnvelopeOf_handleToolsCall {request id : Json} (echoed : id = echoedId request) (params : Json) :
    IsEnvelopeOf request (dispatcher.handleToolsCall id params) := by
  rw [Dispatcher.handleToolsCall]
  split
  · exact isEnvelopeOf_makeError echoed _ _
  · split_ifs
    · exact isEnvelopeOf_makeToolResult echoed _ _ _
    · simp only
      split
      · exact isEnvelopeOf_serve echoed _ _ _
      · split
        · exact isEnvelopeOf_makeToolResult echoed _ _ _
        · exact isEnvelopeOf_serve echoed _ _ _

/-- A method answers a request under its id, and a notification not at all, but
in a batch `initialize` is refused either way. -/
theorem runMethod_cases (dispatcher : Dispatcher NavDatabase) {request : Json} {id : Option Json} (echoed : id.getD .null = echoedId request)
    (method : Text) (inBatch : Bool) :
    (id = none ∧ (inBatch = false ∨ method ≠ ofString "initialize") ∧
        dispatcher.runMethod request id method inBatch = none) ∨
      (id = none -> method = ofString "initialize") ∧
        exists reply, dispatcher.runMethod request id method inBatch = some reply ∧ IsEnvelopeOf request reply ∧
          (inBatch = true -> method = ofString "initialize" -> IsRefusal reply) := by
  rw [Dispatcher.runMethod]
  by_cases handshake : method = ofString "initialize"
  · rw [if_pos handshake]
    rcases inBatch with _ | _
    · rcases id with _ | id
      · exact Or.inl ⟨rfl, Or.inl rfl, rfl⟩
      · exact Or.inr ⟨fun _ => handshake, _, rfl, isEnvelopeOf_makeResult echoed _, fun inBatch =>
          absurd inBatch (by decide)⟩
    · exact Or.inr ⟨fun _ => handshake, _, rfl, isEnvelopeOf_makeError echoed _ _, fun _ _ => ⟨_, _, rfl⟩⟩
  · rw [if_neg handshake]
    rcases id with _ | id
    · refine Or.inl ⟨rfl, Or.inr handshake, ?_⟩
      split_ifs <;> rfl
    · refine Or.inr ⟨fun absent => absurd absent (Option.some_ne_none id), ?_⟩
      have notRefused : forall reply : Json, inBatch = true -> method = ofString "initialize" -> IsRefusal reply :=
        fun _ _ isInitialize => absurd isInitialize handshake
      split_ifs
      · exact ⟨_, rfl, isEnvelopeOf_makeResult echoed _, notRefused _⟩
      · exact ⟨_, rfl, isEnvelopeOf_makeResult echoed _, notRefused _⟩
      · refine ⟨_, rfl, ?_, notRefused _⟩
        split
        · exact isEnvelopeOf_handleToolsCall echoed _
        · exact isEnvelopeOf_makeError echoed _ _
      · exact ⟨_, rfl, isEnvelopeOf_makeError echoed _ _, notRefused _⟩

/-- An object is silent, or gets an envelope; as an element of a batch it is
silent by design only, and `initialize` is refused. -/
theorem dispatchOne_cases (dispatcher : Dispatcher NavDatabase) {request : Json} (isObject : request.isObject = true) (inBatch : Bool) :
    (dispatcher.dispatchOne request inBatch = none ∧ (inBatch = true -> silentByDesign request = true)) ∨
      exists reply, dispatcher.dispatchOne request inBatch = some reply ∧ IsEnvelopeOf request reply ∧
        (inBatch = true -> silentByDesign request = false ∧
          (request.string? (ofString "method") = some (ofString "initialize") -> IsRefusal reply)) := by
  rw [Dispatcher.dispatchOne, isObject, Bool.not_true, if_neg (by decide)]
  simp only [silentByDesign, isObject, Bool.true_and]
  by_cases refused : ((request.member? (ofString "id")).map isEchoableId).getD true = false
  · rw [if_pos refused]
    refine Or.inr ⟨_, rfl, isEnvelopeOf_makeError (echoedId_of_not_echoable refused) _ _, fun _ => ⟨?_, fun _ =>
      ⟨_, _, rfl⟩⟩⟩
    have present : (request.member? (ofString "id")).isNone = false := by
      generalize request.member? (ofString "id") = id at refused ⊢
      cases id
      · cases refused
      · rfl
    rw [present, Bool.false_and, Bool.false_and]
  · have echoed := echoedId_of_echoable (Bool.not_eq_false _ ▸ refused)
    rw [if_neg refused]
    by_cases version : request.string? (ofString "jsonrpc") = some JsonRpc.kVersion
    · rw [if_neg (not_not.mpr version), decide_eq_true version, Bool.and_true]
      rcases named : request.string? (ofString "method") with _ | method
      · rcases present : request.member? (ofString "id") with _ | id
        · exact Or.inl ⟨rfl, fun _ => rfl⟩
        · rw [present] at echoed
          refine Or.inr ⟨_, rfl, isEnvelopeOf_makeError echoed _ _, fun _ => ⟨rfl, fun same => ?_⟩⟩
          cases same
      · rcases runMethod_cases dispatcher echoed method inBatch with
          ⟨absent, either, silent⟩ | ⟨handshake, reply, replied, isEnvelope, refusal⟩
        · refine Or.inl ⟨silent, fun isBatch => ?_⟩
          rcases either with single | other
          · rw [isBatch] at single
            cases single
          · rw [absent, Option.isNone_none, Bool.true_and, decide_eq_true_iff]
            exact fun same => other (Option.some.inj same)
        · refine Or.inr ⟨reply, replied, isEnvelope, fun isBatch => ⟨?_, fun same =>
            refusal isBatch (Option.some.inj same)⟩⟩
          rcases present : request.member? (ofString "id") with _ | id
          · rw [handshake present, Option.isNone_none, Bool.true_and, decide_eq_false_iff_not]
            exact fun other => other rfl
          · rfl
    · rw [if_pos version]
      refine Or.inr ⟨_, rfl, isEnvelopeOf_makeError echoed _ _, fun _ => ⟨?_, fun _ => ⟨_, _, rfl⟩⟩⟩
      rw [decide_eq_false version, Bool.and_false, Bool.false_and]

end One

/-! ## Batches -/

section Batch

variable {NavDatabase : Type} (dispatcher : Dispatcher NavDatabase)

/-- An element is silent by design, or gets one envelope. -/
theorem dispatchElement_cases (element : Json) :
    (dispatcher.dispatchElement element = none ∧ silentByDesign element = true) ∨
      exists reply, dispatcher.dispatchElement element = some reply ∧ IsReplyTo element reply ∧
        silentByDesign element = false := by
  rw [Dispatcher.dispatchElement]
  by_cases isObject : element.isObject = true
  · rw [isObject, Bool.not_true, if_neg (by decide)]
    rcases dispatchOne_cases dispatcher isObject true with ⟨none, silent⟩ | ⟨reply, replied, envelope, more⟩
    · exact Or.inl ⟨none, silent rfl⟩
    · exact Or.inr ⟨reply, replied, ⟨envelope, (more rfl).2⟩, (more rfl).1⟩
  · rw [Bool.not_eq_true] at isObject
    rw [isObject, Bool.not_false, if_pos rfl]
    refine Or.inr ⟨_, rfl, ⟨isEnvelopeOf_makeError ?_ _ _, fun _ => ⟨_, _, rfl⟩⟩, ?_⟩
    · cases element <;> first | rfl | cases isObject
    · rw [silentByDesign, isObject, Bool.false_and, Bool.false_and, Bool.false_and]

/-- The envelopes of a batch are those of its elements that are not silent. -/
theorem forall₂_filterMap_dispatchElement (elements : List Json) :
    List.Forall₂ IsReplyTo (elements.filter fun element => !silentByDesign element)
      (elements.filterMap dispatcher.dispatchElement) := by
  induction elements with
  | nil => exact List.Forall₂.nil
  | cons element rest inductionHypothesis =>
      rw [List.filter_cons, List.filterMap_cons]
      rcases dispatchElement_cases dispatcher element with ⟨none, silent⟩ | ⟨reply, replied, isReply, answered⟩
      · rw [none, silent]
        exact inductionHypothesis
      · rw [replied, answered]
        exact List.Forall₂.cons isReply inductionHypothesis

/-- Only `initialize` is dispatched otherwise in a batch. -/
theorem dispatchOne_inBatch {request : Json}
    (other : request.string? (ofString "method") ≠ some (ofString "initialize")) :
    dispatcher.dispatchOne request true = dispatcher.dispatchOne request false := by
  rw [Dispatcher.dispatchOne, Dispatcher.dispatchOne]
  rcases named : request.string? (ofString "method") with _ | method
  · rfl
  · have notHandshake : method ≠ ofString "initialize" := fun same => other (named.trans (congrArg some same))
    simp only [Dispatcher.runMethod, if_neg notHandshake]

/-- The envelope of an object alone in a batch. -/
theorem dispatch_singleton (splices : dispatcher.writer.SplicesArrays) {request : Json}
    (isObject : request.isObject = true) :
    dispatcher.dispatch (.array [request]) =
      (dispatcher.dispatchOne request true).map fun reply => [91] ++ dispatcher.writer.write reply ++ [93] := by
  have element : dispatcher.dispatchElement request = dispatcher.dispatchOne request true := by
    rw [Dispatcher.dispatchElement, isObject, Bool.not_true, if_neg (by decide)]
  rw [Dispatcher.dispatch, Dispatcher.dispatchBatch, List.isEmpty_cons, if_neg (by decide),
    List.length_singleton, if_neg (show ¬ kMaxBatchSize < 1 by decide), List.filterMap_cons, element]
  rcases dispatcher.dispatchOne request true with _ | reply
  · rfl
  · exact congrArg some (splices.singleton (dispatcher.writer.write reply))

/-- Replies correspond to requests. -/
theorem repliesCorrespond (splices : dispatcher.writer.SplicesArrays) :
    RepliesCorrespond dispatcher silentByDesign where
  batch elements nonempty within := by
    refine ⟨_, forall₂_filterMap_dispatchElement dispatcher elements, ?_⟩
    have notEmpty : elements.isEmpty = false := List.isEmpty_eq_false_iff.mpr nonempty
    rw [Dispatcher.dispatch, Dispatcher.dispatchBatch, notEmpty, if_neg (by decide), if_neg (Nat.not_lt.mpr within)]
    simp only [List.isEmpty_iff]
  empty := ⟨_, rfl⟩
  oversized elements above := by
    have notEmpty : elements.isEmpty = false :=
      List.isEmpty_eq_false_iff.mpr (List.ne_nil_of_length_pos ((Nat.zero_le _).trans_lt above))
    rw [Dispatcher.dispatch, Dispatcher.dispatchBatch, notEmpty, if_neg (by decide), if_pos above]
    exact ⟨_, rfl⟩
  single request notBatch := by
    have one : dispatcher.dispatch request = (dispatcher.dispatchOne request false).map dispatcher.writer.write := by
      cases request <;> first | rfl | exact absurd rfl (notBatch _)
    rw [one]
    by_cases isObject : request.isObject = true
    · rcases dispatchOne_cases dispatcher isObject false with ⟨none, _⟩ | ⟨reply, replied, envelope, _⟩
      · exact Or.inl (by rw [none]; rfl)
      · exact Or.inr ⟨reply, envelope, by rw [replied]; rfl⟩
    · rw [Bool.not_eq_true] at isObject
      exact Or.inl (by rw [Dispatcher.dispatchOne, isObject]; rfl)
  alone request isObject other := by
    have one : dispatcher.dispatch request = (dispatcher.dispatchOne request false).map dispatcher.writer.write := by
      cases request <;> first | rfl | cases isObject
    rw [dispatch_singleton dispatcher splices isObject, dispatchOne_inBatch dispatcher other, one, Option.map_map]
    rfl

end Batch

/-- A dispatcher without cycles and tools. -/
def bareDispatcher : Dispatcher Unit :=
  ⟨[], ⟨[], List.Pairwise.nil⟩, fun _ => .error ⟨.kInvalidArgument, []⟩, [], plainWriter⟩

/-- Replies correspond to requests under a writer without blanks. -/
theorem repliesCorrespond_bare : RepliesCorrespond bareDispatcher silentByDesign :=
  repliesCorrespond bareDispatcher splicesArrays_plainWriter

/-- An object with nothing in it is answered. -/
theorem not_repliesCorrespond_asNotification : ¬ RepliesCorrespond bareDispatcher silentAsNotification := by
  intro corresponds
  rcases corresponds.batch [.object []] (List.cons_ne_nil _ _) (by decide) with ⟨replies, each, body⟩
  have silent : [Json.object []].filter (fun element => !silentAsNotification element) = [] := rfl
  rw [silent] at each
  cases each
  have answered : (bareDispatcher.dispatch (.array [.object []])).isSome = true := by decide +kernel
  rw [body] at answered
  cases answered

end Mcp
end BravoFinder
