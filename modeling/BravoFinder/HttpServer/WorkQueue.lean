import BravoFinder.HttpServer.Connection
import BravoFinder.HttpServer.Origin
import BravoFinder.Library.Runs
import Mathlib.Data.List.Perm.Basic

namespace BravoFinder

/-!
# Work off the loop thread

A handler answers a request on the loop thread, or queues work for it and counts
the work in flight.  The threadpool finishes queued work in any order, between
any two requests, and the completion callback answers on the loop thread again.
-/

/-- The most work in flight before requests are shed. -/
def kMaxInflightWork : Int := 256

def kStatusOk : Int := 200
def kStatusAccepted : Int := 202
def kStatusForbidden : Int := 403
def kStatusNotFound : Int := 404
def kStatusMethodNotAllowed : Int := 405
def kStatusInternalServerError : Int := 500
def kStatusServiceUnavailable : Int := 503

/-- A request as it is handed over, with what a stale view reads while it is
handled. -/
structure HandedRequest extends HttpRequest where
  stale : StaleRead

/-- What `Handle` does with a request.  The closure of queued work is known by
its result, or by nothing when it throws. -/
inductive Handled where
  | reply (answer : Answer)
  | queueWork (work : Option WorkResult)

/-- `OnWork`. -/
def onWork : Option WorkResult -> WorkResult
  | some result => result
  | none => ⟨kStatusInternalServerError, jsonError (ofString "internal error"), 0, [], []⟩

/-- `WriteResponse` with its defaults, for a request. -/
def respond (req : HandedRequest) (status : Int) (body : Text) : Handled :=
  .reply (.respond status body req.keepAlive applicationJson [] 0)

/-- The path a request is matched by: one slash at its end is dropped. -/
def matchedPath (path : Text) : Text :=
  if 1 < path.length && path.getLast? == some 47 then path.dropLast else path

/-- The answer of a server that has no room. -/
def serverBusy (keepAlive : Bool) : Answer :=
  .respond kStatusServiceUnavailable (jsonError (ofString "server busy")) keepAlive applicationJson [] 0

/-- `WorkRequest`, with the number of its request. -/
structure WorkRequest where
  request : Nat
  work : Option WorkResult
  keepAlive : Bool

/-- How a request was answered. -/
inductive Outcome where
  /-- By its handler, which read the counter. -/
  | replied (inflight : Int) (answer : Answer)
  /-- By `QueueWork`, when `uv_queue_work` failed. -/
  | refused (keepAlive : Bool)
  /-- By `OnAfterWork`. -/
  | finished (status : Int) (keepAlive : Bool) (result : WorkResult)

/-- What the connection is given. -/
def Outcome.answer : Outcome -> Answer
  | .replied _ answer => answer
  | .refused keepAlive => serverBusy keepAlive
  | .finished status keepAlive result => .afterWork status keepAlive result

/-- There was no room for a request: the counter was at its bound, or libuv took
no work or gave it up. -/
def Outcome.TurnedAway (req : HandedRequest) : Outcome -> Prop
  | .replied inflight answer => kMaxInflightWork ≤ inflight ∧ answer = serverBusy req.keepAlive
  | .refused _ => True
  | .finished status _ _ => status ≠ 0

/-- A handler at work: its counter, the queued work, the requests it was handed
and their outcomes by number. -/
structure WorkQueue where
  inflight : Int
  pending : List WorkRequest
  requests : List HandedRequest
  outcomes : List (Nat × Outcome)

inductive QueueEvent where
  /-- A request is handed to the handler; whether `uv_queue_work` would succeed. -/
  | handle (req : HandedRequest) (queues : Bool)
  /-- One of the queued items completes. -/
  | afterWork (index : Nat) (status : Int)

namespace WorkQueue

def fresh : WorkQueue := ⟨0, [], [], []⟩

/-- `QueueWork`, which counts before it queues. -/
def queueWork (queue : WorkQueue) (number : Nat) (req : HandedRequest) (work : Option WorkResult) (queues : Bool) :
    WorkQueue :=
  let counted := { queue with inflight := queue.inflight + 1 }
  if queues then { counted with pending := counted.pending ++ [⟨number, work, req.keepAlive⟩] }
  else
    { counted with
      inflight := counted.inflight - 1
      outcomes := counted.outcomes ++ [(number, .refused req.keepAlive)] }

/-- One callback on the loop thread; `none` for an item that is not queued. -/
def step (handle : Int -> HandedRequest -> Handled) (queue : WorkQueue) : QueueEvent -> Option WorkQueue
  | .handle req queues =>
      let number := queue.requests.length
      let handed := { queue with requests := queue.requests ++ [req] }
      match handle queue.inflight req with
      | .reply answer =>
          some { handed with outcomes := handed.outcomes ++ [(number, .replied queue.inflight answer)] }
      | .queueWork work => some (handed.queueWork number req work queues)
  | .afterWork index status =>
      queue.pending[index]?.map fun item =>
        { queue with
          inflight := queue.inflight - 1
          pending := queue.pending.eraseIdx index
          outcomes := queue.outcomes ++ [(item.request, .finished status item.keepAlive (onWork item.work))] }

end WorkQueue

/-! ## What holds in every run -/

/-- A handler that reads the counter only to turn requests away. -/
structure Sheds (handle : Int -> HandedRequest -> Handled) : Prop where
  /-- With the counter at its bound nothing is queued. -/
  full : forall inflight req work, kMaxInflightWork ≤ inflight -> handle inflight req ≠ .queueWork work
  /-- The counter changes no answer but to the busy one. -/
  either : forall inflight req, handle inflight req = handle 0 req ∨
    kMaxInflightWork ≤ inflight ∧ handle inflight req = .reply (serverBusy req.keepAlive)

/-- What a request alone decides about its outcome. -/
def Decided (handle : Int -> HandedRequest -> Handled) (req : HandedRequest) : Outcome -> Prop
  | .replied inflight answer =>
      handle inflight req = .reply answer ∧
        (handle 0 req = .reply answer ∨ kMaxInflightWork ≤ inflight ∧ answer = serverBusy req.keepAlive)
  | .refused keepAlive => keepAlive = req.keepAlive ∧ exists work, handle 0 req = .queueWork work
  | .finished _ keepAlive result =>
      keepAlive = req.keepAlive ∧ exists work, handle 0 req = .queueWork work ∧ result = onWork work

/-- The account of a handler at work. -/
structure Accounted (handle : Int -> HandedRequest -> Handled) (queue : WorkQueue) : Prop where
  counted : queue.inflight = queue.pending.length
  bounded : queue.inflight ≤ kMaxInflightWork
  /-- Each request waits, or has one outcome. -/
  once : (queue.pending.map WorkRequest.request ++ queue.outcomes.map Prod.fst).Perm
    (List.range queue.requests.length)
  waiting : forall item, item ∈ queue.pending -> exists req, queue.requests[item.request]? = some req ∧
    item.keepAlive = req.keepAlive ∧ handle 0 req = .queueWork item.work
  decided : forall entry, entry ∈ queue.outcomes -> exists req, queue.requests[entry.1]? = some req ∧
    Decided handle req entry.2

section Accounting

variable {handle : Int -> HandedRequest -> Handled}

theorem Sheds.queued (sheds : Sheds handle) {inflight : Int} {req : HandedRequest} {work : Option WorkResult}
    (queued : handle inflight req = .queueWork work) :
    inflight < kMaxInflightWork ∧ handle 0 req = .queueWork work := by
  constructor
  · by_contra full
    exact sheds.full inflight req work (by omega) queued
  · rcases sheds.either inflight req with same | ⟨_, busy⟩
    · rw [← same]
      exact queued
    · rw [busy] at queued
      cases queued

theorem Sheds.replied (sheds : Sheds handle) {inflight : Int} {req : HandedRequest} {answer : Answer}
    (replied : handle inflight req = .reply answer) : Decided handle req (.replied inflight answer) := by
  refine ⟨replied, ?_⟩
  rcases sheds.either inflight req with same | ⟨full, busy⟩
  · exact Or.inl (same ▸ replied)
  · rw [busy] at replied
    cases replied
    exact Or.inr ⟨full, rfl⟩

theorem accounted_fresh : Accounted handle WorkQueue.fresh where
  counted := rfl
  bounded := by decide
  once := List.Perm.nil
  waiting _ member := by cases member
  decided _ member := by cases member

namespace Accounted

variable {queue after : WorkQueue}

/-- What is known of a request stays known when another is handed over. -/
theorem later {P : HandedRequest -> Prop} {number : Nat} (req : HandedRequest)
    (known : exists earlier, queue.requests[number]? = some earlier ∧ P earlier) :
    exists earlier, (queue.requests ++ [req])[number]? = some earlier ∧ P earlier := by
  rcases known with ⟨earlier, found, holds⟩
  refine ⟨earlier, ?_, holds⟩
  rw [List.getElem?_append_left (List.getElem?_eq_some_iff.mp found).1]
  exact found

/-- A request that is answered where it is handed over. -/
theorem answered (account : Accounted handle queue) {req : HandedRequest} {outcome : Outcome}
    (decision : Decided handle req outcome) :
    Accounted handle
      { queue with
        requests := queue.requests ++ [req]
        outcomes := queue.outcomes ++ [(queue.requests.length, outcome)] } where
  counted := account.counted
  bounded := account.bounded
  once := by
    rw [List.map_append, List.length_append, List.length_singleton, List.range_succ, ← List.append_assoc]
    exact account.once.append_right _
  waiting item member := later req (account.waiting item member)
  decided entry member := by
    rcases List.mem_append.mp member with old | new
    · exact later req (account.decided entry old)
    · rw [List.mem_singleton.mp new]
      exact ⟨req, List.getElem?_concat_length, decision⟩

/-- A request that is queued. -/
theorem queued (account : Accounted handle queue) {req : HandedRequest} {work : Option WorkResult}
    (room : queue.inflight < kMaxInflightWork) (offloads : handle 0 req = .queueWork work) :
    Accounted handle
      { queue with
        inflight := queue.inflight + 1
        pending := queue.pending ++ [⟨queue.requests.length, work, req.keepAlive⟩]
        requests := queue.requests ++ [req] } where
  counted := by
    rw [List.length_append, List.length_singleton, account.counted]
    rfl
  bounded := room
  once := by
    rw [List.map_append, List.length_append, List.length_singleton, List.range_succ, List.append_assoc]
    apply (List.perm_append_comm.append_left _).trans
    rw [← List.append_assoc]
    exact account.once.append_right _
  waiting item member := by
    rcases List.mem_append.mp member with old | new
    · exact later req (account.waiting item old)
    · rw [List.mem_singleton.mp new]
      exact ⟨req, List.getElem?_concat_length, rfl, offloads⟩
  decided entry member := later req (account.decided entry member)

/-- Queued work that completes. -/
theorem finished (account : Accounted handle queue) {index : Nat} {item : WorkRequest}
    (here : queue.pending[index]? = some item) (status : Int) :
    Accounted handle
      { queue with
        inflight := queue.inflight - 1
        pending := queue.pending.eraseIdx index
        outcomes := queue.outcomes ++ [(item.request, .finished status item.keepAlive (onWork item.work))] } := by
  rcases List.getElem?_eq_some_iff.mp here with ⟨inside, rfl⟩
  have shorter := List.length_eraseIdx_of_lt inside
  have taken := List.getElem_cons_eraseIdx_perm inside
  refine ⟨?_, ?_, ?_, ?_, ?_⟩
  · have counted := account.counted
    simp only
    omega
  · have bounded := account.bounded
    simp only
    omega
  · rw [List.map_append, ← List.append_assoc, List.map_singleton]
    refine List.Perm.trans ?_ account.once
    apply List.perm_append_comm.trans
    rw [← List.append_assoc, List.singleton_append]
    apply List.Perm.append_right
    exact taken.map WorkRequest.request
  · intro other member
    exact account.waiting other (List.mem_of_mem_eraseIdx member)
  · intro entry member
    rcases List.mem_append.mp member with old | new
    · exact account.decided entry old
    · rw [List.mem_singleton.mp new]
      rcases account.waiting _ (List.getElem_mem inside) with ⟨req, found, kept, offloads⟩
      exact ⟨req, found, kept, _, offloads, rfl⟩

/-- One callback keeps the account. -/
theorem step (sheds : Sheds handle) (account : Accounted handle queue) {event : QueueEvent}
    (stepped : queue.step handle event = some after) : Accounted handle after := by
  cases event with
  | handle req queues =>
      rw [WorkQueue.step] at stepped
      simp only at stepped
      cases handled : handle queue.inflight req with
      | reply answer =>
          rw [handled] at stepped
          cases stepped
          exact account.answered (sheds.replied handled)
      | queueWork work =>
          rw [handled] at stepped
          rcases sheds.queued handled with ⟨room, offloads⟩
          cases queues with
          | true =>
              cases stepped
              exact account.queued room offloads
          | false =>
              cases stepped
              rw [WorkQueue.queueWork, if_neg Bool.false_ne_true]
              simp only [Int.add_sub_cancel]
              exact account.answered ⟨rfl, work, offloads⟩
  | afterWork index status =>
      rcases Option.map_eq_some_iff.mp stepped with ⟨item, here, rfl⟩
      exact account.finished here status

/-- In every run each request is answered once, by what it asks alone. -/
theorem runs (sheds : Sheds handle) {events : List QueueEvent}
    (ran : runs (WorkQueue.step handle) WorkQueue.fresh events = some after) : Accounted handle after :=
  runs_invariant (Accounted handle) (fun account stepped => account.step sheds stepped) accounted_fresh ran

end Accounted
end Accounting
end BravoFinder
