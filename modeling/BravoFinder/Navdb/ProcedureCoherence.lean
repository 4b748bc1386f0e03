import BravoFinder.Cache.CifpFetch
import BravoFinder.Navdb.ProceduresFor

namespace BravoFinder

/-!
# The procedure cache is coherent

An entry is only ever made by an insertion, and an insertion leaves the entries
that are there alone.  So every call for an airport that succeeds gives the
pointer of the one entry, and its data is what some read of that airport gave.
-/

namespace ProcedureDatabase

variable {start db after final : ProcedureDatabase} {event : ProcedureEvent} {events : List ProcedureEvent}

/-! ## What one event does -/

/-- The insertion of a call. -/
def inserted (db : ProcedureDatabase) (call : Nat) (icao : Text) (stored : Option CifpData)
    (address : CifpAddress) : ProcedureDatabase :=
  (db.tryEmplace icao stored address).setCall call
    (.returned icao (.ok (((db.tryEmplace icao stored address).procedureCache icao).getD none)))

inductive Stepped (db : ProcedureDatabase) : ProcedureEvent -> ProcedureDatabase -> Prop
  | entered (call : Nat) (icao : Text) (before : db.calls call = .idle) :
      Stepped db (.proceduresFor call icao) (db.setCall call (db.enter icao))
  | hit (call : Nat) (icao : Text) (pointer : Option CifpAddress) (before : db.calls call = .entering icao)
      (cached : db.procedureCache icao = some pointer) :
      Stepped db (.lookup call) (db.setCall call (.returned icao (.ok pointer)))
  | missed (call : Nat) (icao : Text) (before : db.calls call = .entering icao)
      (missing : db.procedureCache icao = none) :
      Stepped db (.lookup call) (db.setCall call (.fetching icao))
  | failed (call : Nat) (icao : Text) (failure : Option Error) (loaded : Option CifpData) (error : Error)
      (before : db.calls call = .fetching icao) (outcome : db.fetchOutcome icao failure loaded = .error error) :
      Stepped db (.fetchReturns call failure loaded) (db.setCall call (.returned icao (.error error)))
  | read (call : Nat) (icao : Text) (failure : Option Error) (loaded stored : Option CifpData)
      (before : db.calls call = .fetching icao) (outcome : db.fetchOutcome icao failure loaded = .ok stored) :
      Stepped db (.fetchReturns call failure loaded) (db.setCall call (.fetched icao stored))
  | stored (call : Nat) (icao : Text) (stored : Option CifpData) (address : CifpAddress)
      (before : db.calls call = .fetched icao stored) (free : db.owned address = none) :
      Stepped db (.insert call address) (db.inserted call icao stored address)

theorem stepped_of_step (taken : db.step event = some after) : Stepped db event after := by
  cases event with
  | proceduresFor call icao =>
      simp only [step] at taken
      split at taken
      case h_2 => cases taken
      case h_1 before =>
        cases taken
        exact .entered call icao before
  | lookup call =>
      simp only [step] at taken
      split at taken
      case h_2 => cases taken
      case h_1 icao before =>
        split at taken
        case h_1 pointer cached =>
          cases taken
          exact .hit call icao pointer before cached
        case h_2 missing =>
          cases taken
          exact .missed call icao before missing
  | fetchReturns call failure loaded =>
      simp only [step] at taken
      split at taken
      case h_2 => cases taken
      case h_1 icao before =>
        split at taken
        case h_1 error outcome =>
          cases taken
          exact .failed call icao failure loaded error before outcome
        case h_2 stored outcome =>
          cases taken
          exact .read call icao failure loaded stored before outcome
  | insert call address =>
      simp only [step] at taken
      split at taken
      case h_2 => cases taken
      case h_1 icao stored before =>
        split at taken
        · cases taken
        · rename_i free
          cases taken
          exact .stored call icao stored address before (by simpa using free)

@[simp] theorem calls_setCall_self (db : ProcedureDatabase) (call : Nat) (stands : ProcedureCall) :
    (db.setCall call stands).calls call = stands := Function.update_self _ _ _

theorem calls_setCall (db : ProcedureDatabase) (call other : Nat) (stands : ProcedureCall) :
    (db.setCall call stands).calls other = if other = call then stands else db.calls other :=
  Function.update_apply _ _ _ _

@[simp] theorem procedureCache_setCall (db : ProcedureDatabase) (call : Nat) (stands : ProcedureCall) :
    (db.setCall call stands).procedureCache = db.procedureCache := rfl

@[simp] theorem contents_setCall (db : ProcedureDatabase) (call : Nat) (stands : ProcedureCall)
    (pointer : Option CifpAddress) : (db.setCall call stands).contents pointer = db.contents pointer := rfl

@[simp] theorem isAirport_setCall (db : ProcedureDatabase) (call : Nat) (stands : ProcedureCall) (icao : Text) :
    (db.setCall call stands).isAirport icao = db.isAirport icao := rfl

/-! ## The immutable part -/

/-- What no event changes. -/
structure SameDatabase (first second : ProcedureDatabase) : Prop where
  vertexByAirport : second.vertexByAirport = first.vertexByAirport
  source : second.source = first.source
  cifpEager : second.cifpEager = first.cifpEager

namespace SameDatabase

theorem refl (db : ProcedureDatabase) : SameDatabase db db := ⟨rfl, rfl, rfl⟩

theorem trans {first second third : ProcedureDatabase} (one : SameDatabase first second)
    (two : SameDatabase second third) : SameDatabase first third :=
  ⟨two.vertexByAirport.trans one.vertexByAirport, two.source.trans one.source, two.cifpEager.trans one.cifpEager⟩

theorem isAirport (same : SameDatabase db after) (icao : Text) : after.isAirport icao = db.isAirport icao := by
  unfold ProcedureDatabase.isAirport
  rw [same.vertexByAirport]

theorem fetchOutcome (same : SameDatabase db after) (icao : Text) (failure : Option Error)
    (loaded : Option CifpData) : after.fetchOutcome icao failure loaded = db.fetchOutcome icao failure loaded := by
  unfold ProcedureDatabase.fetchOutcome
  rw [same.source]

theorem tryEmplace (db : ProcedureDatabase) (icao : Text) (stored : Option CifpData) (address : CifpAddress) :
    SameDatabase db (db.tryEmplace icao stored address) := by
  unfold ProcedureDatabase.tryEmplace
  split
  · exact refl db
  · exact ⟨rfl, rfl, rfl⟩

theorem step (stepped : Stepped db event after) : SameDatabase db after := by
  cases stepped with
  | stored call icao stored address before free =>
      have same := tryEmplace db icao stored address
      exact ⟨same.vertexByAirport, same.source, same.cifpEager⟩
  | _ => exact ⟨rfl, rfl, rfl⟩

end SameDatabase

/-! ## Insertion -/

/-- Entries stay, with what they point at. -/
structure Keeps (before after : ProcedureDatabase) : Prop where
  entry : forall icao pointer, before.procedureCache icao = some pointer -> after.procedureCache icao = some pointer
  data : forall icao pointer, before.procedureCache icao = some pointer ->
    after.contents pointer = before.contents pointer

namespace Keeps

theorem refl (db : ProcedureDatabase) : Keeps db db := ⟨fun _ _ => id, fun _ _ _ => rfl⟩

theorem trans {first second third : ProcedureDatabase} (one : Keeps first second) (two : Keeps second third) :
    Keeps first third where
  entry := fun icao pointer there => two.entry icao pointer (one.entry icao pointer there)
  data := fun icao pointer there =>
    (two.data icao pointer (one.entry icao pointer there)).trans (one.data icao pointer there)

end Keeps

/-- Pointers of the cache point at data. -/
def Owns (db : ProcedureDatabase) : Prop :=
  forall icao address, db.procedureCache icao = some (some address) -> exists data, db.owned address = some data

/-- What an insertion leaves: the old entry, or a new one that holds what was
stored. -/
structure Emplaced (db after : ProcedureDatabase) (icao : Text) (stored : Option CifpData) : Prop where
  keeps : Keeps db after
  others : forall other pointer, after.procedureCache other = some pointer ->
    db.procedureCache other = some pointer ∨ other = icao ∧ after.contents pointer = stored
  there : exists pointer, after.procedureCache icao = some pointer
  owns : Owns after

variable {icao : Text} {stored : Option CifpData} {address : CifpAddress}

theorem owned_emplaceNew_of_ne {held : CifpAddress} (elsewhere : held ≠ address) :
    (db.emplaceNew icao stored address).owned held = db.owned held := by
  cases stored with
  | none => rfl
  | some data => exact Function.update_of_ne elsewhere _ _

theorem contents_emplaceNew : (db.emplaceNew icao stored address).contents (stored.map fun _ => address) = stored := by
  cases stored with
  | none => rfl
  | some data => exact Function.update_self _ _ _

theorem procedureCache_emplaceNew (other : Text) : (db.emplaceNew icao stored address).procedureCache other =
    if other = icao then some (stored.map fun _ => address) else db.procedureCache other :=
  Function.update_apply _ _ _ _

theorem emplaced_emplaceNew (owns : db.Owns) (free : db.owned address = none)
    (missing : db.procedureCache icao = none) : Emplaced db (db.emplaceNew icao stored address) icao stored := by
  -- A key that was there is another one, and its data lies elsewhere.
  have apart : forall other pointer, db.procedureCache other = some pointer -> other ≠ icao := by
    rintro other pointer there rfl
    cases there.symm.trans missing
  have elsewhere : forall other held, db.procedureCache other = some (some held) -> held ≠ address := by
    rintro other held there rfl
    rcases owns other held there with ⟨data, owned⟩
    cases owned.symm.trans free
  constructor
  case keeps =>
    constructor
    · intro other pointer there
      rw [procedureCache_emplaceNew, if_neg (apart other pointer there)]
      exact there
    · intro other pointer there
      cases pointer with
      | none => rfl
      | some held => exact owned_emplaceNew_of_ne (elsewhere other held there)
  case others =>
    intro other pointer there
    rw [procedureCache_emplaceNew] at there
    split at there
    · rename_i same
      cases there
      exact .inr ⟨same, contents_emplaceNew⟩
    · exact .inl there
  case there => exact ⟨_, Function.update_self _ _ _⟩
  case owns =>
    intro other held there
    rw [procedureCache_emplaceNew] at there
    split at there
    · cases stored with
      | none => cases there
      | some data =>
          cases there
          exact ⟨data, Function.update_self _ _ _⟩
    · rcases owns other held there with ⟨found, owned⟩
      exact ⟨found, (owned_emplaceNew_of_ne (elsewhere other held there)).trans owned⟩

theorem emplaced_tryEmplace (owns : db.Owns) (free : db.owned address = none) :
    Emplaced db (db.tryEmplace icao stored address) icao stored := by
  unfold tryEmplace
  split
  case h_1 pointer cached => exact ⟨Keeps.refl db, fun _ _ => .inl, ⟨pointer, cached⟩, owns⟩
  case h_2 missing => exact emplaced_emplaceNew owns free missing

@[simp] theorem calls_tryEmplace (db : ProcedureDatabase) :
    (db.tryEmplace icao stored address).calls = db.calls := by
  unfold tryEmplace
  split <;> rfl

theorem emplaced_inserted (owns : db.Owns) (free : db.owned address = none) (call : Nat) :
    Emplaced db (db.inserted call icao stored address) icao stored := by
  have emplaced := @emplaced_tryEmplace db icao stored address owns free
  exact ⟨⟨emplaced.keeps.entry, emplaced.keeps.data⟩, emplaced.others, emplaced.there, emplaced.owns⟩

/-! ## What holds of every state -/

structure Invariant (db : ProcedureDatabase) : Prop where
  lazily : db.cifpEager = false
  /-- Only airports are kept. -/
  keys : forall icao pointer, db.procedureCache icao = some pointer -> db.isAirport icao = true
  owns : db.Owns
  known : forall call icao, (db.calls call).asks = some icao -> db.isAirport icao = true
  /-- A call that succeeded gave the entry of the airport. -/
  served : forall call icao pointer, db.calls call = .returned icao (.ok pointer) -> db.isAirport icao = true ->
    db.procedureCache icao = some pointer
  /-- A call for anything else gave nothing. -/
  refused : forall call icao pointer, db.calls call = .returned icao (.ok pointer) -> db.isAirport icao = false ->
    pointer = none

namespace Invariant

/-- A call that moves on without touching the cache. -/
theorem setCall (invariant : db.Invariant) {call : Nat} {stands : ProcedureCall}
    (known : forall icao, stands.asks = some icao -> db.isAirport icao = true)
    (served : forall icao pointer, stands = .returned icao (.ok pointer) -> db.isAirport icao = true ->
      db.procedureCache icao = some pointer)
    (refused : forall icao pointer, stands = .returned icao (.ok pointer) -> db.isAirport icao = false ->
      pointer = none) : (db.setCall call stands).Invariant where
  lazily := invariant.lazily
  keys := invariant.keys
  owns := invariant.owns
  known := by
    intro other icao asks
    rw [calls_setCall] at asks
    split at asks
    · exact known icao asks
    · exact invariant.known other icao asks
  served := by
    intro other icao pointer returned airport
    rw [calls_setCall] at returned
    split at returned
    · exact served icao pointer returned airport
    · exact invariant.served other icao pointer returned airport
  refused := by
    intro other icao pointer returned foreign
    rw [calls_setCall] at returned
    split at returned
    · exact refused icao pointer returned foreign
    · exact invariant.refused other icao pointer returned foreign

theorem tryEmplace (invariant : db.Invariant) (airport : db.isAirport icao = true) (free : db.owned address = none) :
    (db.tryEmplace icao stored address).Invariant := by
  have emplaced := @emplaced_tryEmplace db icao stored address invariant.owns free
  have same := SameDatabase.tryEmplace db icao stored address
  constructor
  case lazily => exact same.cifpEager.trans invariant.lazily
  case keys =>
    intro other pointer there
    rw [same.isAirport]
    rcases emplaced.others other pointer there with old | ⟨rfl, _⟩
    · exact invariant.keys other pointer old
    · exact airport
  case owns => exact emplaced.owns
  case known =>
    intro call other asks
    rw [calls_tryEmplace] at asks
    rw [same.isAirport]
    exact invariant.known call other asks
  case served =>
    intro call other pointer returned isAirport
    rw [calls_tryEmplace] at returned
    rw [same.isAirport] at isAirport
    exact emplaced.keeps.entry other pointer (invariant.served call other pointer returned isAirport)
  case refused =>
    intro call other pointer returned foreign
    rw [calls_tryEmplace] at returned
    rw [same.isAirport] at foreign
    exact invariant.refused call other pointer returned foreign

theorem step (invariant : db.Invariant) (stepped : Stepped db event after) : after.Invariant := by
  cases stepped with
  | entered call icao before =>
      unfold enter
      split
      case isTrue refused =>
        have foreign : db.isAirport icao = false := by simpa using refused
        apply invariant.setCall
        · intro _ asks
          cases asks
        · rintro _ _ ⟨⟩ airport
          cases airport.symm.trans foreign
        · rintro _ _ ⟨⟩ _
          rfl
      case isFalse accepted =>
        have airport : db.isAirport icao = true := by simpa using accepted
        rw [if_neg (by simp [invariant.lazily])]
        apply invariant.setCall
        · rintro _ ⟨⟩
          exact airport
        · rintro _ _ ⟨⟩
        · rintro _ _ ⟨⟩
  | hit call icao pointer before cached =>
      apply invariant.setCall
      · intro _ asks
        cases asks
      · rintro _ _ ⟨⟩ _
        exact cached
      · rintro _ _ ⟨⟩ foreign
        cases (invariant.keys icao pointer cached).symm.trans foreign
  | missed call icao before missing =>
      apply invariant.setCall
      · rintro _ ⟨⟩
        exact invariant.known call icao (by rw [before]; rfl)
      · rintro _ _ ⟨⟩
      · rintro _ _ ⟨⟩
  | failed call icao failure loaded error before outcome =>
      apply invariant.setCall
      · intro _ asks
        cases asks
      · rintro _ _ ⟨⟩
      · rintro _ _ ⟨⟩
  | read call icao failure loaded stored before outcome =>
      apply invariant.setCall
      · rintro _ ⟨⟩
        exact invariant.known call icao (by rw [before]; rfl)
      · rintro _ _ ⟨⟩
      · rintro _ _ ⟨⟩
  | stored call icao stored address before free =>
      have airport : db.isAirport icao = true := invariant.known call icao (by rw [before]; rfl)
      have kept := @tryEmplace db icao stored address invariant airport free
      apply kept.setCall
      · intro _ asks
        cases asks
      · rintro _ pointer ⟨⟩ _
        rcases (emplaced_tryEmplace invariant.owns free).there with ⟨there, cached⟩
        rw [cached]
        rfl
      · rintro _ _ ⟨⟩ foreign
        rw [(SameDatabase.tryEmplace db icao stored address).isAirport] at foreign
        cases airport.symm.trans foreign

end Invariant

/-- One event keeps the entries. -/
theorem keeps_of_stepped (invariant : db.Invariant) (stepped : Stepped db event after) : Keeps db after := by
  cases stepped with
  | stored call icao stored address before free => exact (emplaced_inserted invariant.owns free call).keeps
  | _ => exact ⟨fun _ _ => id, fun _ _ _ => rfl⟩

/-! ## Runs -/

/-- A database opened for loading on demand, before any call. -/
structure OnDemand (db : ProcedureDatabase) : Prop where
  lazily : db.cifpEager = false
  empty : forall icao, db.procedureCache icao = none
  idle : forall call, db.calls call = .idle

theorem onDemand_fresh (vertexByAirport : Text -> Int) (source : ProcedureSource) :
    (fresh vertexByAirport source).OnDemand :=
  ⟨rfl, fun _ => rfl, fun _ => rfl⟩

theorem Invariant.initial (onDemand : db.OnDemand) : db.Invariant where
  lazily := onDemand.lazily
  keys := by
    intro icao pointer there
    cases (onDemand.empty icao).symm.trans there
  owns := by
    intro icao address there
    cases (onDemand.empty icao).symm.trans there
  known := by
    intro call icao asks
    rw [onDemand.idle] at asks
    cases asks
  served := by
    intro call icao pointer returned
    cases (onDemand.idle call).symm.trans returned
  refused := by
    intro call icao pointer returned
    cases (onDemand.idle call).symm.trans returned

theorem Invariant.runs (invariant : start.Invariant)
    (ran : runs ProcedureDatabase.step start events = some final) :
    final.Invariant := by
  apply runs_invariant ProcedureDatabase.Invariant _ invariant ran
  intro db event after held taken
  exact held.step (stepped_of_step taken)

theorem SameDatabase.runs (ran : runs ProcedureDatabase.step start events = some final) : SameDatabase start final := by
  apply runs_relates (fun _ => True) SameDatabase.refl SameDatabase.trans _ trivial ran
  intro db event after _ taken
  exact ⟨trivial, SameDatabase.step (stepped_of_step taken)⟩

theorem Keeps.runs (invariant : start.Invariant) (ran : runs step start events = some final) :
    Keeps start final := by
  apply runs_relates ProcedureDatabase.Invariant Keeps.refl Keeps.trans _ invariant ran
  intro db event after held taken
  have stepped := stepped_of_step taken
  exact ⟨held.step stepped, keeps_of_stepped held stepped⟩

/-! ## Where data and errors come from -/

/-- Within the run, a read for the airport returned the outcome. -/
def FetchReturned (start : ProcedureDatabase) (events : List ProcedureEvent) (icao : Text)
    (outcome : Except Error (Option CifpData)) : Prop :=
  exists past call failure loaded later between,
    events = past ++ .fetchReturns call failure loaded :: later ∧ runs step start past = some between ∧
    between.calls call = .fetching icao ∧ between.fetchOutcome icao failure loaded = outcome

theorem FetchReturned.later {outcome : Except Error (Option CifpData)}
    (returned : FetchReturned start events icao outcome) (event : ProcedureEvent) :
    FetchReturned start (events ++ [event]) icao outcome := by
  rcases returned with ⟨past, call, failure, loaded, later, between, rfl, ran, fetching, same⟩
  refine ⟨past, call, failure, loaded, later ++ [event], between, ?_, ran, fetching, same⟩
  rw [List.append_assoc, List.cons_append]

theorem fetchReturned_last {call : Nat} {failure : Option Error} {loaded : Option CifpData}
    {outcome : Except Error (Option CifpData)} (ran : runs step start events = some db)
    (fetching : db.calls call = .fetching icao) (same : db.fetchOutcome icao failure loaded = outcome) :
    FetchReturned start (events ++ [.fetchReturns call failure loaded]) icao outcome :=
  ⟨events, call, failure, loaded, [], db, rfl, ran, fetching, same⟩

/-- Whatever is kept, is about to be inserted or was returned as an error, some
read returned. -/
structure History (start : ProcedureDatabase) (events : List ProcedureEvent) (db : ProcedureDatabase) : Prop where
  cached : forall icao pointer, db.procedureCache icao = some pointer ->
    FetchReturned start events icao (.ok (db.contents pointer))
  fetched : forall call icao stored, db.calls call = .fetched icao stored ->
    FetchReturned start events icao (.ok stored)
  refused : forall call icao error, db.calls call = .returned icao (.error error) ->
    FetchReturned start events icao (.error error)

namespace History

/-- A call that moves on without touching the cache. -/
theorem setCall (history : History start events db) {call : Nat} {stands : ProcedureCall}
    (fetched : forall icao stored, stands = .fetched icao stored ->
      FetchReturned start (events ++ [event]) icao (.ok stored))
    (refused : forall icao error, stands = .returned icao (.error error) ->
      FetchReturned start (events ++ [event]) icao (.error error)) :
    History start (events ++ [event]) (db.setCall call stands) where
  cached := fun icao pointer there => (history.cached icao pointer there).later event
  fetched := by
    intro other icao stored fetchedNow
    rw [calls_setCall] at fetchedNow
    split at fetchedNow
    · exact fetched icao stored fetchedNow
    · exact (history.fetched other icao stored fetchedNow).later event
  refused := by
    intro other icao error returned
    rw [calls_setCall] at returned
    split at returned
    · exact refused icao error returned
    · exact (history.refused other icao error returned).later event

theorem step (history : History start events db) (invariant : db.Invariant)
    (ran : runs step start events = some db) (stepped : Stepped db event after) :
    History start (events ++ [event]) after := by
  cases stepped with
  | entered call icao before =>
      unfold enter
      split
      case isTrue =>
        apply history.setCall
        · rintro _ _ ⟨⟩
        · rintro _ _ ⟨⟩
      case isFalse =>
        rw [if_neg (by simp [invariant.lazily])]
        apply history.setCall
        · rintro _ _ ⟨⟩
        · rintro _ _ ⟨⟩
  | hit call icao pointer before cached =>
      apply history.setCall
      · rintro _ _ ⟨⟩
      · rintro _ _ ⟨⟩
  | missed call icao before missing =>
      apply history.setCall
      · rintro _ _ ⟨⟩
      · rintro _ _ ⟨⟩
  | failed call icao failure loaded error before outcome =>
      apply history.setCall
      · rintro _ _ ⟨⟩
      · rintro _ _ ⟨⟩
        exact fetchReturned_last ran before outcome
  | read call icao failure loaded stored before outcome =>
      apply history.setCall
      · rintro _ _ ⟨⟩
        exact fetchReturned_last ran before outcome
      · rintro _ _ ⟨⟩
  | stored call icao stored address before free =>
      have emplaced := @emplaced_tryEmplace db icao stored address invariant.owns free
      have emplacedHistory : History start events (db.tryEmplace icao stored address) := by
        constructor
        case cached =>
          intro other pointer there
          rcases emplaced.others other pointer there with old | ⟨rfl, holds⟩
          · rw [emplaced.keeps.data other pointer old]
            exact history.cached other pointer old
          · rw [holds]
            exact history.fetched call other stored before
        case fetched =>
          intro other named data stands
          rw [calls_tryEmplace] at stands
          exact history.fetched other named data stands
        case refused =>
          intro other named error stands
          rw [calls_tryEmplace] at stands
          exact history.refused other named error stands
      apply emplacedHistory.setCall
      · rintro _ _ ⟨⟩
      · rintro _ _ ⟨⟩

theorem runs (onDemand : start.OnDemand) (ran : runs ProcedureDatabase.step start events = some final) :
    History start events final := by
  apply runs_induction (History start) _ _ ran
  · constructor
    · intro icao pointer there
      cases (onDemand.empty icao).symm.trans there
    · intro call icao stored fetched
      cases (onDemand.idle call).symm.trans fetched
    · intro call icao error returned
      cases (onDemand.idle call).symm.trans returned
  · intro past db event after ranPast held taken
    exact held.step ((Invariant.initial onDemand).runs ranPast) ranPast (stepped_of_step taken)

end History

/-! ## Loaded eagerly -/

/-- A call of a database opened eagerly returns where it enters. -/
def eagerResult (db : ProcedureDatabase) (icao : Text) : Option CifpAddress :=
  if db.isAirport icao then (db.procedureCache icao).getD none else none

theorem enter_of_eager (eagerly : db.cifpEager = true) (icao : Text) :
    db.enter icao = .returned icao (.ok (db.eagerResult icao)) := by
  unfold enter eagerResult
  cases db.isAirport icao
  · rfl
  · rw [if_neg (by simp), if_pos eagerly, if_pos rfl]

/-- A database opened eagerly, some calls later. -/
structure Frozen (start db : ProcedureDatabase) : Prop where
  same : SameDatabase start db
  procedureCache : db.procedureCache = start.procedureCache
  owned : db.owned = start.owned
  calls : forall call, db.calls call = .idle ∨
    exists icao, db.calls call = .returned icao (.ok (start.eagerResult icao))

theorem Frozen.step (eagerly : start.cifpEager = true) (frozen : Frozen start db) (stepped : Stepped db event after) :
    Frozen start after := by
  -- No call ever stands between its entry and its return.
  have apart : forall call stands, stands.asks.isSome = true -> db.calls call ≠ stands := by
    rintro call _ asks rfl
    rcases frozen.calls call with idle | ⟨icao, returned⟩
    · rw [idle] at asks
      cases asks
    · rw [returned] at asks
      cases asks
  cases stepped with
  | entered call icao before =>
      have entered : db.enter icao = .returned icao (.ok (start.eagerResult icao)) := by
        rw [enter_of_eager (frozen.same.cifpEager.trans eagerly)]
        unfold eagerResult
        rw [frozen.same.isAirport, frozen.procedureCache]
      constructor
      · exact ⟨frozen.same.vertexByAirport, frozen.same.source, frozen.same.cifpEager⟩
      · exact frozen.procedureCache
      · exact frozen.owned
      · intro other
        rw [calls_setCall]
        split
        · exact .inr ⟨icao, entered⟩
        · exact frozen.calls other
  | hit call icao pointer before cached => exact absurd before (apart call _ rfl)
  | missed call icao before missing => exact absurd before (apart call _ rfl)
  | failed call icao failure loaded error before outcome => exact absurd before (apart call _ rfl)
  | read call icao failure loaded stored before outcome => exact absurd before (apart call _ rfl)
  | stored call icao stored address before free => exact absurd before (apart call _ rfl)

theorem Frozen.runs (eagerly : start.cifpEager = true) (idle : forall call, start.calls call = .idle)
    (ran : runs ProcedureDatabase.step start events = some final) : Frozen start final := by
  apply runs_invariant (Frozen start) _ _ ran
  · intro db event after held taken
    exact held.step eagerly (stepped_of_step taken)
  · exact ⟨SameDatabase.refl start, rfl, rfl, fun call => .inl (idle call)⟩

/-! ## Both ways of opening -/

/-- In every run, a call that succeeds gives the answer. -/
def Serves (db : ProcedureDatabase) (answer : Text -> Option CifpData) : Prop :=
  forall events final, runs step db events = some final -> forall call icao pointer,
    final.calls call = .returned icao (.ok pointer) -> final.contents pointer = answer icao

variable {answer : Text -> Option CifpData}

theorem serves_of_onDemand (onDemand : db.OnDemand)
    (reads : forall icao failure loaded stored, db.isAirport icao = true ->
      db.fetchOutcome icao failure loaded = .ok stored -> stored = answer icao)
    (foreign : forall icao, db.isAirport icao = false -> answer icao = none) : db.Serves answer := by
  intro events final ran call icao pointer returned
  have invariant := (Invariant.initial onDemand).runs ran
  have same := SameDatabase.runs ran
  cases airport : db.isAirport icao with
  | false =>
      rw [invariant.refused call icao pointer returned ((same.isAirport icao).trans airport), foreign icao airport]
      rfl
  | true =>
      have cached := invariant.served call icao pointer returned ((same.isAirport icao).trans airport)
      rcases (History.runs onDemand ran).cached icao pointer cached with
        ⟨past, reader, failure, loaded, later, between, _, ranPast, _, outcome⟩
      rw [(SameDatabase.runs ranPast).fetchOutcome] at outcome
      exact reads icao failure loaded _ airport outcome

theorem serves_of_eager (eagerly : db.cifpEager = true) (idle : forall call, db.calls call = .idle) :
    db.Serves fun icao => db.contents (db.eagerResult icao) := by
  intro events final ran call icao pointer returned
  have frozen := Frozen.runs eagerly idle ran
  have pointee : forall pointer, final.contents pointer = db.contents pointer := by
    intro pointer
    unfold contents
    rw [frozen.owned]
  rcases frozen.calls call with untouched | ⟨asked, entered⟩
  · cases untouched.symm.trans returned
  · cases entered.symm.trans returned
    exact pointee _

theorem contents_eager (vertexByAirport : Text -> Int) (all : List (Text × CifpData)) (icao : Text) :
    (eager vertexByAirport all).contents (((eager vertexByAirport all).procedureCache icao).getD none) =
      all.lookup icao := by
  induction all with
  | nil => rfl
  | cons entry rest inductionHypothesis =>
      simp only [contents, eager] at inductionHypothesis ⊢
      rw [List.findIdx?_cons]
      by_cases named : entry.1 = icao
      · rw [if_pos (beq_iff_eq.mpr named), List.lookup_cons, ← named]
        simp
      · have skipped : (entry.1 == icao) = false := beq_eq_false_iff_ne.mpr named
        have different : (icao == entry.1) = false := beq_eq_false_iff_ne.mpr fun same => named same.symm
        rw [skipped, if_neg Bool.false_ne_true, List.lookup_cons, different, ← inductionHypothesis]
        cases rest.findIdx? fun entry => entry.1 == icao <;> rfl

/-- One file opened in both ways.  It opens eagerly only when the procedures of
every airport can be read. -/
def OpenedBoth (start eagerly : ProcedureDatabase) : Prop :=
  exists indexSort buildIndex bfdbPath opened, openCached indexSort buildIndex bfdbPath opened .kOnDemand = .ok start ∧
    openCached indexSort buildIndex bfdbPath opened .kEager = .ok eagerly

/-- Without procedures both ways give the same database; with them, one reads
from the archive what the other has read from it. -/
theorem OpenedBoth.cases {start eagerly : ProcedureDatabase} (both : OpenedBoth start eagerly) :
    (exists vertexByAirport, start = fresh vertexByAirport .absent ∧ eagerly = fresh vertexByAirport .absent) ∨
    exists vertexByAirport archive all, start = fresh vertexByAirport (.archive archive) ∧
      eagerly = eager vertexByAirport all ∧ archive.Sorted ∧ archive.fetchAll = .ok all := by
  rcases both with ⟨indexSort, buildIndex, bfdbPath, opened, lazily, eagerly⟩
  unfold openCached at lazily eagerly
  split at lazily
  · cases lazily
  rename_i unified unifiedOpened
  rw [unifiedOpened] at eagerly
  dsimp only at eagerly lazily
  split at lazily
  · rename_i absent
    rw [absent] at eagerly
    cases lazily
    cases eagerly
    exact .inl ⟨buildIndex unified.graph, rfl, rfl⟩
  · rename_i archive there
    rw [there] at eagerly
    dsimp only at eagerly
    cases lazily
    split at eagerly
    · cases eagerly
    · rename_i all fetched
      cases eagerly
      exact .inr ⟨buildIndex unified.graph, archive, all, rfl, rfl, UnifiedCache.sorted_of_openFile unifiedOpened there,
        fetched⟩

section Archive

variable {archive : CifpArchive} {all : List (Text × CifpData)}

/-- An archive whose airports can all be read fails only where the read itself
fails. -/
theorem fetchOutcome_archive (sorted : archive.Sorted) (fetched : archive.fetchAll = .ok all)
    (source : db.source = .archive archive) (airport : db.isAirport icao = true) (failure : Option Error)
    (loaded : Option CifpData) : db.fetchOutcome icao failure loaded =
      match failure with
      | some error => .error error
      | none => .ok (all.lookup icao) := by
  have named : (FixedName8.ofText icao).isOk = true := by
    unfold isAirport at airport
    split at airport
    · cases airport
    · exact (Bool.and_eq_true_iff.mp airport).1
  cases key : FixedName8.ofText icao with
  | error error =>
      rw [key] at named
      cases named
  | ok key =>
      unfold fetchOutcome
      rw [source]
      cases failure with
      | some error => rfl
      | none => exact CifpArchive.fetch_of_fetchAll sorted fetched key

end Archive

/-- Both ways of opening a file give the same answers. -/
theorem OpenedBoth.serves {start eagerly : ProcedureDatabase} (both : OpenedBoth start eagerly) :
    exists answer, start.Serves answer ∧ eagerly.Serves answer := by
  rcases both.cases with ⟨vertexByAirport, rfl, rfl⟩ | ⟨vertexByAirport, archive, all, rfl, rfl, sorted, fetched⟩
  · have nothing : (fresh vertexByAirport .absent).Serves fun _ => none := by
      apply serves_of_onDemand (onDemand_fresh vertexByAirport .absent)
      · intro icao failure loaded stored _ outcome
        cases outcome
        rfl
      · intro _ _
        rfl
    exact ⟨_, nothing, nothing⟩
  · refine ⟨_, ?_, serves_of_eager rfl fun _ => rfl⟩
    apply serves_of_onDemand (onDemand_fresh vertexByAirport (.archive archive))
    · intro icao failure loaded stored airport outcome
      rw [fetchOutcome_archive sorted fetched rfl airport] at outcome
      cases failure with
      | some error => cases outcome
      | none =>
          cases outcome
          have known : (eager vertexByAirport all).isAirport icao = true := airport
          rw [eagerResult, if_pos known, contents_eager]
    · intro icao foreign
      have unknown : (eager vertexByAirport all).isAirport icao = false := foreign
      rw [eagerResult, unknown]
      rfl

/-- On demand, a call fails only where its read fails. -/
theorem OpenedBoth.failed {eagerly : ProcedureDatabase} (both : OpenedBoth start eagerly)
    (ran : runs step start events = some final) {call : Nat} {error : Error}
    (returned : final.calls call = .returned icao (.error error)) :
    exists reader loaded, .fetchReturns reader (some error) loaded ∈ events := by
  have onDemand : start.OnDemand := by
    rcases both.cases with ⟨_, rfl, _⟩ | ⟨_, _, _, rfl, _⟩
    · exact onDemand_fresh _ _
    · exact onDemand_fresh _ _
  rcases (History.runs onDemand ran).refused call icao error returned with
    ⟨past, reader, failure, loaded, later, between, rfl, ranPast, fetching, outcome⟩
  have same := SameDatabase.runs ranPast
  have airport := ((Invariant.initial onDemand).runs ranPast).known reader icao (by rw [fetching]; rfl)
  rw [same.isAirport] at airport
  rw [same.fetchOutcome] at outcome
  refine ⟨reader, loaded, List.mem_append_right past ?_⟩
  rcases both.cases with ⟨_, rfl, _⟩ | ⟨_, archive, all, rfl, _, sorted, fetched⟩
  · cases outcome
  · rw [fetchOutcome_archive sorted fetched rfl airport] at outcome
    cases failure with
    | none => cases outcome
    | some found =>
        cases outcome
        exact List.mem_cons_self

/-- Opened eagerly, no call fails. -/
theorem OpenedBoth.eager_returned {eagerly : ProcedureDatabase} (both : OpenedBoth start eagerly)
    (ran : runs step eagerly events = some final) {call : Nat} {error : Error} :
    final.calls call ≠ .returned icao (.error error) := by
  intro returned
  rcases both.cases with ⟨_, _, rfl⟩ | ⟨vertexByAirport, _, all, _, rfl, _⟩
  · rcases (History.runs (onDemand_fresh _ _) ran).refused call icao error returned with
      ⟨past, reader, failure, loaded, later, between, _, ranPast, _, outcome⟩
    rw [(SameDatabase.runs ranPast).fetchOutcome] at outcome
    cases outcome
  · have eagerly : (eager vertexByAirport all).cifpEager = true := rfl
    rcases (Frozen.runs eagerly (fun _ => rfl) ran).calls call with untouched | ⟨asked, entered⟩
    · cases untouched.symm.trans returned
    · cases entered.symm.trans returned

/-! ## Coherence -/

/-- What a run of calls has led to. -/
structure Coherent (start : ProcedureDatabase) (events : List ProcedureEvent) (final : ProcedureDatabase) : Prop where
  /-- The calls for an airport that succeeded gave one pointer. -/
  shared : forall icao first second pointer other, final.calls first = .returned icao (.ok pointer) ->
    final.calls second = .returned icao (.ok other) -> pointer = other
  /-- What it points at is what some read for the airport returned. -/
  read : forall icao call pointer, start.isAirport icao = true -> final.calls call = .returned icao (.ok pointer) ->
    FetchReturned start events icao (.ok (final.contents pointer))
  /-- Whatever happens next, entries stay, with what they point at. -/
  permanent : forall later last, runs step final later = some last -> Keeps final last
  /-- A failed read ends its call and changes nothing else. -/
  failing : forall icao call failure loaded error, final.calls call = .fetching icao ->
    final.fetchOutcome icao failure loaded = .error error ->
    step final (.fetchReturns call failure loaded) = some (final.setCall call (.returned icao (.error error)))
  /-- Until a read for the airport succeeds, each new call reads. -/
  retries : forall icao call, start.isAirport icao = true ->
    (forall stored, ¬ FetchReturned start events icao (.ok stored)) -> final.calls call = .idle ->
    exists after, runs step final [.proceduresFor call icao, .lookup call] = some after ∧
      after.calls call = .fetching icao
  /-- The cache holds airports only. -/
  keys : forall icao pointer, final.procedureCache icao = some pointer -> start.isAirport icao = true
  /-- Where the file opens eagerly too, the data is that of the eager database. -/
  alike : forall eagerly eagerEvents eagerFinal, OpenedBoth start eagerly ->
    runs step eagerly eagerEvents = some eagerFinal ->
    forall icao call other pointer eagerPointer, final.calls call = .returned icao (.ok pointer) ->
      eagerFinal.calls other = .returned icao (.ok eagerPointer) ->
      final.contents pointer = eagerFinal.contents eagerPointer
  /-- There a call fails only where its read fails, and no eager call does. -/
  intact : forall eagerly, OpenedBoth start eagerly ->
    (forall icao call error, final.calls call = .returned icao (.error error) ->
      exists reader loaded, .fetchReturns reader (some error) loaded ∈ events) ∧
    forall eagerEvents eagerFinal, runs step eagerly eagerEvents = some eagerFinal ->
      forall icao other error, eagerFinal.calls other ≠ .returned icao (.error error)

theorem lookup_of_unread (onDemand : start.OnDemand) (ran : runs step start events = some final)
    (airport : start.isAirport icao = true)
    (unread : forall stored, ¬ FetchReturned start events icao (.ok stored)) {call : Nat}
    (idle : final.calls call = .idle) :
    exists after, runs step final [.proceduresFor call icao, .lookup call] = some after ∧
      after.calls call = .fetching icao := by
  have invariant := (Invariant.initial onDemand).runs ran
  have missing : final.procedureCache icao = none := by
    cases cached : final.procedureCache icao with
    | none => rfl
    | some pointer => exact absurd ((History.runs onDemand ran).cached icao pointer cached) (unread _)
  have known : final.isAirport icao = true := ((SameDatabase.runs ran).isAirport icao).trans airport
  have entering : final.enter icao = .entering icao := by
    simp only [enter, known, invariant.lazily, Bool.not_true, Bool.false_eq_true, if_false]
  refine ⟨(final.setCall call (.entering icao)).setCall call (.fetching icao), ?_, calls_setCall_self _ _ _⟩
  simp only [runs_cons, runs_nil, step, idle, entering, Option.bind_some, calls_setCall_self, procedureCache_setCall,
    missing]

/-- Any interleaving of calls on a database opened for loading on demand is
coherent. -/
theorem proceduresFor_coherent (onDemand : start.OnDemand) (ran : runs step start events = some final) :
    Coherent start events final := by
  have invariant := (Invariant.initial onDemand).runs ran
  have history := History.runs onDemand ran
  have same := SameDatabase.runs ran
  constructor
  case shared =>
    intro icao first second pointer other one two
    cases airport : final.isAirport icao with
    | false => rw [invariant.refused first icao pointer one airport, invariant.refused second icao other two airport]
    | true =>
        have cached := invariant.served first icao pointer one airport
        exact Option.some.inj (cached.symm.trans (invariant.served second icao other two airport))
  case read =>
    intro icao call pointer airport returned
    have known := (same.isAirport icao).trans airport
    exact history.cached icao pointer (invariant.served call icao pointer returned known)
  case permanent =>
    intro later last ranLater
    exact Keeps.runs invariant ranLater
  case failing =>
    intro icao call failure loaded error fetching outcome
    simp only [step, fetching, outcome]
  case retries =>
    intro icao call airport unread idle
    exact lookup_of_unread onDemand ran airport unread idle
  case keys =>
    intro icao pointer cached
    rw [← same.isAirport]
    exact invariant.keys icao pointer cached
  case alike =>
    intro eagerly eagerEvents eagerFinal both ranEagerly icao call other pointer eagerPointer returned eagerReturned
    rcases both.serves with ⟨answer, lazyAnswers, eagerAnswers⟩
    rw [lazyAnswers events final ran call icao pointer returned,
      eagerAnswers eagerEvents eagerFinal ranEagerly other icao eagerPointer eagerReturned]
  case intact =>
    intro eagerly both
    exact ⟨fun icao call error returned => both.failed ran returned,
      fun eagerEvents eagerFinal ranEagerly icao other error => both.eager_returned ranEagerly⟩

/-- Three calls for one airport: the first fails to read it, the others read
different data. -/
def race (icao : Text) : List ProcedureEvent :=
  [.proceduresFor 0 icao, .proceduresFor 1 icao, .lookup 0, .lookup 1,
    .fetchReturns 0 (some { code := .kDataMissing, message := [] }) none, .proceduresFor 2 icao, .lookup 2,
    .fetchReturns 1 none (some { procedures := [], runways := [] }), .fetchReturns 2 none none, .insert 2 7,
    .insert 1 8]

/-- At LSZH, both give what the last to read, and the first to insert, has read. -/
theorem proceduresFor_coherent_race :
    exists final : ProcedureDatabase,
      runs step (fresh (fun _ => 0) .loader) (race [76, 83, 90, 72]) = some final ∧
      final.calls 1 = .returned [76, 83, 90, 72] (.ok none) ∧
      final.calls 2 = .returned [76, 83, 90, 72] (.ok none) ∧
      Coherent (fresh (fun _ => 0) .loader) (race [76, 83, 90, 72]) final := by
  have ran : exists final : ProcedureDatabase,
      runs step (fresh (fun _ => 0) .loader) (race [76, 83, 90, 72]) = some final ∧
      final.calls 1 = .returned [76, 83, 90, 72] (.ok none) ∧
      final.calls 2 = .returned [76, 83, 90, 72] (.ok none) := ⟨_, rfl, rfl, rfl⟩
  rcases ran with ⟨final, ran, first, second⟩
  exact ⟨final, ran, first, second, proceduresFor_coherent (onDemand_fresh _ _) ran⟩

end ProcedureDatabase
end BravoFinder
