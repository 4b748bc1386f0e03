import BravoFinder.Service.Registry

namespace BravoFinder

/-!
# Coalesced opens

For any interleaving of the calls, at most one of them opens a cycle at a time,
and the successful ones share one database that is never replaced.  The mark in
`opening_` has a call behind it as long as no open attempt throws: `Get` erases
the mark only on the way out of its second locked section, which an exception
skips.
-/

namespace NavDatabaseRegistry

variable {NavDatabase : Type} {registry after : NavDatabaseRegistry NavDatabase}
variable {event : RegistryEvent NavDatabase}

/-!
## The invariant of every run
-/

/-- What holds in every reachable state, whatever the attempts do. -/
structure Invariant (registry : NavDatabaseRegistry NavDatabase) : Prop where
  single : forall first second key, registry.Opens first key -> registry.Opens second key -> first = second
  marked : forall call key, registry.Opens call key -> registry.opening key = true
  missing : forall key, registry.opening key = true -> registry.cache key = none
  served : forall call key held, registry.calls call = .returned key (.ok held) ->
    registry.cache key = some held
  owns : forall key held, registry.cache key = some held ->
    exists database, registry.owned held = some database
  awaited : forall call entry, registry.calls call = .waiting entry false ->
    registry.opening entry.cycle = true

/-- What is cached stays cached, at its address. -/
def Keeps (registry later : NavDatabaseRegistry NavDatabase) : Prop :=
  forall key held, registry.cache key = some held ->
    later.cache key = some held ∧ later.owned held = registry.owned held

theorem invariant_ofInventory (inventory : BfdbInventory) :
    Invariant (ofInventory inventory : NavDatabaseRegistry NavDatabase) := by
  constructor <;> simp [ofInventory, Opens, GetCall.openKey]

theorem calls_goTo {call other : Nat} {place : GetCall NavDatabase} :
    (registry.goTo call place).calls other = if other = call then place else registry.calls other :=
  Function.update_apply ..

theorem opening_emplaceOpening {key other : UInt32} :
    (registry.emplaceOpening key).opening other = if other = key then true else registry.opening other :=
  Function.update_apply ..

theorem opening_eraseOpening {key other : UInt32} :
    (registry.eraseOpening key).opening other = if other = key then false else registry.opening other :=
  Function.update_apply ..

theorem opens_goTo {call other : Nat} {place : GetCall NavDatabase} {key : UInt32} :
    (registry.goTo call place).Opens other key ↔
      if other = call then place.openKey = some key else registry.Opens other key := by
  unfold Opens
  rw [calls_goTo]
  split <;> rfl

theorem opens_emplaceOpening {call : Nat} {marked key : UInt32} :
    (registry.emplaceOpening marked).Opens call key ↔ registry.Opens call key := Iff.rfl

theorem opens_of_opening {call : Nat} {entry : BfdbEntry} (place : registry.calls call = .opening entry) :
    registry.Opens call entry.cycle := by
  rw [Opens, place]
  rfl

theorem opens_of_opened {call : Nat} {entry : BfdbEntry} {result : Except Error NavDatabase}
    (place : registry.calls call = .opened entry result) : registry.Opens call entry.cycle := by
  rw [Opens, place]
  rfl

theorem opens_notifyAll {call : Nat} {key : UInt32} :
    registry.notifyAll.Opens call key ↔ registry.Opens call key := by
  unfold Opens notifyAll
  cases place : registry.calls call <;> simp [place, GetCall.openKey]

/-- The call has left `OpenCached`, and the waiters have been told. -/
def withdraw (registry : NavDatabaseRegistry NavDatabase) (call : Nat) (key : UInt32) :
    NavDatabaseRegistry NavDatabase :=
  ((registry.goTo call .idle).eraseOpening key).notifyAll

/-- A new entry of the cache. -/
def store (registry : NavDatabaseRegistry NavDatabase) (key : UInt32) (address : Address)
    (database : NavDatabase) : NavDatabaseRegistry NavDatabase :=
  { registry with
    cache := Function.update registry.cache key (some address)
    owned := Function.update registry.owned address (some database) }

theorem cache_store {key other : UInt32} {address : Address} {database : NavDatabase} :
    (registry.store key address database).cache other =
      if other = key then some address else registry.cache other :=
  Function.update_apply ..

theorem owned_store {key : UInt32} {address other : Address} {database : NavDatabase} :
    (registry.store key address database).owned other =
      if other = address then some database else registry.owned other :=
  Function.update_apply ..

theorem opening_withdraw {call : Nat} {key other : UInt32} :
    (registry.withdraw call key).opening other = if other = key then false else registry.opening other :=
  opening_eraseOpening

theorem goTo_notifyAll (registry : NavDatabaseRegistry NavDatabase) {call : Nat} {place : GetCall NavDatabase} :
    registry.notifyAll.goTo call place = (registry.goTo call .idle).notifyAll.goTo call place := by
  simp only [goTo, notifyAll, NavDatabaseRegistry.mk.injEq, true_and]
  funext other
  by_cases same : other = call
  · rw [same, Function.update_self, Function.update_self]
  · simp only [Function.update_of_ne same]

/-- The second locked section after a successful open of a cycle that is not cached. -/
theorem publish_ok {call : Nat} {entry : BfdbEntry} {database : NavDatabase} {address : Address}
    (missing : registry.cache entry.cycle = none) :
    registry.publish call entry (.ok database) address =
      ((registry.withdraw call entry.cycle).store entry.cycle address database).goTo call
        (.returned entry.cycle (.ok address)) := by
  simp only [publish, emplace, missing, notifyAll, eraseOpening, Function.update_self]
  exact goTo_notifyAll ((registry.store entry.cycle address database).eraseOpening entry.cycle)

theorem publish_error {call : Nat} {entry : BfdbEntry} {error : Error} {address : Address} :
    registry.publish call entry (.error error) address =
      (registry.withdraw call entry.cycle).goTo call (.returned entry.cycle (.error error)) :=
  goTo_notifyAll (registry.eraseOpening entry.cycle)

theorem opens_withdraw {call other : Nat} {key opened : UInt32} :
    (registry.withdraw call key).Opens other opened ↔ other ≠ call ∧ registry.Opens other opened := by
  rw [withdraw, opens_notifyAll]
  show (registry.goTo call .idle).Opens other opened ↔ _
  rw [opens_goTo]
  by_cases same : other = call
  · simp [same, GetCall.openKey]
  · simp [same]

namespace Invariant

theorem goTo (invariant : Invariant registry) {call : Nat} {place : GetCall NavDatabase}
    (opens : forall key, place.openKey = some key ->
      registry.opening key = true ∧ forall other, other ≠ call -> ¬ registry.Opens other key)
    (served : forall key held, place = .returned key (.ok held) -> registry.cache key = some held)
    (awaited : forall entry, place = .waiting entry false -> registry.opening entry.cycle = true) :
    Invariant (registry.goTo call place) where
  single := by
    intro first second key firstOpens secondOpens
    rw [opens_goTo] at firstOpens secondOpens
    split at firstOpens <;> split at secondOpens
    case isTrue.isTrue isFirst isSecond => rw [isFirst, isSecond]
    case isTrue.isFalse isFirst notSecond => exact absurd secondOpens ((opens key firstOpens).2 second notSecond)
    case isFalse.isTrue notFirst isSecond => exact absurd firstOpens ((opens key secondOpens).2 first notFirst)
    case isFalse.isFalse => exact invariant.single first second key firstOpens secondOpens
  marked := by
    intro other key otherOpens
    rw [opens_goTo] at otherOpens
    split at otherOpens
    case isTrue => exact (opens key otherOpens).1
    case isFalse => exact invariant.marked other key otherOpens
  missing := invariant.missing
  served := by
    intro other key held returned
    rw [calls_goTo] at returned
    split at returned
    case isTrue => exact served key held returned
    case isFalse => exact invariant.served other key held returned
  owns := invariant.owns
  awaited := by
    intro other entry waiting
    rw [calls_goTo] at waiting
    split at waiting
    case isTrue => exact awaited entry waiting
    case isFalse => exact invariant.awaited other entry waiting

/-- Marking a cycle that is not cached. -/
theorem mark (invariant : Invariant registry) {key : UInt32} (missing : registry.cache key = none) :
    Invariant (registry.emplaceOpening key) where
  single := invariant.single
  marked := by
    intro call opened callOpens
    rw [opening_emplaceOpening]
    split
    · rfl
    · exact invariant.marked call opened callOpens
  missing := by
    intro opened marked
    rw [opening_emplaceOpening] at marked
    split at marked
    case isTrue same => exact same ▸ missing
    case isFalse => exact invariant.missing opened marked
  served := invariant.served
  owns := invariant.owns
  awaited := by
    intro call entry waiting
    rw [opening_emplaceOpening]
    split
    · rfl
    · exact invariant.awaited call entry waiting

theorem withdraw (invariant : Invariant registry) {call : Nat} {key : UInt32}
    (opens : registry.Opens call key) : Invariant (registry.withdraw call key) where
  single := by
    intro first second opened firstOpens secondOpens
    rw [opens_withdraw] at firstOpens secondOpens
    exact invariant.single first second opened firstOpens.2 secondOpens.2
  marked := by
    intro other opened otherOpens
    rw [opens_withdraw] at otherOpens
    rw [opening_withdraw, if_neg]
    · exact invariant.marked other opened otherOpens.2
    · -- The call was the only opener of its key.
      rintro rfl
      exact otherOpens.1 (invariant.single other call opened otherOpens.2 opens)
  missing := by
    intro opened marked
    rw [opening_withdraw] at marked
    split at marked
    case isTrue => cases marked
    case isFalse => exact invariant.missing opened marked
  served := by
    intro other opened held returned
    simp only [NavDatabaseRegistry.withdraw, notifyAll] at returned
    split at returned
    case h_1 => cases returned
    case h_2 =>
      rw [eraseOpening, calls_goTo] at returned
      split at returned
      case isTrue => cases returned
      case isFalse => exact invariant.served other opened held returned
  owns := invariant.owns
  awaited := by
    intro other entry waiting
    simp only [NavDatabaseRegistry.withdraw, notifyAll] at waiting
    split at waiting
    case h_1 => cases waiting
    case h_2 place notWaiting => exact absurd waiting (notWaiting entry false)

/-- Caching a cycle that nobody opens, at a free address. -/
theorem store (invariant : Invariant registry) {key : UInt32} {address : Address} {database : NavDatabase}
    (unmarked : registry.opening key = false) (missing : registry.cache key = none) :
    Invariant (registry.store key address database) where
  single := invariant.single
  marked := invariant.marked
  missing := by
    intro opened marked
    rw [cache_store, if_neg]
    · exact invariant.missing opened marked
    · rintro rfl
      exact absurd (marked.symm.trans unmarked) (by decide)
  served := by
    intro call opened held returned
    have cached := invariant.served call opened held returned
    rw [cache_store, if_neg]
    · exact cached
    · rintro rfl
      rw [missing] at cached
      cases cached
  owns := by
    intro opened held cached
    rw [owned_store]
    split
    · exact ⟨database, rfl⟩
    case isFalse other =>
      apply invariant.owns opened held
      rw [cache_store] at cached
      split at cached
      case isTrue => exact absurd (Option.some.inj cached).symm other
      case isFalse => exact cached
  awaited := invariant.awaited

theorem unmarked_withdraw (invariant : Invariant registry) {call : Nat} {key : UInt32}
    (opens : registry.Opens call key) :
    (registry.withdraw call key).opening key = false ∧ registry.cache key = none := by
  rw [opening_withdraw, if_pos rfl]
  exact ⟨rfl, invariant.missing key (invariant.marked call key opens)⟩

theorem advance (invariant : Invariant registry) (stepped : Stepped registry event after) :
    Invariant after := by
  cases stepped with
  | moved _ call place quiet before calm served awaited =>
      apply invariant.goTo _ served awaited
      intro key opens
      rw [calm] at opens
      cases opens
  | claimed _ call entry quiet before missing free =>
      apply (invariant.mark missing).goTo _ (by simp) (by simp)
      rintro key ⟨rfl⟩
      rw [opening_emplaceOpening, if_pos rfl]
      refine ⟨rfl, ?_⟩
      intro other _ otherOpens
      have marked := invariant.marked other entry.cycle otherOpens
      rw [free] at marked
      cases marked
  | finished call entry outcome result quiet before =>
      have opens := opens_of_opening before
      apply invariant.goTo _ (by simp) (by simp)
      rintro key ⟨rfl⟩
      refine ⟨invariant.marked call entry.cycle opens, ?_⟩
      intro other different otherOpens
      exact different (invariant.single other call entry.cycle otherOpens opens)
  | threw call entry before =>
      exact invariant.goTo (by simp [GetCall.openKey]) (by simp) (by simp)
  | published call entry result address before free =>
      have opens := opens_of_opened before
      rcases invariant.unmarked_withdraw opens with ⟨unmarked, missing⟩
      cases result with
      | ok database =>
          rw [publish_ok missing]
          apply ((invariant.withdraw opens).store unmarked missing).goTo (by simp [GetCall.openKey]) _ (by simp)
          rintro key held ⟨rfl, rfl⟩
          rw [cache_store, if_pos rfl]
      | error error =>
          rw [publish_error]
          exact (invariant.withdraw opens).goTo (by simp [GetCall.openKey]) (by simp) (by simp)

theorem keeps (invariant : Invariant registry) (stepped : Stepped registry event after) :
    Keeps registry after := by
  intro key held cached
  cases stepped with
  | published call entry result address before free =>
      have opens := opens_of_opened before
      have missing := (invariant.unmarked_withdraw opens).2
      cases result with
      | error error => exact ⟨cached, rfl⟩
      | ok database =>
          rw [publish_ok missing]
          constructor
          · show ((registry.withdraw call entry.cycle).store entry.cycle address database).cache key = _
            rw [cache_store, if_neg]
            · exact cached
            · rintro rfl
              rw [missing] at cached
              cases cached
          · -- The new database lives where nothing lived before.
            show ((registry.withdraw call entry.cycle).store entry.cycle address database).owned held = _
            rw [owned_store, if_neg]
            · rfl
            rintro rfl
            rcases invariant.owns key held cached with ⟨database', lives⟩
            rw [free] at lives
            cases lives
  | moved | claimed | finished | threw => exact ⟨cached, rfl⟩

end Invariant

theorem opening_publish {call : Nat} {entry : BfdbEntry} {result : Except Error NavDatabase}
    {address : Address} {key : UInt32} (missing : registry.cache entry.cycle = none) :
    (registry.publish call entry result address).opening key =
      if key = entry.cycle then false else registry.opening key := by
  cases result with
  | ok database =>
      rw [publish_ok missing]
      exact opening_withdraw
  | error error =>
      rw [publish_error]
      exact opening_withdraw

theorem opens_publish {call other : Nat} {entry : BfdbEntry} {result : Except Error NavDatabase}
    {address : Address} {key : UInt32} (missing : registry.cache entry.cycle = none) :
    (registry.publish call entry result address).Opens other key ↔ other ≠ call ∧ registry.Opens other key := by
  have leaves : forall place : GetCall NavDatabase, place.openKey = none ->
      ((if other = call then place.openKey = some key else
        (registry.withdraw call entry.cycle).Opens other key) ↔ other ≠ call ∧ registry.Opens other key) := by
    intro place calm
    by_cases same : other = call
    · simp [same, calm]
    · rw [if_neg same, opens_withdraw]
  cases result with
  | ok database =>
      rw [publish_ok missing, opens_goTo]
      exact leaves _ rfl
  | error error =>
      rw [publish_error, opens_goTo]
      exact leaves _ rfl

/-- Every mark in `opening_` has a call behind it. -/
def Attended (registry : NavDatabaseRegistry NavDatabase) : Prop :=
  forall key, registry.opening key = true -> exists call, registry.Opens call key

/-- The cycle is marked, and nobody opens it. -/
def Orphaned (registry : NavDatabaseRegistry NavDatabase) (key : UInt32) : Prop :=
  registry.opening key = true ∧ forall call, ¬ registry.Opens call key

theorem Attended.advance (attended : Attended registry) (invariant : Invariant registry)
    (stepped : Stepped registry event after)
    (quiet : event.throws = false) : Attended after := by
  intro key marked
  cases stepped with
  | moved _ call place _ before calm served awaited =>
      rcases attended key marked with ⟨other, opens⟩
      refine ⟨other, opens_goTo.mpr ?_⟩
      rw [if_neg]
      · exact opens
      · rintro rfl
        cases before.symm.trans opens
  | claimed _ call entry _ before missing free =>
      by_cases same : key = entry.cycle
      · refine ⟨call, opens_goTo.mpr ?_⟩
        rw [if_pos rfl, same]
        rfl
      · have formerly : registry.opening key = true := by
          have nowMarked : (registry.emplaceOpening entry.cycle).opening key = true := marked
          rw [opening_emplaceOpening, if_neg same] at nowMarked
          exact nowMarked
        rcases attended key formerly with ⟨other, opens⟩
        refine ⟨other, opens_goTo.mpr ?_⟩
        rw [if_neg]
        · exact opens
        · rintro rfl
          cases before.symm.trans opens
  | finished call entry outcome result _ before =>
      rcases attended key marked with ⟨other, opens⟩
      refine ⟨other, opens_goTo.mpr ?_⟩
      split
      case isTrue same =>
        rw [same, Opens, before] at opens
        exact opens
      case isFalse => exact opens
  | threw => cases quiet
  | published call entry result address before free =>
      have opens := opens_of_opened before
      have missing := (invariant.unmarked_withdraw opens).2
      rw [opening_publish missing] at marked
      split at marked
      case isTrue => cases marked
      case isFalse different =>
        rcases attended key marked with ⟨other, otherOpens⟩
        refine ⟨other, (opens_publish missing).mpr ⟨?_, otherOpens⟩⟩
        rintro rfl
        exact different (Option.some.inj (otherOpens.symm.trans opens))

/-- An attempt that throws leaves its cycle marked. -/
theorem Invariant.orphaned (invariant : Invariant registry) (stepped : Stepped registry event after)
    (thrown : event.throws = true) : exists key, Orphaned after key := by
  cases stepped with
  | moved _ call place quiet => cases thrown.symm.trans quiet
  | claimed _ call entry quiet => cases thrown.symm.trans quiet
  | finished call entry outcome result quiet => cases thrown.symm.trans quiet
  | published => cases thrown
  | threw call entry before =>
      have opens := opens_of_opening before
      refine ⟨entry.cycle, invariant.marked call entry.cycle opens, ?_⟩
      intro other otherOpens
      rw [opens_goTo] at otherOpens
      split at otherOpens
      case isTrue => cases otherOpens
      case isFalse different => exact different (invariant.single other call entry.cycle otherOpens opens)

/-- Nobody ever takes over an orphaned cycle: its callers wait for good. -/
theorem Orphaned.advance {key : UInt32} (orphaned : Orphaned registry key) (invariant : Invariant registry)
    (stepped : Stepped registry event after) : Orphaned after key := by
  rcases orphaned with ⟨marked, unopened⟩
  have moves : forall {call place}, place.openKey ≠ some key -> Orphaned (registry.goTo call place) key := by
    intro call place calm
    refine ⟨marked, ?_⟩
    intro other opens
    rw [opens_goTo] at opens
    split at opens
    case isTrue => exact calm opens
    case isFalse => exact unopened other opens
  cases stepped with
  | moved _ call place quiet before calm served awaited => exact moves (by simp [calm])
  | finished call entry outcome result quiet before =>
      apply moves
      intro same
      apply unopened call
      rw [Opens, before]
      exact same
  | threw call entry before => exact moves (by simp [GetCall.openKey])
  | claimed _ call entry quiet before missing free =>
      have different : key ≠ entry.cycle := by
        rintro rfl
        cases marked.symm.trans free
      constructor
      · show (registry.emplaceOpening entry.cycle).opening key = true
        rw [opening_emplaceOpening, if_neg different]
        exact marked
      · intro other opens
        rw [claimOpening, opens_goTo] at opens
        split at opens
        case isTrue => exact different (Option.some.inj opens).symm
        case isFalse => exact unopened other opens
  | published call entry result address before free =>
      have opens := opens_of_opened before
      have missing := (invariant.unmarked_withdraw opens).2
      constructor
      · rw [opening_publish missing, if_neg]
        · exact marked
        · rintro rfl
          exact unopened call opens
      · intro other otherOpens
        exact unopened other ((opens_publish missing).mp otherOpens).2

/-!
## Runs
-/

/-- The registry coalesces the opens of each cycle and leaves none orphaned. -/
structure Coalesced (registry : NavDatabaseRegistry NavDatabase) : Prop where
  /-- At most one open of a cycle is in progress. -/
  single : forall first second key, registry.Opens first key -> registry.Opens second key -> first = second
  /-- The successful calls for a cycle return one pointer, to a live database. -/
  shared : forall first second key held other, registry.calls first = .returned key (.ok held) ->
    registry.calls second = .returned key (.ok other) -> held = other
  live : forall call key held, registry.calls call = .returned key (.ok held) ->
    registry.cache key = some held ∧ exists database, registry.owned held = some database
  /-- A failed open leaves no cache entry. -/
  failed : forall call entry error address after, registry.calls call = .opened entry (.error error) ->
    registry.step (.publish call address) = some after -> after.cache entry.cycle = none
  thrown : forall call entry after, registry.calls call = .opening entry ->
    registry.step (.openReturns call .threw) = some after -> after.cache entry.cycle = none
  /-- A cycle is marked exactly while some call opens it. -/
  marked : forall key, registry.opening key = true ↔ exists call, registry.Opens call key
  /-- A call that waits has an opener, or has been told to look again. -/
  awaited : forall call entry, registry.calls call = .waiting entry false ->
    exists opener, registry.Opens opener entry.cycle

theorem coalesced_iff (invariant : Invariant registry) : Coalesced registry ↔ Attended registry := by
  constructor
  · intro coalesced key marked
    exact (coalesced.marked key).mp marked
  · intro attended
    constructor
    case single => exact invariant.single
    case shared =>
      intro first second key held other firstReturned secondReturned
      have firstCached := invariant.served first key held firstReturned
      have secondCached := invariant.served second key other secondReturned
      exact Option.some.inj (firstCached.symm.trans secondCached)
    case live =>
      intro call key held returned
      have cached := invariant.served call key held returned
      exact ⟨cached, invariant.owns key held cached⟩
    case failed =>
      intro call entry error address after failed taken
      have missing := (invariant.unmarked_withdraw (opens_of_opened failed)).2
      simp only [step, failed] at taken
      split at taken
      case h_1 =>
        cases taken
        exact missing
      case h_2 => cases taken
    case thrown =>
      intro call entry after opening taken
      simp only [step, opening] at taken
      cases taken
      exact (invariant.unmarked_withdraw (opens_of_opening opening)).2
    case marked =>
      intro key
      constructor
      · exact attended key
      · intro opened
        exact Exists.elim opened fun call opens => invariant.marked call key opens
    case awaited =>
      intro call entry waiting
      exact attended entry.cycle (invariant.awaited call entry waiting)

theorem invariant_runs {events : List (RegistryEvent NavDatabase)} (invariant : Invariant registry)
    (ran : runs step registry events = some after) : Invariant after :=
  runs_invariant Invariant (fun held taken => held.advance (stepped_of_step taken)) invariant ran

theorem keeps_runs {events : List (RegistryEvent NavDatabase)} (invariant : Invariant registry)
    (ran : runs step registry events = some after) : Keeps registry after := by
  apply runs_relates Invariant _ _ _ invariant ran
  · intro state key held cached
    exact ⟨cached, rfl⟩
  · intro first second third earlier later key held cached
    rcases earlier key held cached with ⟨between, lived⟩
    rcases later key held between with ⟨still, lives⟩
    exact ⟨still, lives.trans lived⟩
  · intro state event next held taken
    exact ⟨held.advance (stepped_of_step taken), held.keeps (stepped_of_step taken)⟩

/-- A cycle that was orphaned stays so: every later call for it waits for good. -/
theorem orphaned_runs {events : List (RegistryEvent NavDatabase)} {key : UInt32} (invariant : Invariant registry)
    (orphaned : Orphaned registry key) (ran : runs step registry events = some after) : Orphaned after key := by
  apply (runs_invariant (fun state => Invariant state ∧ Orphaned state key) _ ⟨invariant, orphaned⟩ ran).2
  intro state event next held taken
  exact ⟨held.1.advance (stepped_of_step taken), held.2.advance held.1 (stepped_of_step taken)⟩

/-- In every state of the run the registry is coalesced, and keeps from then on what it cached. -/
def StaysCoalesced (inventory : BfdbInventory) (events : List (RegistryEvent NavDatabase)) : Prop :=
  forall past later registry, events = past ++ later -> runs step (ofInventory inventory) past = some registry ->
    Coalesced registry ∧ forall final, runs step registry later = some final -> Keeps registry final

theorem attended_runs {inventory : BfdbInventory} {events : List (RegistryEvent NavDatabase)}
    (ran : runs step (ofInventory inventory) events = some registry)
    (quiet : forall event, event ∈ events -> event.throws = false) : Attended registry := by
  have attended : (forall event, event ∈ events -> event.throws = false) -> Attended registry := by
    refine runs_induction (fun past state => (forall event, event ∈ past -> event.throws = false) ->
      Attended state) ?_ ?_ ran
    · intro _ key marked
      cases marked
    · intro past state event next before attended taken quiet
      have invariant := invariant_runs (invariant_ofInventory inventory) before
      apply (attended fun other among => quiet other (List.mem_append_left _ among)).advance invariant
        (stepped_of_step taken)
      exact quiet event (List.mem_append_right _ List.mem_cons_self)
  exact attended quiet

/-- A run is coalesced throughout exactly when none of its open attempts throws. -/
theorem get_staysCoalesced_iff (inventory : BfdbInventory) (events : List (RegistryEvent NavDatabase))
    (ran : (runs step (ofInventory inventory) events).isSome) :
    StaysCoalesced inventory events ↔ forall event, event ∈ events -> event.throws = false := by
  constructor
  · intro stays event among
    by_contra throws
    rcases List.append_of_mem among with ⟨past, later, rfl⟩
    rcases Option.isSome_iff_exists.mp ran with ⟨final, ran⟩
    rcases exists_between ran with ⟨registry, before, rest⟩
    rw [runs_cons, Option.bind_eq_some_iff] at rest
    rcases rest with ⟨after, taken, onward⟩
    have invariant := invariant_runs (invariant_ofInventory inventory) before
    rcases invariant.orphaned (stepped_of_step taken) (Bool.eq_true_of_not_eq_false throws) with ⟨key, orphaned⟩
    have reached : runs step (ofInventory inventory) (past ++ [event]) = some after := by
      rw [runs_append, before, Option.bind_some, runs_cons, taken, Option.bind_some, runs_nil]
    have coalesced := (stays (past ++ [event]) later after (by simp) reached).1
    rcases (coalesced.marked key).mp orphaned.1 with ⟨call, opens⟩
    exact orphaned.2 call opens
  · rintro quiet past later registry rfl reached
    have invariant := invariant_runs (invariant_ofInventory inventory) reached
    refine ⟨(coalesced_iff invariant).mpr ?_, fun final onward => keeps_runs invariant onward⟩
    exact attended_runs reached fun event among => quiet event (List.mem_append_left _ among)

/-- One catalogued cycle. -/
def oneCycle : BfdbInventory where
  entries := [⟨ofString "nav_2601.bfdb", 2601⟩]
  sorted := List.pairwise_singleton _ _

/-- Two calls for one cycle, the second made while the first opens it. -/
def sharedRun : List (RegistryEvent Unit) :=
  [.get 0 (some 2601), .enter 0, .get 1 none, .enter 1, .openReturns 0 (.opened ()), .publish 0 0, .wake 1]

theorem get_staysCoalesced_iff_shared :
    StaysCoalesced oneCycle sharedRun ↔ forall event, event ∈ sharedRun -> event.throws = false :=
  get_staysCoalesced_iff oneCycle sharedRun (by decide)

/-- The only open attempt throws, and then the cycle is asked for again. -/
def thrownRun : List (RegistryEvent Unit) :=
  [.get 0 (some 2601), .enter 0, .openReturns 0 .threw, .get 1 (some 2601), .enter 1]

/-- The second caller waits for an opener that no longer exists. -/
theorem not_staysCoalesced_thrown :
    (runs step (ofInventory oneCycle) thrownRun).isSome ∧ ¬ StaysCoalesced oneCycle thrownRun := by
  refine ⟨by decide, ?_⟩
  intro stays
  have coalesced := (stays thrownRun [] _ (List.append_nil _).symm rfl).1
  rcases coalesced.awaited 1 ⟨ofString "nav_2601.bfdb", 2601⟩ rfl with ⟨opener, opens⟩
  -- Call 0 has left `Get`, call 1 waits, and there are no others.
  have unopened : ¬ (ofInventory oneCycle : NavDatabaseRegistry Unit).Opens opener 2601 := by
    intro opens
    cases opens
  simp [opens_goTo, opens_emplaceOpening, claimOpening, GetCall.openKey, unopened] at opens

end NavDatabaseRegistry
end BravoFinder
