import BravoFinder.Core.Result
import BravoFinder.Library.Runs
import Mathlib.Logic.Function.Basic

namespace BravoFinder

/-!
# The database registry

`NavDatabaseRegistry::Get` is called by many workers at once.  A call takes the
mutex twice, before and after it opens the database, and may wait for another
call's open in between.  One event below is one locked section, or the return
of one `OpenCached` attempt, so a run is one interleaving of the calls.
-/

/-- `BfdbEntry`: a catalogued cache and the cycle its header gives. -/
structure BfdbEntry where
  path : Text
  cycle : UInt32
deriving DecidableEq

/-- `BfdbInventory`: one entry a cycle, by ascending cycle. -/
structure BfdbInventory where
  entries : List BfdbEntry
  sorted : entries.Pairwise (·.cycle < ·.cycle)

namespace BfdbInventory

/-- `BfdbInventory::Latest`. -/
def latest (inventory : BfdbInventory) : Option BfdbEntry :=
  inventory.entries.getLast?

/-- `BfdbInventory::Find`: `lower_bound` and a comparison. -/
def find (inventory : BfdbInventory) (cycle : UInt32) : Option BfdbEntry :=
  match inventory.entries.dropWhile (·.cycle < cycle) with
  | entry :: _ => if entry.cycle = cycle then some entry else none
  | [] => none

theorem find_eq_some_iff {inventory : BfdbInventory} {cycle : UInt32} {entry : BfdbEntry} :
    inventory.find cycle = some entry ↔ entry ∈ inventory.entries ∧ entry.cycle = cycle := by
  unfold find
  rcases inventory with ⟨entries, sorted⟩
  induction entries with
  | nil => simp
  | cons first rest inductionHypothesis =>
      rcases List.pairwise_cons.mp sorted with ⟨below, sortedRest⟩
      simp only [List.dropWhile_cons, decide_eq_true_eq, List.mem_cons]
      by_cases before : first.cycle < cycle
      · rw [if_pos before, inductionHypothesis sortedRest]
        constructor
        · rintro ⟨listed, named⟩
          exact ⟨.inr listed, named⟩
        · rintro ⟨rfl | listed, named⟩
          · exact absurd named (UInt32.ne_of_lt before)
          · exact ⟨listed, named⟩
      · rw [if_neg before]
        show (if first.cycle = cycle then some first else none) = some entry ↔ _
        rw [Option.ite_none_right_eq_some, Option.some.injEq]
        constructor
        · rintro ⟨named, rfl⟩
          exact ⟨.inl rfl, named⟩
        · rintro ⟨rfl | listed, named⟩
          · exact ⟨named, rfl⟩
          · -- The entries after the first are later still.
            exact absurd (named ▸ below entry listed) before

end BfdbInventory

/-- The entry `Get` serves: the given cycle, else the newest one. -/
def resolveEntry (inventory : BfdbInventory) (cycle : Option UInt32) : Except Error BfdbEntry :=
  match cycle with
  | some cycle =>
      match inventory.find cycle with
      | some entry => .ok entry
      | none => .error ⟨.kDataMissing, ofString "unknown AIRAC cycle: " ++ decimal cycle.toNat⟩
  | none =>
      match inventory.latest with
      | some entry => .ok entry
      | none => .error ⟨.kDataMissing, ofString "no navigation databases loaded"⟩

/-- Where a database lives. -/
abbrev Address : Type := Nat

/-- What one `OpenCached` attempt does. -/
inductive OpenOutcome (NavDatabase : Type) where
  | opened (database : NavDatabase)
  | failed (error : Error)
  | threw

/-- Where one call of `Get` stands. -/
inductive GetCall (NavDatabase : Type) where
  | idle
  /-- The inventory did not know the cycle. -/
  | refused (error : Error)
  /-- Before the first locked section. -/
  | entering (entry : BfdbEntry)
  /-- In `opened_cv_.wait`; `notified` since it last looked at `opening_`. -/
  | waiting (entry : BfdbEntry) (notified : Bool)
  /-- In `OpenCached`. -/
  | opening (entry : BfdbEntry)
  /-- Before the second locked section. -/
  | opened (entry : BfdbEntry) (result : Except Error NavDatabase)
  | returned (key : UInt32) (result : Except Error Address)
  /-- An exception left `Get`; the worker answers 500. -/
  | threw (key : UInt32)

/-- `NavDatabaseRegistry`, the databases its cache owns, and its callers. -/
structure NavDatabaseRegistry (NavDatabase : Type) where
  inventory : BfdbInventory
  /-- `cache_`: the `unique_ptr` of each opened cycle. -/
  cache : UInt32 -> Option Address
  /-- The live databases. -/
  owned : Address -> Option NavDatabase
  /-- The keys of `opening_`. -/
  opening : UInt32 -> Bool
  calls : Nat -> GetCall NavDatabase

inductive RegistryEvent (NavDatabase : Type) where
  /-- A worker calls `Get`. -/
  | get (call : Nat) (cycle : Option UInt32)
  /-- The first locked section. -/
  | enter (call : Nat)
  /-- A waiter wakes, notified or spuriously, and looks again. -/
  | wake (call : Nat)
  | openReturns (call : Nat) (outcome : OpenOutcome NavDatabase)
  /-- The second locked section; a new database is allocated at a free address. -/
  | publish (call : Nat) (address : Address)

/-- The event is an `OpenCached` attempt that throws. -/
def RegistryEvent.throws {NavDatabase : Type} : RegistryEvent NavDatabase -> Bool
  | .openReturns _ .threw => true
  | _ => false

/-- The cycle the call is opening: it has marked `opening_` and not yet erased it. -/
def GetCall.openKey {NavDatabase : Type} : GetCall NavDatabase -> Option UInt32
  | .opening entry => some entry.cycle
  | .opened entry _ => some entry.cycle
  | _ => none

namespace NavDatabaseRegistry

variable {NavDatabase : Type}

/-- The constructor: nothing is open. -/
def ofInventory (inventory : BfdbInventory) : NavDatabaseRegistry NavDatabase where
  inventory := inventory
  cache := fun _ => none
  owned := fun _ => none
  opening := fun _ => false
  calls := fun _ => .idle

/-- The call is now at the given place. -/
def goTo (registry : NavDatabaseRegistry NavDatabase) (call : Nat) (place : GetCall NavDatabase) :
    NavDatabaseRegistry NavDatabase :=
  { registry with calls := Function.update registry.calls call place }

/-- `opening_.emplace(key, true)`. -/
def emplaceOpening (registry : NavDatabaseRegistry NavDatabase) (key : UInt32) :
    NavDatabaseRegistry NavDatabase :=
  { registry with opening := Function.update registry.opening key true }

/-- The call marks its cycle and goes on to `OpenCached`. -/
def claimOpening (registry : NavDatabaseRegistry NavDatabase) (call : Nat) (entry : BfdbEntry) :
    NavDatabaseRegistry NavDatabase :=
  (registry.emplaceOpening entry.cycle).goTo call (.opening entry)

/-- `opened_cv_.notify_all()`. -/
def notifyAll (registry : NavDatabaseRegistry NavDatabase) : NavDatabaseRegistry NavDatabase :=
  { registry with
    calls := fun call =>
      match registry.calls call with
      | .waiting entry _ => .waiting entry true
      | place => place }

/-- `opening_.erase(key)`. -/
def eraseOpening (registry : NavDatabaseRegistry NavDatabase) (key : UInt32) :
    NavDatabaseRegistry NavDatabase :=
  { registry with opening := Function.update registry.opening key false }

/-- `cache_.emplace`: keeps the entry already there, and drops the new database then. -/
def emplace (registry : NavDatabaseRegistry NavDatabase) (key : UInt32) (address : Address)
    (database : NavDatabase) : NavDatabaseRegistry NavDatabase :=
  match registry.cache key with
  | some _ => registry
  | none =>
      { registry with
        cache := Function.update registry.cache key (some address)
        owned := Function.update registry.owned address (some database) }

/-- The second locked section of `Get`. -/
def publish (registry : NavDatabaseRegistry NavDatabase) (call : Nat) (entry : BfdbEntry)
    (result : Except Error NavDatabase) (address : Address) : NavDatabaseRegistry NavDatabase :=
  match result with
  | .ok database =>
      let registry := ((registry.emplace entry.cycle address database).eraseOpening entry.cycle).notifyAll
      -- cache_.at(key) throws when the key is missing.
      match registry.cache entry.cycle with
      | some held => registry.goTo call (.returned entry.cycle (.ok held))
      | none => registry.goTo call (.threw entry.cycle)
  | .error error =>
      (registry.eraseOpening entry.cycle).notifyAll.goTo call (.returned entry.cycle (.error error))

/-- One event of `NavDatabaseRegistry::Get`, called by many workers. -/
def step (registry : NavDatabaseRegistry NavDatabase) :
    RegistryEvent NavDatabase -> Option (NavDatabaseRegistry NavDatabase)
  | .get call cycle =>
      match registry.calls call with
      | .idle =>
          match resolveEntry registry.inventory cycle with
          | .ok entry => some (registry.goTo call (.entering entry))
          | .error error => some (registry.goTo call (.refused error))
      | _ => none
  | .enter call =>
      match registry.calls call with
      | .entering entry =>
          match registry.cache entry.cycle with
          | some held => some (registry.goTo call (.returned entry.cycle (.ok held)))
          | none =>
              if registry.opening entry.cycle then
                some (registry.goTo call (.waiting entry false))
              else
                some (registry.claimOpening call entry)
      | _ => none
  | .wake call =>
      match registry.calls call with
      | .waiting entry _ =>
          if registry.opening entry.cycle then
            some (registry.goTo call (.waiting entry false))
          else
            match registry.cache entry.cycle with
            | some held => some (registry.goTo call (.returned entry.cycle (.ok held)))
            | none => some (registry.claimOpening call entry)
      | _ => none
  | .openReturns call outcome =>
      match registry.calls call with
      | .opening entry =>
          match outcome with
          | .opened database => some (registry.goTo call (.opened entry (.ok database)))
          | .failed error => some (registry.goTo call (.opened entry (.error error)))
          | .threw => some (registry.goTo call (.threw entry.cycle))
      | _ => none
  | .publish call address =>
      match registry.calls call with
      | .opened entry result =>
          match registry.owned address with
          | none => some (registry.publish call entry result address)
          | some _ => none
      | _ => none

/-!
## What one event does
-/

variable {registry after : NavDatabaseRegistry NavDatabase} {event : RegistryEvent NavDatabase}

/-- The call is opening the cycle. -/
def Opens (registry : NavDatabaseRegistry NavDatabase) (call : Nat) (key : UInt32) : Prop :=
  (registry.calls call).openKey = some key

/-- Everything one event can do. -/
inductive Stepped (registry : NavDatabaseRegistry NavDatabase) :
    RegistryEvent NavDatabase -> NavDatabaseRegistry NavDatabase -> Prop
  /-- A call that opens nothing moves on. -/
  | moved (event : RegistryEvent NavDatabase) (call : Nat) (place : GetCall NavDatabase)
      (quiet : event.throws = false)
      (before : (registry.calls call).openKey = none) (calm : place.openKey = none)
      (served : forall key held, place = .returned key (.ok held) -> registry.cache key = some held)
      (awaited : forall entry, place = .waiting entry false -> registry.opening entry.cycle = true) :
      Stepped registry event (registry.goTo call place)
  | claimed (event : RegistryEvent NavDatabase) (call : Nat) (entry : BfdbEntry)
      (quiet : event.throws = false)
      (before : (registry.calls call).openKey = none) (missing : registry.cache entry.cycle = none)
      (free : registry.opening entry.cycle = false) :
      Stepped registry event (registry.claimOpening call entry)
  | finished (call : Nat) (entry : BfdbEntry) (outcome : OpenOutcome NavDatabase)
      (result : Except Error NavDatabase) 
      (quiet : (RegistryEvent.openReturns call outcome).throws = false)
      (before : registry.calls call = .opening entry) :
      Stepped registry (.openReturns call outcome) (registry.goTo call (.opened entry result))
  | threw (call : Nat) (entry : BfdbEntry) (before : registry.calls call = .opening entry) :
      Stepped registry (.openReturns call .threw) (registry.goTo call (.threw entry.cycle))
  | published (call : Nat) (entry : BfdbEntry) (result : Except Error NavDatabase) (address : Address)
      (before : registry.calls call = .opened entry result) (free : registry.owned address = none) :
      Stepped registry (.publish call address) (registry.publish call entry result address)

theorem stepped_of_step (taken : registry.step event = some after) : Stepped registry event after := by
  cases event with
  | get call cycle =>
      simp only [step] at taken
      split at taken
      case h_2 => cases taken
      case h_1 idle =>
        have before : (registry.calls call).openKey = none := by
          rw [idle]
          rfl
        split at taken <;> cases taken <;>
          exact .moved _ call _ rfl before rfl (by simp) (by simp)
  | enter call =>
      simp only [step] at taken
      split at taken
      case h_2 => cases taken
      case h_1 entry entering =>
        have before : (registry.calls call).openKey = none := by
          rw [entering]
          rfl
        split at taken
        case h_1 held hit =>
          cases taken
          apply Stepped.moved _ call _ rfl before rfl _ (by simp)
          rintro key pointer ⟨rfl, rfl⟩
          exact hit
        case h_2 missing =>
          split at taken
          case isTrue marked =>
            cases taken
            apply Stepped.moved _ call _ rfl before rfl (by simp)
            rintro other ⟨rfl⟩
            exact marked
          case isFalse free =>
            cases taken
            exact .claimed _ call entry rfl before missing (Bool.eq_false_iff.mpr free)
  | wake call =>
      simp only [step] at taken
      split at taken
      case h_2 => cases taken
      case h_1 entry notified waiting =>
        have before : (registry.calls call).openKey = none := by
          rw [waiting]
          rfl
        split at taken
        case isTrue marked =>
          cases taken
          apply Stepped.moved _ call _ rfl before rfl (by simp)
          rintro other ⟨rfl⟩
          exact marked
        case isFalse free =>
          split at taken
          case h_1 held hit =>
            cases taken
            apply Stepped.moved _ call _ rfl before rfl _ (by simp)
            rintro key pointer ⟨rfl, rfl⟩
            exact hit
          case h_2 missing =>
            cases taken
            exact .claimed _ call entry rfl before missing (Bool.eq_false_iff.mpr free)
  | openReturns call outcome =>
      simp only [step] at taken
      split at taken
      case h_2 => cases taken
      case h_1 entry opening =>
        cases outcome with
        | opened database =>
            cases taken
            exact .finished call entry _ _ rfl opening
        | failed error =>
            cases taken
            exact .finished call entry _ _ rfl opening
        | threw =>
            cases taken
            exact .threw call entry opening
  | publish call address =>
      simp only [step] at taken
      split at taken
      case h_2 => cases taken
      case h_1 entry result opened =>
        split at taken
        case h_2 => cases taken
        case h_1 free =>
          cases taken
          exact .published call entry result address opened free

end NavDatabaseRegistry
end BravoFinder
