import BravoFinder.Cache.UnifiedCache
import BravoFinder.Library.Runs
import Mathlib.Logic.Function.Basic

namespace BravoFinder

/-!
# Procedures on demand

A database opened for loading on demand reads the procedures of an airport when
they are first asked for, and keeps them.  `ProceduresFor` is called by many
threads at once: it looks the airport up under the lock, reads without the
lock, and inserts under the lock.  One event below is one of these three, so a
run is one interleaving of the calls.
-/

/-- Where procedures read on demand come from. -/
inductive ProcedureSource where
  | archive (archive : CifpArchive)
  /-- A loader, which may find other files each time. -/
  | loader
  | absent

/-- Where a `CifpData` lives. -/
abbrev CifpAddress : Type := Nat

/-- Where one call of `ProceduresFor` stands. -/
inductive ProcedureCall where
  | idle
  /-- Before the lookup. -/
  | entering (icao : Text)
  /-- Reading, without the lock. -/
  | fetching (icao : Text)
  /-- Before the insertion of what was read. -/
  | fetched (icao : Text) (stored : Option CifpData)
  | returned (icao : Text) (result : Except Error (Option CifpAddress))

/-- The airport a call has still to answer for. -/
def ProcedureCall.asks : ProcedureCall -> Option Text
  | .entering icao => some icao
  | .fetching icao => some icao
  | .fetched icao _ => some icao
  | _ => none

/-- What `ProceduresFor` uses of a database, and its callers. -/
structure ProcedureDatabase where
  /-- `builder_`, of which only `VertexByAirport` is asked. -/
  vertexByAirport : Option (Text -> Int)
  source : ProcedureSource
  cifpEager : Bool
  /-- `procedure_cache_`: the pointer, which may be null, of each key. -/
  procedureCache : Text -> Option (Option CifpAddress)
  /-- The data that pointers of the cache own. -/
  owned : CifpAddress -> Option CifpData
  calls : Nat -> ProcedureCall

inductive ProcedureEvent where
  /-- A thread calls `ProceduresFor`, which first looks whether it is an airport. -/
  | proceduresFor (call : Nat) (icao : Text)
  | lookup (call : Nat)
  /-- The read returns, with an error when it fails; `loaded` is what a loader
  finds this time. -/
  | fetchReturns (call : Nat) (failure : Option Error) (loaded : Option CifpData)
  /-- The insertion; data that is kept lies at a free address. -/
  | insert (call : Nat) (address : CifpAddress)

namespace ProcedureDatabase

/-- Whether procedures are looked for at all. -/
def isAirport (db : ProcedureDatabase) (icao : Text) : Bool :=
  match db.vertexByAirport with
  | none => false
  | some vertexByAirport => (FixedName8.ofText icao).isOk && decide (0 ≤ vertexByAirport icao)

/-- What a pointer points at. -/
def contents (db : ProcedureDatabase) (pointer : Option CifpAddress) : Option CifpData :=
  pointer.bind db.owned

def setCall (db : ProcedureDatabase) (call : Nat) (stands : ProcedureCall) : ProcedureDatabase :=
  { db with calls := Function.update db.calls call stands }

/-- What the guard, and the frozen cache of a database opened eagerly, make of a
call. -/
def enter (db : ProcedureDatabase) (icao : Text) : ProcedureCall :=
  if !db.isAirport icao then .returned icao (.ok none)
  else if db.cifpEager then .returned icao (.ok ((db.procedureCache icao).getD none))
  else .entering icao

/-- What a read gives. -/
def fetchOutcome (db : ProcedureDatabase) (icao : Text) (failure : Option Error) (loaded : Option CifpData) :
    Except Error (Option CifpData) :=
  match db.source with
  | .absent => .ok none
  | .loader =>
      match failure with
      | some error => .error error
      | none => .ok loaded
  | .archive archive =>
      match failure with
      | some error => .error error
      | none => archive.fetch icao

/-- A new entry, whose data, if any, lies at an address. -/
def emplaceNew (db : ProcedureDatabase) (icao : Text) (stored : Option CifpData) (address : CifpAddress) :
    ProcedureDatabase :=
  { db with
    procedureCache := Function.update db.procedureCache icao (some (stored.map fun _ => address))
    owned :=
      match stored with
      | none => db.owned
      | some data => Function.update db.owned address (some data) }

/-- `try_emplace`: what is there stays. -/
def tryEmplace (db : ProcedureDatabase) (icao : Text) (stored : Option CifpData) (address : CifpAddress) :
    ProcedureDatabase :=
  match db.procedureCache icao with
  | some _ => db
  | none => db.emplaceNew icao stored address

/-- One event. -/
def step (db : ProcedureDatabase) : ProcedureEvent -> Option ProcedureDatabase
  | .proceduresFor call icao =>
      match db.calls call with
      | .idle => some (db.setCall call (db.enter icao))
      | _ => none
  | .lookup call =>
      match db.calls call with
      | .entering icao =>
          match db.procedureCache icao with
          | some pointer => some (db.setCall call (.returned icao (.ok pointer)))
          | none => some (db.setCall call (.fetching icao))
      | _ => none
  | .fetchReturns call failure loaded =>
      match db.calls call with
      | .fetching icao =>
          match db.fetchOutcome icao failure loaded with
          | .error error => some (db.setCall call (.returned icao (.error error)))
          | .ok stored => some (db.setCall call (.fetched icao stored))
      | _ => none
  | .insert call address =>
      match db.calls call with
      | .fetched icao stored =>
          if (db.owned address).isSome then none
          else
            let after := db.tryEmplace icao stored address
            some (after.setCall call (.returned icao (.ok ((after.procedureCache icao).getD none))))
      | _ => none

end ProcedureDatabase

/-! ## Opening -/

inductive CifpLoad where
  | kOnDemand
  | kEager
deriving DecidableEq

namespace ProcedureDatabase

/-- A database with an empty cache. -/
def fresh (vertexByAirport : Text -> Int) (source : ProcedureSource) : ProcedureDatabase where
  vertexByAirport := some vertexByAirport
  source := source
  cifpEager := false
  procedureCache := fun _ => none
  owned := fun _ => none
  calls := fun _ => .idle

/-- A database whose cache holds all procedures, each where it lies in the list. -/
def eager (vertexByAirport : Text -> Int) (all : List (Text × CifpData)) : ProcedureDatabase where
  vertexByAirport := some vertexByAirport
  source := .absent
  cifpEager := true
  procedureCache := fun icao => (all.findIdx? fun entry => entry.1 == icao).map some
  owned := fun address => (all[address]?).map Prod.snd
  calls := fun _ => .idle

/-- `OpenCached`; `buildIndex` is the airport lookup of the graph that was read. -/
def openCached (indexSort : CifpCodec.IndexSort) (buildIndex : GraphSnapshot -> Text -> Int) (bfdbPath : Text)
    (opened : Option PreadFile) (cifpLoad : CifpLoad) : Except Error ProcedureDatabase :=
  match UnifiedCache.openFile indexSort bfdbPath opened with
  | .error error => .error error
  | .ok unified =>
      match unified.cifp with
      | none => .ok (fresh (buildIndex unified.graph) .absent)
      | some archive =>
          match cifpLoad with
          | .kOnDemand => .ok (fresh (buildIndex unified.graph) (.archive archive))
          | .kEager =>
              match archive.fetchAll with
              | .error error => .error error
              | .ok all => .ok (eager (buildIndex unified.graph) all)

end ProcedureDatabase
end BravoFinder
