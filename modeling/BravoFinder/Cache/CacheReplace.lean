import BravoFinder.Cache.ContainerRoundTrip
import BravoFinder.Library.ListUpdates
import BravoFinder.Library.Runs
import BravoFinder.Library.Volume

namespace BravoFinder
namespace UnifiedCache

/-!
# Replacing a cache

`Build` writes a file of its own beside the cache, and renames it over the cache
once every byte is in it.  Any number of builds and readers go on at a time, in
any order, writes fail, and a build may stop anywhere for good.
-/

/-! ## Temporary names -/

/-- A digit of `:x`. -/
def hexDigit (value : Nat) : UInt8 :=
  UInt8.ofNat (if value < 10 then 48 + value else 87 + value)

/-- The digits of `:016x`. -/
def hex16 (tag : UInt64) : Text :=
  ((List.range 16).map fun place => hexDigit (tag.toNat / 16 ^ place % 16)).reverse

/-- `TempPathFor`, of a random tag. -/
def tempPathFor (path : Text) (tag : UInt64) : Text :=
  path ++ (ofString "." ++ hex16 tag ++ ofString ".tmp")

theorem hexDigit_inj : forall one other : Fin 16, hexDigit one = hexDigit other -> one = other := by
  decide

/-- A number is determined by its digits. -/
theorem eq_of_digits {places : Nat} : forall {one other : Nat}, one < 16 ^ places -> other < 16 ^ places ->
    (forall place, place < places -> one / 16 ^ place % 16 = other / 16 ^ place % 16) -> one = other := by
  induction places with
  | zero =>
      intro one other small small' _
      rw [pow_zero, Nat.lt_one_iff] at small small'
      rw [small, small']
  | succ places inductionHypothesis =>
      intro one other small small' digits
      rw [pow_succ] at small small'
      have last : one % 16 = other % 16 := by simpa using digits 0 (Nat.zero_lt_succ places)
      have others : one / 16 = other / 16 := by
        apply inductionHypothesis (Nat.div_lt_of_lt_mul (by omega)) (Nat.div_lt_of_lt_mul (by omega))
        intro place within
        have digit := digits (place + 1) (Nat.succ_lt_succ within)
        rwa [pow_succ', ← Nat.div_div_eq_div_mul, ← Nat.div_div_eq_div_mul] at digit
      omega

theorem hex16_inj {one other : UInt64} (same : hex16 one = hex16 other) : one = other := by
  apply UInt64.toNat_inj.mp
  have small : one.toNat < 16 ^ 16 := one.toNat_lt
  have small' : other.toNat < 16 ^ 16 := other.toNat_lt
  apply eq_of_digits small small'
  intro place within
  have digit := List.map_inj_left.mp (List.reverse_injective same) place (List.mem_range.mpr within)
  have inj := hexDigit_inj ⟨_, Nat.mod_lt _ (by decide)⟩ ⟨_, Nat.mod_lt _ (by decide)⟩ digit
  exact congrArg Fin.val inj

/-- Different tags give one path different temporary names, and different paths have different ones. -/
theorem tempPathFor_inj {path other : Text} {tag another : UInt64}
    (same : tempPathFor path tag = tempPathFor other another) : path = other ∧ tag = another := by
  rcases List.append_inj' same (by simp [hex16]) with ⟨samePath, rest⟩
  have digits := List.append_cancel_left (List.append_cancel_right rest)
  exact ⟨samePath, hex16_inj digits⟩

/-! ## One build -/

/-- Where a `Build` stands that has opened its file. -/
inductive Phase where
  /-- So many bytes are in the file; whether the stream has failed. -/
  | writing (written : Nat) (failed : Bool)
  /-- The file is closed, with every byte in it. -/
  | whole
  /-- The file is to be removed. -/
  | broken
  | returned (ok : Bool)
deriving DecidableEq

namespace Phase

def unfinished : Phase -> Bool
  | .returned _ => false
  | _ => true

/-- What is in the file for certain. -/
def content (bytes : Text) : Phase -> Option Text
  | .writing written _ => some (bytes.take written)
  | .whole => some bytes
  | _ => none

end Phase

/-- A call of `Build` from the opening of its file on. -/
structure BuildCall where
  path : Text
  tag : UInt64
  /-- What it is to write. -/
  bytes : Text
  file : Nat
  phase : Phase

inductive BuildEvent where
  /-- The stream passes on some of its bytes. -/
  | write (count : Nat)
  | fail
  /-- `close`, and whether the rest could be flushed. -/
  | close (flushes : Bool)
  /-- `ReplaceFile`, and whether the rename succeeds. -/
  | replace (renames : Bool)
  /-- `discard_tmp`, and whether there was a removal. -/
  | discard (removes : Bool)

/-- The volume of the caches. -/
abbrev CacheVolume : Type := Volume Text UInt8

namespace BuildCall

/-- `tmp_path`. -/
def tmpPath (call : BuildCall) : Text :=
  tempPathFor call.path call.tag

/-- The rest of `Build`, from the first write. -/
def step (volume : CacheVolume) (call : BuildCall) (event : BuildEvent) : Option (CacheVolume × Phase) :=
  match event, call.phase with
  | .write count, .writing written false =>
      some (volume.append call.file ((call.bytes.drop written).take count), .writing (written + count) false)
  | .fail, .writing written _ => some (volume, .writing written true)
  | .close true, .writing written false => some (volume.append call.file (call.bytes.drop written), .whole)
  | .close false, .writing _ _ => some (volume, .broken)
  | .replace true, .whole => some (volume.rename call.tmpPath call.path, .returned true)
  | .replace false, .whole => some (volume, .broken)
  | .discard true, .broken => some (volume.remove call.tmpPath, .returned false)
  | .discard false, .broken => some (volume, .returned false)
  | _, _ => none

/-- A call that has not returned has its file for itself, and what it has written is in it. -/
structure Held (volume : CacheVolume) (call : BuildCall) : Prop where
  owns : call.phase.unfinished = true -> volume.Owns call.tmpPath call.file
  content : forall content, call.phase.content call.bytes = some content ->
    volume.files[call.file]? = some content

variable {volume after : CacheVolume} {call : BuildCall} {event : BuildEvent} {phase : Phase}

/-- Everything a step does: it keeps to the file and its two names, and the
cache changes only when the call returns, into the whole file. -/
theorem advance (held : Held volume call) (apart : call.path ≠ call.tmpPath)
    (taken : call.step volume event = some (after, phase)) :
    call.phase.unfinished = true ∧ Volume.Confined call.tmpPath call.path call.file volume after ∧
      Held after { call with phase := phase } ∧
      after.read call.path = if phase = .returned true then some call.bytes else volume.read call.path := by
  have owns := held.owns
  have content := held.content
  unfold step at taken
  split at taken
  case h_1 count written known =>
    cases taken
    rw [known] at owns content
    have own := owns rfl
    refine ⟨by rw [known]; rfl, .append, ⟨fun _ => own, ?_⟩, ?_⟩
    · rintro _ ⟨⟩
      rw [Volume.getElem?_append, if_pos rfl, content _ rfl, List.take_add]
      rfl
    · exact Volume.read_append (own.ne apart)
  case h_2 written failed known =>
    cases taken
    rw [known] at owns content
    exact ⟨by rw [known]; rfl, .refl, ⟨fun _ => owns rfl, content⟩, rfl⟩
  case h_3 written known =>
    cases taken
    rw [known] at owns content
    have own := owns rfl
    refine ⟨by rw [known]; rfl, .append, ⟨fun _ => own, ?_⟩, ?_⟩
    · rintro _ ⟨⟩
      rw [Volume.getElem?_append, if_pos rfl, content _ rfl, Option.map_some, List.take_append_drop]
    · exact Volume.read_append (own.ne apart)
  case h_4 written failed known =>
    cases taken
    rw [known] at owns
    exact ⟨by rw [known]; rfl, .refl, ⟨fun _ => owns rfl, nofun⟩, rfl⟩
  case h_5 known =>
    cases taken
    rw [known] at owns content
    have leads := (owns rfl).names
    refine ⟨by rw [known]; rfl, .rename leads apart, ⟨nofun, nofun⟩, ?_⟩
    rw [if_pos rfl, Volume.read_rename leads, if_neg apart, if_pos rfl]
    exact content _ rfl
  case h_6 known =>
    cases taken
    rw [known] at owns
    exact ⟨by rw [known]; rfl, .refl, ⟨fun _ => owns rfl, nofun⟩, rfl⟩
  case h_7 known =>
    cases taken
    exact ⟨by rw [known]; rfl, .remove apart, ⟨nofun, nofun⟩, Volume.read_remove apart⟩
  case h_8 known =>
    cases taken
    exact ⟨by rw [known]; rfl, .refl, ⟨nofun, nofun⟩, rfl⟩
  case h_9 => cases taken

end BuildCall

/-! ## All builds and readers -/

/-- An open cache. -/
structure CacheReader where
  path : Text
  file : Nat
  /-- What was in the file when it was opened. -/
  seen : Text

structure CacheStore where
  volume : CacheVolume
  calls : List BuildCall
  readers : List CacheReader
  /-- The caches that were replaced, with what they were replaced by, newest first. -/
  log : List (Text × Text)

inductive StoreEvent where
  /-- A `Build` gets to its file, and can open it or not. -/
  | begin (path : Text) (tag : UInt64) (input : BuildInput) (opens : Bool)
  | call (index : Nat) (event : BuildEvent)
  /-- A reader opens a cache. -/
  | open_ (path : Text)

namespace StoreEvent

/-- The cache and the tag of a build. -/
def begun : StoreEvent -> Option (Text × UInt64)
  | .begin path tag _ _ => some (path, tag)
  | _ => none

end StoreEvent

namespace CacheStore

/-- Before the first build. -/
def ofVolume (volume : CacheVolume) : CacheStore :=
  ⟨volume, [], [], []⟩

/-- The opening of the temporary file. -/
def begin (path : Text) (tag : UInt64) (bytes : Text) (store : CacheStore) : Option CacheStore :=
  let volume := store.volume.create (tempPathFor path tag)
  (volume.names (tempPathFor path tag)).map fun file =>
    { store with
      volume := volume
      calls := store.calls ++ [⟨path, tag, bytes, file, .writing 0 false⟩] }

/-- A call has come to a phase. -/
def settle (index : Nat) (call : BuildCall) (volume : CacheVolume) (phase : Phase) (store : CacheStore) :
    CacheStore :=
  { store with
    volume := volume
    calls := store.calls.set index { call with phase := phase }
    log := if phase = .returned true then (call.path, call.bytes) :: store.log else store.log }

def step (store : CacheStore) : StoreEvent -> Option CacheStore
  | .begin path tag input opens =>
      match build input with
      | .error _ => some store
      | .ok bytes => if opens then store.begin path tag bytes else some store
  | .call index event =>
      store.calls[index]?.bind fun call => (call.step store.volume event).map fun (volume, phase) =>
        store.settle index call volume phase
  | .open_ path =>
      match store.volume.names path with
      | none => some store
      | some file => store.volume.files[file]?.map fun seen =>
          { store with readers := store.readers ++ [⟨path, file, seen⟩] }

end CacheStore

/-! ## What every run keeps -/

/-- The tags are new: no build has drawn the tag of another one of the same
cache or of a file that is there, nor replaces the temporary file of another. -/
structure Tagged (initial : CacheVolume) (events : List StoreEvent) : Prop where
  distinct : (events.filterMap StoreEvent.begun).Nodup
  fresh : forall path tag, (path, tag) ∈ events.filterMap StoreEvent.begun ->
    initial.names (tempPathFor path tag) = none
  apart : forall path tag other another, (path, tag) ∈ events.filterMap StoreEvent.begun ->
    (other, another) ∈ events.filterMap StoreEvent.begun -> path ≠ tempPathFor other another

/-- The name is the temporary file of a build. -/
def Temporary (events : List StoreEvent) (name : Text) : Prop :=
  exists path tag, (path, tag) ∈ events.filterMap StoreEvent.begun ∧ name = tempPathFor path tag

/-- A build of this cache set out to write these bytes. -/
def Began (events : List StoreEvent) (path bytes : Text) : Prop :=
  exists tag input, .begin path tag input true ∈ events ∧ build input = .ok bytes

theorem Began.mono {events more : List StoreEvent} {path bytes : Text} (began : Began events path bytes) :
    Began (events ++ more) path bytes := by
  rcases began with ⟨tag, input, among, built⟩
  exact ⟨tag, input, List.mem_append_left more among, built⟩

/-- A call under way, or one that has returned. -/
structure Called (temporary : Text -> Prop) (past : List StoreEvent) (volume : CacheVolume) (call : BuildCall) :
    Prop where
  began : Began past call.path call.bytes
  begun : (call.path, call.tag) ∈ past.filterMap StoreEvent.begun
  isTemporary : temporary call.tmpPath
  settled : ¬ temporary call.path
  held : call.Held volume

/-- The invariant after some events of a run. -/
structure Consistent (temporary : Text -> Prop) (initial : CacheVolume) (past : List StoreEvent)
    (store : CacheStore) : Prop where
  sound : store.volume.Sound
  /-- A temporary file is not there before its build. -/
  free : forall path tag, temporary (tempPathFor path tag) -> (path, tag) ∉ past.filterMap StoreEvent.begun ->
    store.volume.names (tempPathFor path tag) = none
  calls : forall (index : Nat) call, store.calls[index]? = some call -> Called temporary past store.volume call
  distinct : forall (index another : Nat) call other, store.calls[index]? = some call ->
    store.calls[another]? = some other -> call.tmpPath = other.tmpPath -> index = another
  current : forall path, ¬ temporary path -> store.volume.read path = (store.log.lookup path).or (initial.read path)
  logged : forall path bytes, (path, bytes) ∈ store.log -> Began past path bytes
  readers : forall reader, reader ∈ store.readers -> ¬ temporary reader.path ->
    store.volume.files[reader.file]? = some reader.seen ∧
      forall (index : Nat) call, store.calls[index]? = some call -> call.phase.unfinished = true ->
        reader.file ≠ call.file

section Runs

variable {temporary : Text -> Prop} {initial : CacheVolume} {past : List StoreEvent} {store after : CacheStore}

theorem filterMap_begun_append (past : List StoreEvent) (event : StoreEvent) :
    (past ++ [event]).filterMap StoreEvent.begun =
      past.filterMap StoreEvent.begun ++ event.begun.toList := by
  rw [List.filterMap_append, List.filterMap_cons, List.filterMap_nil]
  cases event.begun <;> rfl

theorem consistent_initial (sound : initial.Sound)
    (fresh : forall path tag, temporary (tempPathFor path tag) -> initial.names (tempPathFor path tag) = none) :
    Consistent temporary initial [] (.ofVolume initial) where
  sound := sound
  free := fun path tag isTemporary _ => fresh path tag isTemporary
  calls := by simp [CacheStore.ofVolume]
  distinct := by simp [CacheStore.ofVolume]
  current := fun _ _ => rfl
  logged := by simp [CacheStore.ofVolume]
  readers := by simp [CacheStore.ofVolume]

namespace Consistent

/-- An event that changes nothing. -/
theorem idle (consistent : Consistent temporary initial past store) (event : StoreEvent) :
    Consistent temporary initial (past ++ [event]) store where
  sound := consistent.sound
  free := by
    intro path tag isTemporary unbegun
    apply consistent.free path tag isTemporary
    intro begun
    rw [filterMap_begun_append] at unbegun
    exact unbegun (List.mem_append_left _ begun)
  calls := by
    intro index call found
    have called := consistent.calls index call found
    refine { called with began := called.began.mono, begun := ?_ }
    rw [filterMap_begun_append]
    exact List.mem_append_left _ called.begun
  distinct := consistent.distinct
  current := consistent.current
  logged := fun path bytes among => (consistent.logged path bytes among).mono
  readers := consistent.readers

/-- A reader opens the file a name leads to. -/
theorem opened (consistent : Consistent temporary initial past store) {path seen : Text} {file : Nat}
    (leads : store.volume.names path = some file) (known : store.volume.files[file]? = some seen) :
    Consistent temporary initial past { store with readers := store.readers ++ [⟨path, file, seen⟩] } where
  sound := consistent.sound
  free := consistent.free
  calls := consistent.calls
  distinct := consistent.distinct
  current := consistent.current
  logged := consistent.logged
  readers := by
    intro reader among settled
    rcases List.mem_append.mp among with among | among
    · exact consistent.readers reader among settled
    · rw [List.mem_singleton] at among
      subst among
      refine ⟨known, ?_⟩
      rintro index call found unfinished rfl
      have called := consistent.calls index call found
      -- Only the temporary name leads to the file of a call.
      have same := (called.held.owns unfinished path).mp leads
      exact settled (same ▸ called.isTemporary)

/-- A build opens its temporary file. -/
theorem begun (consistent : Consistent temporary initial past store) {path bytes : Text} {tag : UInt64}
    {input : BuildInput} (built : build input = .ok bytes) (isTemporary : temporary (tempPathFor path tag))
    (settled : ¬ temporary path) (unbegun : (path, tag) ∉ past.filterMap StoreEvent.begun)
    (taken : store.begin path tag bytes = some after) :
    Consistent temporary initial (past ++ [.begin path tag input true]) after := by
  have free := consistent.free path tag isTemporary unbegun
  have own := Volume.owns_create consistent.sound free
  simp only [CacheStore.begin, own.names, Option.map_some, Option.some.injEq] at taken
  subst taken
  have idle := consistent.idle (.begin path tag input true)
  have begun : (path, tag) ∈ (past ++ [StoreEvent.begin path tag input true]).filterMap StoreEvent.begun := by
    rw [filterMap_begun_append]
    exact List.mem_append_right _ List.mem_cons_self
  have other : forall {index : Nat} {call}, store.calls[index]? = some call ->
      call.tmpPath ≠ tempPathFor path tag := by
    intro index call found same
    rcases tempPathFor_inj same with ⟨samePath, sameTag⟩
    exact unbegun (samePath ▸ sameTag ▸ (consistent.calls index call found).begun)
  constructor
  case sound => exact Volume.sound_create consistent.sound free
  case free =>
    intro path' tag' isTemporary' unbegun'
    rw [Volume.names_create_of_ne free]
    · exact idle.free path' tag' isTemporary' unbegun'
    · intro same
      rcases tempPathFor_inj same with ⟨rfl, rfl⟩
      exact unbegun' begun
  case calls =>
    intro index call found
    rcases getElem?_concat.mp found with found | ⟨_, rfl⟩
    · have called := idle.calls index call found
      refine { called with held := ⟨?_, ?_⟩ }
      · intro unfinished
        have owns := called.held.owns unfinished
        exact owns.create (consistent.sound _ _ owns.names) free
      · exact fun content known => Volume.getElem?_create free (called.held.content content known)
    · refine ⟨⟨tag, input, List.mem_append_right _ List.mem_cons_self, built⟩, begun, isTemporary, settled, ?_⟩
      refine ⟨fun _ => own, ?_⟩
      rintro _ ⟨⟩
      exact Volume.getElem?_created free
  case distinct =>
    intro index another call call' found found' same
    rcases getElem?_concat.mp found with found | ⟨rfl, rfl⟩ <;>
      rcases getElem?_concat.mp found' with found' | ⟨rfl, rfl⟩
    · exact consistent.distinct index another call call' found found' same
    · exact absurd same (other found)
    · exact absurd same.symm (other found')
    · rfl
  case current =>
    intro name settled'
    rw [Volume.read_create consistent.sound free]
    · exact consistent.current name settled'
    · rintro rfl
      exact settled' isTemporary
  case logged => exact idle.logged
  case readers =>
    intro reader among settled'
    rcases consistent.readers reader among settled' with ⟨known, unshared⟩
    refine ⟨Volume.getElem?_create free known, ?_⟩
    intro index call found unfinished
    rcases getElem?_concat.mp found with found | ⟨_, rfl⟩
    · exact unshared index call found unfinished
    · exact (List.getElem?_eq_some_iff.mp known).1.ne

/-- A build takes a step. -/
theorem settle (consistent : Consistent temporary initial past store) {index : Nat} {call : BuildCall}
    (found : store.calls[index]? = some call) {event : BuildEvent} {volume : CacheVolume} {phase : Phase}
    (taken : call.step store.volume event = some (volume, phase)) :
    Consistent temporary initial past (store.settle index call volume phase) := by
  have called := consistent.calls index call found
  have apart : call.path ≠ call.tmpPath := fun same => called.settled (same ▸ called.isTemporary)
  rcases BuildCall.advance called.held apart taken with ⟨unfinished, confined, held, read⟩
  have own := called.held.owns unfinished
  have changed : forall {another : Nat} {other}, (store.calls.set index { call with phase := phase })[another]? =
      some other -> another = index ∧ other = { call with phase := phase } ∨
        another ≠ index ∧ store.calls[another]? = some other := by
    intro another other known
    by_cases same : another = index
    · rw [getElem?_set_of_found found, if_pos same.symm] at known
      cases known
      exact .inl ⟨same, rfl⟩
    · rw [getElem?_set_of_found found, if_neg (Ne.symm same)] at known
      exact .inr ⟨same, known⟩
  have unlike : forall {another : Nat} {other}, another ≠ index -> store.calls[another]? = some other ->
      other.tmpPath ≠ call.tmpPath := by
    intro another other different known same
    exact different (consistent.distinct another index other call known found same)
  have unshared : forall {name}, name ≠ call.tmpPath -> temporary name ->
      forall {file}, store.volume.Owns name file -> volume.Owns name file := by
    intro name different isTemporary file owns
    apply confined.owns own owns different
    rintro rfl
    exact called.settled isTemporary
  constructor
  case sound => exact confined.sound consistent.sound (consistent.sound _ _ own.names)
  case free =>
    intro path tag isTemporary unbegun
    have different : tempPathFor path tag ≠ call.tmpPath := by
      intro same
      rcases tempPathFor_inj same with ⟨rfl, rfl⟩
      exact unbegun called.begun
    have notCache : tempPathFor path tag ≠ call.path := by
      intro same
      exact called.settled (same ▸ isTemporary)
    exact (confined.names _ different notCache).trans (consistent.free path tag isTemporary unbegun)
  case calls =>
    intro another other known
    rcases changed known with ⟨_, rfl⟩ | ⟨different, known⟩
    · exact ⟨called.began, called.begun, called.isTemporary, called.settled, held⟩
    · have others := consistent.calls another other known
      refine { others with held := ⟨?_, ?_⟩ }
      · exact fun unfinished => unshared (unlike different known) others.isTemporary (others.held.owns unfinished)
      · intro content kept
        have before := others.held.content content kept
        refine (confined.files other.file ?_).trans before
        have unfinished : other.phase.unfinished = true := by
          revert kept
          cases other.phase <;> first | exact fun _ => rfl | exact nofun
        rintro same
        have owns := others.held.owns unfinished
        exact owns.ne (unlike different known).symm (same ▸ own.names)
  case distinct =>
    intro one another other other' known known' same
    rcases changed known with ⟨rfl, rfl⟩ | ⟨different, before⟩ <;>
      rcases changed known' with ⟨rfl, rfl⟩ | ⟨different', before'⟩
    · rfl
    · exact absurd same.symm (unlike different' before')
    · exact absurd same (unlike different before)
    · exact consistent.distinct one another other other' before before' same
  case current =>
    intro path settled
    have before := consistent.current path settled
    by_cases cache : path = call.path
    · subst cache
      show volume.read call.path = _
      rw [read, CacheStore.settle]
      dsimp only
      split
      · rw [List.lookup_cons_self]
        rfl
      · exact before
    · have elsewhere : volume.read path = store.volume.read path := by
        apply confined.read own _ cache
        rintro rfl
        exact settled called.isTemporary
      show volume.read path = _
      rw [elsewhere, before, CacheStore.settle]
      dsimp only
      split
      · have other : (path == call.path) = false := by simpa using cache
        rw [List.lookup_cons, other]
      · rfl
  case logged =>
    intro path bytes among
    simp only [CacheStore.settle] at among
    split at among
    · rcases List.mem_cons.mp among with same | among
      · cases same
        exact called.began
      · exact consistent.logged path bytes among
    · exact consistent.logged path bytes among
  case readers =>
    intro reader among settled
    rcases consistent.readers reader among settled with ⟨known, unshared⟩
    refine ⟨(confined.files _ (unshared index call found unfinished)).trans known, ?_⟩
    intro another other known' unfinished'
    rcases changed known' with ⟨_, rfl⟩ | ⟨_, known'⟩
    · exact unshared index call found unfinished
    · exact unshared another other known' unfinished'

/-- An event of a run whose tags are new. -/
theorem step (consistent : Consistent temporary initial past store) {event : StoreEvent}
    (tagged : forall path tag, event.begun = some (path, tag) ->
      temporary (tempPathFor path tag) ∧ ¬ temporary path ∧ (path, tag) ∉ past.filterMap StoreEvent.begun)
    (taken : store.step event = some after) : Consistent temporary initial (past ++ [event]) after := by
  cases event with
  | begin path tag input opens =>
      rcases tagged path tag rfl with ⟨isTemporary, settled, unbegun⟩
      simp only [CacheStore.step] at taken
      split at taken
      case h_1 =>
        cases taken
        exact consistent.idle _
      case h_2 bytes built =>
        cases opens with
        | true => exact consistent.begun built isTemporary settled unbegun taken
        | false =>
            cases taken
            exact consistent.idle _
  | call index event =>
      simp only [CacheStore.step, Option.bind_eq_some_iff, Option.map_eq_some_iff] at taken
      rcases taken with ⟨call, found, ⟨volume, phase⟩, taken, rfl⟩
      exact (consistent.idle _).settle found taken
  | open_ path =>
      simp only [CacheStore.step] at taken
      split at taken
      case h_1 =>
        cases taken
        exact consistent.idle _
      case h_2 file leads =>
        rcases Option.map_eq_some_iff.mp taken with ⟨seen, known, rfl⟩
        exact (consistent.idle _).opened leads known

theorem runs {events : List StoreEvent} (sound : initial.Sound) (tagged : Tagged initial events)
    (ran : BravoFinder.runs CacheStore.step (.ofVolume initial) events = some store) :
    Consistent (Temporary events) initial events store := by
  have all : forall later, events = events ++ later -> Consistent (Temporary events) initial events store := by
    refine runs_induction (fun past store => forall later, events = past ++ later ->
      Consistent (Temporary events) initial past store) ?_ ?_ ran
    · intro _ _
      apply consistent_initial sound
      rintro path tag ⟨path', tag', among, same⟩
      rw [same]
      exact tagged.fresh path' tag' among
    · intro past store event after _ held taken later whole
      rw [List.append_assoc, List.singleton_append] at whole
      refine (held _ whole).step ?_ taken
      intro path tag begun
      have split : events.filterMap StoreEvent.begun =
          past.filterMap StoreEvent.begun ++ (path, tag) :: later.filterMap StoreEvent.begun := by
        rw [whole, List.filterMap_append, List.filterMap_cons_some begun]
      have among : (path, tag) ∈ events.filterMap StoreEvent.begun := by
        rw [split]
        exact List.mem_append_right _ List.mem_cons_self
      refine ⟨⟨path, tag, among, rfl⟩, ?_, ?_⟩
      · rintro ⟨other, another, begun', same⟩
        exact tagged.apart path tag other another among begun' same
      · have distinct := tagged.distinct
        rw [split, List.nodup_middle, List.nodup_cons] at distinct
        exact fun earlier => distinct.1 (List.mem_append_left _ earlier)
  exact all [] (List.append_nil events).symm

end Consistent
end Runs

/-- What there is to see of the caches. -/
structure ReplacesWhole (initial : CacheVolume) (events : List StoreEvent) (store : CacheStore) : Prop where
  /-- A cache is what it was, or what it was last replaced by. -/
  current : forall path, ¬ Temporary events path ->
    store.volume.read path = (store.log.lookup path).or (initial.read path)
  /-- It is only replaced by the whole container of a build. -/
  whole : forall path bytes, (path, bytes) ∈ store.log -> Began events path bytes
  /-- An open cache does not change. -/
  readers : forall reader, reader ∈ store.readers -> ¬ Temporary events reader.path ->
    store.volume.files[reader.file]? = some reader.seen

/-- At every moment of every run, whatever builds are under way, have failed or
have stopped for good: each cache holds what it held at first or the whole
container of the build that replaced it last, so that it is never missing or
half-written, and a reader still reads what was there when it opened it. -/
theorem runs_replacesWhole {initial : CacheVolume} {events : List StoreEvent} {store : CacheStore}
    (sound : initial.Sound) (tagged : Tagged initial events)
    (ran : runs CacheStore.step (.ofVolume initial) events = some store) :
    ReplacesWhole initial events store := by
  have consistent := Consistent.runs sound tagged ran
  constructor
  case current => exact consistent.current
  case whole => exact consistent.logged
  case readers => exact fun reader among settled => (consistent.readers reader among settled).1

def sampleCache : Text := ofString "nav.bfdb"

theorem sampleCache_ne : tempPathFor sampleCache 7 ≠ sampleCache := by decide +kernel

/-- A volume with one cache. -/
def sampleVolume : CacheVolume :=
  ⟨fun name => if name = sampleCache then some 0 else none, [[1, 2, 3]]⟩

/-- A build replaces the cache, which is opened before and after that. -/
def sampleEvents : List StoreEvent :=
  [.begin sampleCache 7 (oneAirport .unknown) true, .call 0 (.write 40), .open_ sampleCache, .call 0 (.close true),
    .call 0 (.replace true), .open_ sampleCache]

theorem runs_replacesWhole_sample :
    exists store, runs CacheStore.step (.ofVolume sampleVolume) sampleEvents = some store ∧
      ReplacesWhole sampleVolume sampleEvents store := by
  rcases build_oneAirport .unknown with ⟨file, _, _, _, built⟩
  have began : (CacheStore.ofVolume sampleVolume).step (.begin sampleCache 7 (oneAirport .unknown) true) =
      (CacheStore.ofVolume sampleVolume).begin sampleCache 7 file.bytes := by
    rw [CacheStore.step, built]
    rfl
  have ran : (runs CacheStore.step (.ofVolume sampleVolume) sampleEvents).isSome := by
    rw [sampleEvents, runs_cons, began]
    simp [CacheStore.begin, CacheStore.step, BuildCall.step, CacheStore.settle, Volume.create, Volume.append,
      Volume.rename, sampleVolume, CacheStore.ofVolume, BuildCall.tmpPath, sampleCache_ne, sampleCache_ne.symm,
      Function.update_apply, runs_cons]
  rcases Option.isSome_iff_exists.mp ran with ⟨store, ran⟩
  refine ⟨store, ran, runs_replacesWhole ?_ ?_ ran⟩
  · intro name file leads
    simp only [sampleVolume] at leads
    split at leads
    · cases leads
      decide
    · cases leads
  · constructor
    · decide
    · intro path tag among
      simp only [sampleEvents, List.filterMap_cons, StoreEvent.begun, List.filterMap_nil, List.mem_singleton] at among
      cases among
      exact if_neg sampleCache_ne
    · intro path tag other another among among'
      simp only [sampleEvents, List.filterMap_cons, StoreEvent.begun, List.filterMap_nil, List.mem_singleton]
        at among among'
      cases among
      cases among'
      exact sampleCache_ne.symm

end UnifiedCache
end BravoFinder
