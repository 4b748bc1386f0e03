import Mathlib.Data.List.Basic
import Mathlib.Logic.Function.Basic

namespace BravoFinder

/-!
# Names and files

A volume has files, and names that lead to them.  An open handle is a file, so
it stays where it is when names change.  A file that only one name leads to can
be written without anyone else seeing it, and a rename then hands it over whole.
-/

/-- The files in the order they were made, and the file a name leads to. -/
structure Volume (Name Byte : Type) where
  names : Name -> Option Nat
  files : List (List Byte)

namespace Volume

variable {Name Byte : Type}

/-- What a name leads to. -/
def read (volume : Volume Name Byte) (name : Name) : Option (List Byte) :=
  (volume.names name).bind fun file => volume.files[file]?

/-- Bytes at the end of a file. -/
def append (file : Nat) (bytes : List Byte) (volume : Volume Name Byte) : Volume Name Byte :=
  { volume with files := volume.files.modify file (· ++ bytes) }

section Names

variable [DecidableEq Name]

/-- An empty file of this name: the one it leads to, emptied, or a new one. -/
def create (name : Name) (volume : Volume Name Byte) : Volume Name Byte :=
  match volume.names name with
  | some file => { volume with files := volume.files.set file [] }
  | none => ⟨Function.update volume.names name (some volume.files.length), volume.files ++ [[]]⟩

/-- The target leads where the source led, and the source nowhere. -/
def rename (source target : Name) (volume : Volume Name Byte) : Volume Name Byte :=
  match volume.names source with
  | some file => { volume with names := Function.update (Function.update volume.names target (some file)) source none }
  | none => volume

def remove (name : Name) (volume : Volume Name Byte) : Volume Name Byte :=
  { volume with names := Function.update volume.names name none }

end Names

/-- Every name leads to a file that exists. -/
def Sound (volume : Volume Name Byte) : Prop :=
  forall name file, volume.names name = some file -> file < volume.files.length

/-- This name, and no other, leads to the file. -/
def Owns (volume : Volume Name Byte) (name : Name) (file : Nat) : Prop :=
  forall other, volume.names other = some file ↔ other = name

variable {volume : Volume Name Byte} {name other source target : Name} {file : Nat} {bytes : List Byte}

theorem Owns.names (owns : volume.Owns name file) : volume.names name = some file :=
  (owns name).mpr rfl

theorem Owns.ne (owns : volume.Owns name file) (different : other ≠ name) : volume.names other ≠ some file :=
  mt (owns other).mp different

theorem getElem?_append (another : Nat) :
    (volume.append file bytes).files[another]? =
      if file = another then volume.files[another]?.map (· ++ bytes) else volume.files[another]? := by
  rw [append, List.getElem?_modify]
  split
  · rfl
  · simp

theorem read_append (elsewhere : volume.names name ≠ some file) :
    (volume.append file bytes).read name = volume.read name := by
  show (volume.names name).bind _ = (volume.names name).bind _
  cases leads : volume.names name with
  | none => rfl
  | some another =>
      rw [Option.bind_some, Option.bind_some, getElem?_append, if_neg]
      rintro rfl
      exact elsewhere leads

section Names

variable [DecidableEq Name]

/-! ## Creating and renaming -/

theorem create_of_free (free : volume.names name = none) :
    volume.create name =
      ⟨Function.update volume.names name (some volume.files.length), volume.files ++ [[]]⟩ := by
  rw [create, free]

theorem names_create_self (free : volume.names name = none) :
    (volume.create name).names name = some volume.files.length := by
  rw [create_of_free free]
  exact Function.update_self _ _ _

theorem names_create_of_ne (free : volume.names name = none) (different : other ≠ name) :
    (volume.create name).names other = volume.names other := by
  rw [create_of_free free]
  exact Function.update_of_ne different _ _

theorem length_create (free : volume.names name = none) :
    (volume.create name).files.length = volume.files.length + 1 := by
  rw [create_of_free free]
  exact List.length_append

theorem sound_create (sound : volume.Sound) (free : volume.names name = none) : (volume.create name).Sound := by
  intro other file leads
  rw [length_create free]
  by_cases same : other = name
  · rw [same, names_create_self free] at leads
    cases leads
    exact Nat.lt_succ_self _
  · rw [names_create_of_ne free same] at leads
    exact Nat.lt_succ_of_lt (sound other file leads)

theorem owns_create (sound : volume.Sound) (free : volume.names name = none) :
    (volume.create name).Owns name volume.files.length := by
  intro other
  by_cases same : other = name
  · rw [same, names_create_self free]
    exact iff_of_true rfl rfl
  · rw [names_create_of_ne free same]
    refine iff_of_false ?_ same
    exact fun leads => Nat.lt_irrefl _ (sound other _ leads)

/-- The files that were there keep what they hold. -/
theorem getElem?_create (free : volume.names name = none) (known : volume.files[file]? = some bytes) :
    (volume.create name).files[file]? = some bytes := by
  rw [create_of_free free]
  exact (List.getElem?_append_left (List.getElem?_eq_some_iff.mp known).1).trans known

theorem getElem?_created (free : volume.names name = none) :
    (volume.create name).files[volume.files.length]? = some [] := by
  rw [create_of_free free]
  simp

theorem read_create (sound : volume.Sound) (free : volume.names name = none) (different : other ≠ name) :
    (volume.create name).read other = volume.read other := by
  rw [read, read, names_create_of_ne free different]
  cases leads : volume.names other with
  | none => rfl
  | some file =>
      rw [Option.bind_some, Option.bind_some, create_of_free free]
      exact List.getElem?_append_left (sound other file leads)

theorem Owns.create (owns : volume.Owns other file) (inside : file < volume.files.length)
    (free : volume.names name = none) : (volume.create name).Owns other file := by
  intro another
  by_cases same : another = name
  · subst same
    rw [names_create_self free]
    refine iff_of_false ?_ ?_
    · rintro ⟨⟩
      exact Nat.lt_irrefl _ inside
    · rintro rfl
      cases free.symm.trans owns.names
  · rw [names_create_of_ne free same]
    exact owns another

theorem names_rename (leads : volume.names source = some file) (another : Name) :
    (volume.rename source target).names another =
      if another = source then none else if another = target then some file else volume.names another := by
  rw [rename, leads]
  simp only [Function.update_apply]

theorem files_rename : (volume.rename source target).files = volume.files := by
  unfold rename
  split <;> rfl

theorem read_rename (leads : volume.names source = some file) (another : Name) :
    (volume.rename source target).read another =
      if another = source then none else if another = target then volume.files[file]? else volume.read another := by
  rw [read, names_rename leads, files_rename]
  split_ifs <;> rfl

theorem read_remove (different : other ≠ name) : (volume.remove name).read other = volume.read other := by
  show Option.bind (Function.update volume.names name none other) _ = _
  rw [Function.update_of_ne different]
  rfl

end Names

/-! ## Confined changes -/

/-- Nothing changed but the file, its own name, which may be gone, and the
target, which may lead to the file now. -/
structure Confined (name target : Name) (file : Nat) (volume after : Volume Name Byte) : Prop where
  length : after.files.length = volume.files.length
  files : forall another, another ≠ file -> after.files[another]? = volume.files[another]?
  names : forall other, other ≠ name -> other ≠ target -> after.names other = volume.names other
  own : after.names name = volume.names name ∨ after.names name = none
  target : after.names target = volume.names target ∨ after.names target = some file

namespace Confined

theorem refl : Confined name target file volume volume :=
  ⟨rfl, fun _ _ => rfl, fun _ _ _ => rfl, .inl rfl, .inl rfl⟩

theorem append : Confined name target file volume (volume.append file bytes) where
  length := List.length_modify _ _ _
  files := by
    intro another different
    rw [getElem?_append, if_neg (Ne.symm different)]
  names := fun _ _ _ => rfl
  own := .inl rfl
  target := .inl rfl

section Names

variable [DecidableEq Name]

theorem rename (leads : volume.names name = some file) (different : target ≠ name) :
    Confined name target file volume (volume.rename name target) where
  length := congrArg List.length files_rename
  files := by
    intro another _
    rw [files_rename]
  names := by
    intro other notName notTarget
    rw [names_rename leads, if_neg notName, if_neg notTarget]
  own := by
    rw [names_rename leads, if_pos rfl]
    exact .inr rfl
  target := by
    rw [names_rename leads, if_neg different, if_pos rfl]
    exact .inr rfl

theorem remove (different : target ≠ name) : Confined name target file volume (volume.remove name) where
  length := rfl
  files := fun _ _ => rfl
  names := fun _ notName _ => Function.update_of_ne notName _ _
  own := .inr (Function.update_self _ _ _)
  target := .inl (Function.update_of_ne different _ _)

end Names

variable {after : Volume Name Byte} {another : Nat}

theorem sound (confined : Confined name target file volume after) (sound : volume.Sound)
    (inside : file < volume.files.length) : after.Sound := by
  intro other moved leads
  rw [confined.length]
  by_cases isName : other = name
  · subst isName
    rcases confined.own with same | gone
    · exact sound other moved (same ▸ leads)
    · cases gone.symm.trans leads
  · by_cases isTarget : other = target
    · subst isTarget
      rcases confined.target with same | handed
      · exact sound other moved (same ▸ leads)
      · cases handed.symm.trans leads
        exact inside
    · exact sound other moved (confined.names other isName isTarget ▸ leads)

/-- The owner of another file still owns it. -/
theorem owns (confined : Confined name target file volume after) (own : volume.Owns name file)
    (owns : volume.Owns other another) (notName : other ≠ name) (notTarget : other ≠ target) :
    after.Owns other another := by
  have different : file ≠ another := by
    rintro rfl
    exact owns.ne (Ne.symm notName) own.names
  intro third
  by_cases isName : third = name
  · subst isName
    refine iff_of_false ?_ (Ne.symm notName)
    intro leads
    rcases confined.own with same | gone
    · exact owns.ne (Ne.symm notName) (same ▸ leads)
    · cases gone.symm.trans leads
  · by_cases isTarget : third = target
    · subst isTarget
      refine iff_of_false ?_ (Ne.symm notTarget)
      intro leads
      rcases confined.target with same | handed
      · exact owns.ne (Ne.symm notTarget) (same ▸ leads)
      · cases handed.symm.trans leads
        exact different rfl
    · rw [confined.names third isName isTarget]
      exact owns third

theorem read (confined : Confined name target file volume after) (own : volume.Owns name file)
    (notName : other ≠ name) (notTarget : other ≠ target) : after.read other = volume.read other := by
  rw [Volume.read, Volume.read, confined.names other notName notTarget]
  cases leads : volume.names other with
  | none => rfl
  | some moved =>
      refine confined.files moved ?_
      rintro rfl
      exact own.ne notName leads

end Confined
end Volume
end BravoFinder
