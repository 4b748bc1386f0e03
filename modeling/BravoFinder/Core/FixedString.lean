import BravoFinder.Core.Result

namespace BravoFinder

/-!
# Fixed-width identifiers

Vertex identifiers and lookup keys are stored inline, with a cap on their
length.  The packed form holds the characters and their number; what follows
them is never read, so a value is its characters, and the caps are kept as
invariants.
-/

/-- An identifier: the code of a point and the ICAO region it lies in. -/
structure Ident where
  ident : Text
  arinc424IcaoCode : Text
deriving DecidableEq

/-- `FixedIdent`. -/
structure FixedIdent where
  ident : Text
  arinc424IcaoCode : Text
  ident_length : ident.length ≤ 7
  arinc424IcaoCode_length : arinc424IcaoCode.length ≤ 3
deriving DecidableEq

namespace FixedIdent

def kIdentCap : Nat := 7
def kArinc424IcaoCodeCap : Nat := 3

/-- `FromParts`: too long a field is an error. -/
def fromParts (id code : Text) : Except Error FixedIdent :=
  if identFits : id.length ≤ 7 then
    if codeFits : code.length ≤ 3 then .ok ⟨id, code, identFits, codeFits⟩
    else .error ⟨.kInvalidArgument, ofString "ARINC 424 ICAO code '" ++ code ++
      ofString "' exceeds FixedIdent::kArinc424IcaoCodeCap (" ++ decimal code.length ++
      ofString " > " ++ decimal kArinc424IcaoCodeCap ++ ofString ")"⟩
  else .error ⟨.kInvalidArgument, ofString "ident '" ++ id ++
    ofString "' exceeds FixedIdent::kIdentCap (" ++ decimal id.length ++ ofString " > " ++
    decimal kIdentCap ++ ofString ")"⟩

/-- `FromIdent`. -/
def fromIdent (id : Ident) : Except Error FixedIdent :=
  fromParts id.ident id.arinc424IcaoCode

/-- `operator<`: by identifier, then by region. -/
def before (first second : FixedIdent) : Bool :=
  decide (first.ident < second.ident) ||
    (first.ident == second.ident && decide (first.arinc424IcaoCode < second.arinc424IcaoCode))

theorem fromParts_self (fixed : FixedIdent) :
    fromParts fixed.ident fixed.arinc424IcaoCode = .ok fixed := by
  rw [fromParts, dif_pos fixed.ident_length, dif_pos fixed.arinc424IcaoCode_length]

theorem parts_of_fromParts {id code : Text} {fixed : FixedIdent} (packed : fromParts id code = .ok fixed) :
    fixed.ident = id ∧ fixed.arinc424IcaoCode = code := by
  unfold fromParts at packed
  split at packed
  · split at packed
    · cases packed
      exact ⟨rfl, rfl⟩
    · cases packed
  · cases packed

end FixedIdent

/-- `FixedName<8>`: a lookup key without a region. -/
structure FixedName8 where
  text : Text
  text_length : text.length ≤ 7
deriving DecidableEq

namespace FixedName8

def kCap : Nat := 7

theorem length_nil : ([] : Text).length ≤ 7 := Nat.zero_le _

/-- The key that is built without a text. -/
def empty : FixedName8 := ⟨[], length_nil⟩

theorem eq_of_text {first second : FixedName8} (same : first.text = second.text) : first = second := by
  cases first
  cases second
  cases same
  rfl

/-- `From`. -/
def ofText (s : Text) : Except Error FixedName8 :=
  if fits : s.length ≤ 7 then .ok ⟨s, fits⟩
  else .error ⟨.kInvalidArgument, ofString "name '" ++ s ++ ofString "' exceeds FixedName::kCap (" ++
    decimal s.length ++ ofString " > " ++ decimal kCap ++ ofString ")"⟩

theorem ofText_self (name : FixedName8) : ofText name.text = .ok name := by
  rw [ofText, dif_pos name.text_length]

theorem text_of_ofText {s : Text} {name : FixedName8} (packed : ofText s = .ok name) : name.text = s := by
  unfold ofText at packed
  split at packed
  · cases packed
    rfl
  · cases packed

end FixedName8
end BravoFinder
