import BravoFinder.Core.Domain
import BravoFinder.Core.Result
import BravoFinder.Library.Lines
import BravoFinder.Library.StringBytes

namespace BravoFinder

/-!
# JSON values

A parsed value keeps the members of an object in order, with repetitions, and a
lookup takes the first.  A number that is no integer is known by its bits.  The
writer is a parameter: what is said of it are its brackets and commas, and that it
breaks no line.
-/

inductive JsonNumber where
  | int (value : Int)
  | double (bits : UInt64)
deriving DecidableEq

inductive Json where
  | null
  | bool (value : Bool)
  | number (value : JsonNumber)
  | string (value : Text)
  | array (elements : List Json)
  | object (members : List (Text × Json))

theorem lineless_joinLines {texts : List Text} (each : forall text, text ∈ texts -> 10 ∉ text) :
    10 ∉ joinLines [44] texts := by
  cases texts with
  | nil => exact List.not_mem_nil
  | cons first rest =>
      rw [joinLines_cons, List.mem_append, List.mem_flatMap]
      rintro (here | ⟨text, member, inside⟩)
      · exact each first List.mem_cons_self here
      · rcases List.mem_append.mp inside with comma | later
        · exact absurd comma (by decide)
        · exact each text (List.mem_cons_of_mem _ member) later

/-- `rapidjson::Writer`: the text of a value that is handed to `Accept`, and of an
array whose elements are handed to `RawValue`. -/
structure JsonWriter where
  write : Json -> Text
  writeArray : List Text -> Text

namespace JsonWriter

/-- An array of raw values is written between brackets, with a comma before each
but the first. -/
def SplicesArrays (writer : JsonWriter) : Prop :=
  forall texts, writer.writeArray texts = [91] ++ joinLines [44] texts ++ [93]

/-- The writer puts no newline, neither between tokens nor in a string. -/
def OnOneLine (writer : JsonWriter) : Prop :=
  forall value, 10 ∉ writer.write value

theorem SplicesArrays.singleton {writer : JsonWriter} (splices : writer.SplicesArrays) (text : Text) :
    writer.writeArray [text] = [91] ++ text ++ [93] :=
  splices [text]

theorem SplicesArrays.lineless {writer : JsonWriter} (splices : writer.SplicesArrays) {texts : List Text}
    (each : forall text, text ∈ texts -> 10 ∉ text) : 10 ∉ writer.writeArray texts := by
  rw [splices]
  simp [lineless_joinLines each]

end JsonWriter

namespace Json

def isObject : Json -> Bool
  | .object _ => true
  | _ => false

/-- `FindMember`: the first of the name, and nothing in a value that is no object. -/
def member? : Json -> Text -> Option Json
  | .object members, key => (members.find? fun entry => entry.1 == key).map Prod.snd
  | _, _ => none

def text? : Json -> Option Text
  | .string value => some value
  | _ => none

/-- A member that is a string. -/
def string? (value : Json) (key : Text) : Option Text :=
  (value.member? key).bind text?

/-- `IsUint` and `GetUint`. -/
def uint? : Json -> Option UInt32
  | .number (.int value) => if 0 ≤ value ∧ value < 2 ^ 32 then some (UInt32.ofNat value.toNat) else none
  | _ => none

/-- Whether a value is a string or a number. -/
def isScalarId : Json -> Bool
  | .string _ => true
  | .number _ => true
  | _ => false

end Json
/-! ## A writer -/

theorem lineless_decimal (value : Nat) : 10 ∉ decimal value := by
  intro member
  have digit : 48 ≤ (10 : UInt8).toNat := (digit_of_mem_toString member).1
  exact absurd digit (by decide)

theorem lineless_toStringInt (value : Int) : 10 ∉ toStringInt value := by
  unfold toStringInt
  split
  · intro member
    rcases List.mem_append.mp member with sign | digit
    · exact absurd sign (by decide +kernel)
    · exact lineless_decimal _ digit
  · exact lineless_decimal _

def hexDigits : Text :=
  ofString "0123456789ABCDEF"

/-- A byte of a string: quotes and backslashes are escaped, and control
characters are written by their code. -/
def plainByte (byte : UInt8) : Text :=
  if byte = 34 ∨ byte = 92 then [92, byte]
  else if byte < 32 then
    ofString "\\u00" ++ [hexDigits.getD (byte / 16).toNat 48, hexDigits.getD (byte % 16).toNat 48]
  else [byte]

def plainString (value : Text) : Text :=
  [34] ++ value.flatMap plainByte ++ [34]

/-- A value without blanks. -/
def plainText : Json -> Text
  | .null => ofString "null"
  | .bool value => if value then ofString "true" else ofString "false"
  | .number (.int value) => toStringInt value
  | .number (.double bits) => decimal bits.toNat
  | .string value => plainString value
  | .array elements => [91] ++ joinLines [44] (plainElements elements) ++ [93]
  | .object members => [123] ++ joinLines [44] (plainMembers members) ++ [125]
where
  plainElements : List Json -> List Text
    | [] => []
    | element :: rest => plainText element :: plainElements rest
  plainMembers : List (Text × Json) -> List Text
    | [] => []
    | (key, value) :: rest => (plainString key ++ [58] ++ plainText value) :: plainMembers rest

def plainWriter : JsonWriter where
  write := plainText
  writeArray texts := [91] ++ joinLines [44] texts ++ [93]

theorem splicesArrays_plainWriter : plainWriter.SplicesArrays :=
  fun _ => rfl

theorem lineless_plainByte (byte : UInt8) : 10 ∉ plainByte byte := by
  have each : forall byte : Fin 256, 10 ∉ plainByte ⟨⟨byte⟩⟩ := by decide +kernel
  exact each byte.toFin

theorem lineless_plainString (value : Text) : 10 ∉ plainString value := by
  have escaped : 10 ∉ value.flatMap plainByte := by
    intro member
    rcases List.mem_flatMap.mp member with ⟨byte, _, inside⟩
    exact lineless_plainByte byte inside
  simp [plainString, escaped]

mutual

/-- A value is written on one line: over the value, its elements and its members. -/
theorem lineless_plainText (value : Json) : 10 ∉ plainText value := by
  cases value with
  | null => decide +kernel
  | bool value => cases value <;> decide +kernel
  | number value =>
      cases value with
      | int value => exact lineless_toStringInt value
      | double bits => exact lineless_decimal bits.toNat
  | string value => exact lineless_plainString value
  | array elements => simp [plainText, lineless_joinLines (lineless_plainElements elements)]
  | object members => simp [plainText, lineless_joinLines (lineless_plainMembers members)]

theorem lineless_plainElements (elements : List Json) :
    forall text, text ∈ plainText.plainElements elements -> 10 ∉ text := by
  cases elements with
  | nil => simp [plainText.plainElements]
  | cons element rest =>
      simp only [plainText.plainElements, List.forall_mem_cons]
      exact ⟨lineless_plainText element, lineless_plainElements rest⟩

theorem lineless_plainMembers (members : List (Text × Json)) :
    forall text, text ∈ plainText.plainMembers members -> 10 ∉ text := by
  cases members with
  | nil => simp [plainText.plainMembers]
  | cons member rest =>
      rcases member with ⟨key, value⟩
      simp only [plainText.plainMembers, List.forall_mem_cons]
      refine ⟨?_, lineless_plainMembers rest⟩
      simp [lineless_plainString key, lineless_plainText value]

end

theorem onOneLine_plainWriter : plainWriter.OnOneLine :=
  lineless_plainText

end BravoFinder
