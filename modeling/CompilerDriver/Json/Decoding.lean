import CompilerDriver.FileType.Basic
import CompilerDriver.Json.Basic
/-!
# Decoding JSON values

Why a JSON value does not hold a value of a wanted type, the wording of each cause, and the decoders of
texts, truth values and lists. A decoder reports the first fault it meets.
-/

namespace CompilerDriver.Json

/-- What a decoder wants to find. -/
inductive Wanted where
  | text
  | boolean
  | list
  | unit
  /-- The name of a case, or an object whose one key is that name. -/
  | case
  /-- The name of a case and nothing else. -/
  | caseName
  /-- The missing content of the named case. -/
  | unitCase (name : String)
  /-- The fields of the named record. -/
  | record (name : String)
  /-- The fields of the named record as a list of so many items. -/
  | recordOf (name : String) (fields : Nat)
  /-- The named type, as a tag and a content. -/
  | tagged (name : String)
  deriving DecidableEq, Repr

/-- What is wanted, in words. -/
def Wanted.describe : Wanted → String
  | .text => "a string"
  | .boolean => "a boolean"
  | .list => "a sequence"
  | .unit => "unit"
  | .case => "string or map"
  | .caseName => "variant identifier"
  | .unitCase name => "unit variant " ++ name
  | .record name => "struct " ++ name
  | .recordOf name fields => "struct " ++ name ++ " with " ++ toString fields ++ " elements"
  | .tagged name => "adjacently tagged enum " ++ name

/-- Why a value could not be decoded. -/
inductive DecodeError where
  /-- A value of another type was found. -/
  | wrongType (found : Json) (wanted : Wanted)
  /-- An object that names a case has no key or several. -/
  | notOneKey
  /-- No case has this name. -/
  | unknownCase (name : String) (known : List String)
  /-- A field that is needed is missing. -/
  | missingField (name : String)
  /-- A list ends too early. -/
  | tooFewItems (count : Nat) (wanted : Wanted)
  /-- A list goes on for too long. -/
  | tooManyItems (count : Nat)
  /-- No file type has this name. -/
  | unknownFileType (error : FileType.UnknownName)
  deriving Repr

/-- The text that reports the error. -/
def DecodeError.message : DecodeError → String
  | .wrongType found wanted =>
    "invalid type: " ++ found.describe ++ ", expected " ++ wanted.describe
  | .notOneKey => "invalid value: map, expected map with a single key"
  | .unknownCase name known =>
    "unknown variant `" ++ name ++ "`, expected one of "
      ++ ", ".intercalate (known.map (fun key => "`" ++ key ++ "`"))
  | .missingField name => "missing field `" ++ name ++ "`"
  | .tooFewItems count wanted =>
    "invalid length " ++ toString count ++ ", expected " ++ wanted.describe
  | .tooManyItems count =>
    "invalid length " ++ toString count ++ ", expected fewer elements in array"
  | .unknownFileType error => error.message

/-- The text that the value is. -/
def decodeText : Json → Except DecodeError String
  | text value => .ok value
  | other => .error (.wrongType other .text)

/-- The truth value that the value is. -/
def decodeBoolean : Json → Except DecodeError Bool
  | boolean value => .ok value
  | other => .error (.wrongType other .boolean)

/-- The texts that the items are. -/
def decodeTextItems : List Json → Except DecodeError (List String)
  | [] => .ok []
  | item :: items => do
    let first ← decodeText item
    let rest ← decodeTextItems items
    return first :: rest

/-- The list of texts that the value is. -/
def decodeTexts : Json → Except DecodeError (List String)
  | array items => decodeTextItems items
  | other => .error (.wrongType other .list)

/-- Nothing, which is written as null. -/
def decodeUnit (wanted : Wanted) : Json → Except DecodeError Unit
  | null => .ok ()
  | other => .error (.wrongType other wanted)

/-- The one of the known cases that has the name. -/
def findCase {α : Type} (known : List α) (key : α → String) (name : String) : Except DecodeError α :=
  match known.find? (fun case => key case == name) with
  | some case => .ok case
  | none => .error (.unknownCase name (known.map key))

/-- The one of the known cases that the value names, either as a text or as the one key of an object
whose value is null. -/
def decodeCase {α : Type} (known : List α) (key : α → String) : Json → Except DecodeError α
  | text name => findCase known key name
  | object [(name, content)] => do
    let case ← findCase known key name
    decodeUnit .unit content
    return case
  | object _ => .error .notOneKey
  | other => .error (.wrongType other .case)

/-- The one of the known cases that the value names as a text. -/
def decodeCaseName {α : Type} (known : List α) (key : α → String) : Json → Except DecodeError α
  | text name => findCase known key name
  | other => .error (.wrongType other .caseName)

/-- The result of decoding the items of a list, none of which may be left over. `count` is the number of
all items. -/
def allItems {α : Type} (count : Nat) (left : List Json) (value : α) : Except DecodeError α :=
  if left.isEmpty then .ok value else .error (.tooManyItems count)

end CompilerDriver.Json
