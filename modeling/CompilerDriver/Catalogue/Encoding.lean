import CompilerDriver.Catalogue.Occurrence
import CompilerDriver.Json.Decoding
/-!
# Kinds and occurrences as JSON

A kind is stored as its key. An object with that one key and a null is read as well.

An occurrence is stored as an object with its spelling and its argument, and an argument as an object
with a tag and a content, which is left out where there is none. A list of the same two things in this
order is read as well, where the tag has to be a text. Keys without a meaning are skipped. Of two faults
in an object the one in the argument is reported, for objects are visited in the order of their keys.
-/

namespace CompilerDriver

namespace Kind

/-- The stored form of the kind. -/
def toJson (kind : Kind) : Json :=
  .text kind.key

/-- The kind stored in the value. -/
def ofJson (value : Json) : Except Json.DecodeError Kind :=
  Json.decodeCase all key value

end Kind

/-- The four cases of an argument. -/
inductive Argument.Tag where
  | flag
  | value
  | values
  | input
  deriving DecidableEq, Repr

namespace Argument

/-- Every tag, in order. -/
def Tag.all : List Tag :=
  [.flag, .value, .values, .input]

/-- The stored form of the tag. -/
def Tag.key : Tag → String
  | .flag => "flag"
  | .value => "value"
  | .values => "values"
  | .input => "input"

/-- The name of the stored type in error messages. -/
def typeName : String :=
  "OptionArgument"

/-- The stored form of the argument. -/
def toJson : Argument → Json
  | .flag => .object [("kind", .text Tag.flag.key)]
  | .value text => .object [("kind", .text Tag.value.key), ("value", .text text)]
  | .values texts =>
    .object [("kind", .text Tag.values.key), ("value", .array (texts.map .text))]
  | .input path => .object [("kind", .text Tag.input.key), ("value", .text path)]

/-- The argument with the given tag and stored content. -/
def decodeContent (tag : Tag) (content : Json) : Except Json.DecodeError Argument :=
  match tag with
  | .flag => do
    Json.decodeUnit (.unitCase (typeName ++ "::Flag")) content
    return .flag
  | .value => Argument.value <$> Json.decodeText content
  | .values => Argument.values <$> Json.decodeTexts content
  | .input => Argument.input <$> Json.decodeText content

/-- The argument with the given tag and no content, which only a flag can do without. -/
def decodeWithoutContent : Tag → Except Json.DecodeError Argument
  | .flag => .ok .flag
  | _ => .error (.missingField "value")

/-- The argument stored in the members of an object. -/
def ofMembers (members : List (String × Json)) : Except Json.DecodeError Argument :=
  match Json.member? "kind" members with
  | none => .error (.missingField "kind")
  | some stored => do
    let tag ← Json.decodeCase Tag.all Tag.key stored
    match Json.member? "value" members with
    | some content => decodeContent tag content
    | none => decodeWithoutContent tag

/-- The argument stored in the items of a list. -/
def ofItems (items : List Json) : Except Json.DecodeError Argument :=
  match items with
  | [] => .error (.tooFewItems 0 (.tagged typeName))
  | stored :: rest => do
    let tag ← Json.decodeCaseName Tag.all Tag.key stored
    match rest with
    | [] => .error (.tooFewItems 1 (.tagged typeName))
    | content :: left => do
      let argument ← decodeContent tag content
      Json.allItems items.length left argument

/-- The argument stored in the value. -/
def ofJson : Json → Except Json.DecodeError Argument
  | .object members => ofMembers members
  | .array items => ofItems items
  | other => .error (.wrongType other (.tagged typeName))

end Argument

namespace Occurrence

/-- The name of the stored type in error messages. -/
def typeName : String :=
  "ParsedOption"

/-- The stored form of the occurrence. -/
def toJson (occurrence : Occurrence) : Json :=
  .object [("argument", occurrence.argument.toJson), ("option", .text occurrence.option)]

/-- The occurrence stored in the members of an object. -/
def ofMembers (members : List (String × Json)) : Except Json.DecodeError Occurrence := do
  let argument ← (Json.member? "argument" members).mapM Argument.ofJson
  let option ← (Json.member? "option" members).mapM Json.decodeText
  match option, argument with
  | none, _ => throw (.missingField "option")
  | _, none => throw (.missingField "argument")
  | some option, some argument => return ⟨option, argument⟩

/-- The occurrence stored in the items of a list. -/
def ofItems (items : List Json) : Except Json.DecodeError Occurrence :=
  match items with
  | [] => .error (.tooFewItems 0 (.recordOf typeName 2))
  | first :: rest => do
    let option ← Json.decodeText first
    match rest with
    | [] => .error (.tooFewItems 1 (.recordOf typeName 2))
    | second :: left => do
      let argument ← Argument.ofJson second
      Json.allItems items.length left ⟨option, argument⟩

/-- The occurrence stored in the value. -/
def ofJson : Json → Except Json.DecodeError Occurrence
  | .object members => ofMembers members
  | .array items => ofItems items
  | other => .error (.wrongType other (.record typeName))

end Occurrence

end CompilerDriver
