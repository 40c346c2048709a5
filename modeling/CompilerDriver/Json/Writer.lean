import CompilerDriver.Json.Basic
/-!
# Writing JSON

The text of a JSON value, either without any blank or over several lines with two spaces for each level.
Only quotes, backslashes and control characters are escaped.
-/

namespace CompilerDriver.Json

/-- A character as it is written between quotes. -/
def writeChar (c : Char) : List Char :=
  match c with
  | '"' => ['\\', '"']
  | '\\' => ['\\', '\\']
  | '\x08' => ['\\', 'b']
  | '\x0c' => ['\\', 'f']
  | '\n' => ['\\', 'n']
  | '\r' => ['\\', 'r']
  | '\t' => ['\\', 't']
  | c => if c.toNat < 0x20 then '\\' :: 'u' :: Number.hexadecimal 4 c.toNat else [c]

/-- A text with its quotes. -/
def writeText (text : String) : String :=
  String.ofList ('"' :: text.toList.flatMap writeChar ++ ['"'])

/-- The pieces with a separator between each two. -/
def separated (separator : String) : List String → String
  | [] => ""
  | [piece] => piece
  | piece :: pieces => piece ++ separator ++ separated separator pieces

/-- The text of a value that holds no other value. -/
def writeLeaf : Json → String
  | null => "null"
  | boolean value => if value then "true" else "false"
  | integer value => toString value
  | double value => Number.write doubleLayout value
  | text value => writeText value
  | array _ => "[]"
  | object _ => "\x7b\x7d"

mutual

/-- The text of a value in one line. -/
def compact : Json → String
  | array items => "[" ++ separated "," (compactItems items) ++ "]"
  | object members => "\x7b" ++ separated "," (compactMembers members) ++ "\x7d"
  | value => writeLeaf value

/-- The texts of the items of an array in one line each. -/
def compactItems : List Json → List String
  | [] => []
  | item :: items => compact item :: compactItems items

/-- The texts of the members of an object in one line each. -/
def compactMembers : List (String × Json) → List String
  | [] => []
  | (key, value) :: members => (writeText key ++ ":" ++ compact value) :: compactMembers members

end

/-- The start of a line at the given level. -/
def lineStart (level : Nat) : String :=
  "\n" ++ String.ofList (List.replicate (2 * level) ' ')

/-- Lines between two brackets, one level further in than the brackets. -/
def block (first last : String) (level : Nat) (lines : List String) : String :=
  if lines.isEmpty then
    first ++ last
  else
    first ++ lineStart (level + 1) ++ separated ("," ++ lineStart (level + 1)) lines
      ++ lineStart level ++ last

mutual

/-- The text of a value over several lines, whose brackets stand at the given level. -/
def indented (level : Nat) : Json → String
  | array items => block "[" "]" level (indentedItems (level + 1) items)
  | object members => block "\x7b" "\x7d" level (indentedMembers (level + 1) members)
  | value => writeLeaf value

/-- The texts of the items of an array at the given level. -/
def indentedItems (level : Nat) : List Json → List String
  | [] => []
  | item :: items => indented level item :: indentedItems level items

/-- The texts of the members of an object at the given level. -/
def indentedMembers (level : Nat) : List (String × Json) → List String
  | [] => []
  | (key, value) :: members =>
    (writeText key ++ ": " ++ indented level value) :: indentedMembers level members

end

end CompilerDriver.Json
