/-!
# YAML tokens

A YAML text is cut into tokens before it is read as a document. Some tokens stand for characters, others
for a change of indentation.
-/

namespace CompilerDriver.Yaml

/-- The ways to write a scalar. -/
inductive Style where
  | plain
  | singleQuoted
  | doubleQuoted
  | literal
  | folded
  deriving DecidableEq, Repr

/-- A tag as it is written: a handle, which is empty if the tag is given in full, and the rest. -/
structure TagName where
  handle : List Char
  suffix : List Char
  deriving DecidableEq, Repr

/-- A part of a YAML text. -/
inductive Token where
  /-- Indentation begins that makes a block sequence. -/
  | blockSequenceStart
  /-- Indentation begins that makes a block mapping. -/
  | blockMappingStart
  /-- The indentation of a block collection ends. -/
  | blockEnd
  | flowSequenceStart
  | flowSequenceEnd
  | flowMappingStart
  | flowMappingEnd
  /-- The comma between the items of a flow collection. -/
  | flowEntry
  /-- The dash before an item of a block sequence. -/
  | blockEntry
  /-- A key follows. -/
  | key
  /-- The colon before a value. -/
  | value
  | alias (name : List Char)
  | anchor (name : List Char)
  | tag (name : TagName)
  | scalar (style : Style) (text : List Char)
  /-- A directive with the version of the language. -/
  | version (major minor : Nat)
  /-- A directive that gives a meaning to a tag handle. -/
  | tagHandle (handle meaning : List Char)
  | documentStart
  | documentEnd
  deriving DecidableEq, Repr

end CompilerDriver.Yaml
