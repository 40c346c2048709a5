import CompilerDriver.Yaml.Token
/-!
# YAML events

Events are the nodes of the documents of a stream in the order of the text: scalars, aliases, and the
starts and ends of collections.
-/

namespace CompilerDriver.Yaml

/-- The kinds of collection. -/
inductive Collection where
  | sequence
  | mapping
  deriving DecidableEq, Repr

/-- A node of a document, or the end of one. -/
inductive Event where
  | documentStart
  | documentEnd
  | alias (name : List Char)
  | scalar (anchor tag : Option (List Char)) (style : Style) (text : List Char)
  | collectionStart (anchor tag : Option (List Char)) (kind : Collection)
  | collectionEnd
  deriving DecidableEq, Repr

namespace Event

/-- The scalar that stands where nothing is written. -/
def nothing : Event :=
  .scalar none none .plain []

end Event

end CompilerDriver.Yaml
