import CompilerDriver.Registry.Generator
/-!
# Occurrences of options

What the driver keeps of an option found on its command line: the canonical spelling and the argument. A
naming recipe makes the occurrence of one spelling from whatever content its kind hands over, so the
argument carries exactly the material that was given.
-/

namespace CompilerDriver

/-- The argument of an option that was found. -/
inductive Argument where
  /-- The option takes none. -/
  | flag
  /-- One text. -/
  | value (text : String)
  /-- A list of texts. -/
  | values (texts : List String)
  /-- A positional input. -/
  | input (path : String)
  deriving DecidableEq, Repr

/-- An option that was found. -/
structure Occurrence where
  /-- The canonical spelling. -/
  option : String
  argument : Argument
  deriving DecidableEq, Repr

/-- The argument that holds the content of this kind. -/
def Kind.argument : (kind : Kind) → kind.shape.Content → Argument
  | .flag, _ => .flag
  | .joined, text | .separate, text | .joinedOrSeparate, text => .value text
  | .remaining, tokens | .commaJoined, tokens => .values tokens
  | .input, path => .input path

/-- The recipe of this kind whose value names the option and holds the content. -/
def Recipe.naming (kind : Kind) (option : String) : Recipe Occurrence :=
  { kind, transform := fun content => ⟨option, kind.argument content⟩ }

end CompilerDriver
