/-!
# Kinds of option

The kind of an option says what an occurrence of it consumes on a command line and so what its value is
made from: nothing, one text, or a list of tokens. A kind has two spellings, one for people (`label`) and
one for stored data (`key`).
-/

namespace CompilerDriver

universe u

/-- What the value of an option is made from. -/
inductive Shape where
  /-- The option stands alone. -/
  | nothing
  /-- One text. -/
  | text
  /-- A list of tokens. -/
  | tokens
  deriving DecidableEq, Repr

/-- The data that a shape stands for. -/
abbrev Shape.Content : Shape → Type
  | .nothing => Unit
  | .text => String
  | .tokens => List String

/-- How an option consumes its argument, in the order of the listing. -/
inductive Kind where
  /-- Presence alone gives the value. -/
  | flag
  /-- The text appended to the spelling. -/
  | joined
  /-- The next token. -/
  | separate
  /-- Every token that is left. -/
  | remaining
  /-- The next token, cut at its commas. -/
  | commaJoined
  /-- The text appended to the spelling if there is any, else the next token. -/
  | joinedOrSeparate
  /-- A positional input. -/
  | input
  deriving DecidableEq, Repr, Inhabited

namespace Kind

/-- Every kind, in order. -/
def all : List Kind :=
  [.flag, .joined, .separate, .remaining, .commaJoined, .joinedOrSeparate, .input]

/-- What the kind hands to the option. -/
def shape : Kind → Shape
  | .flag => .nothing
  | .joined | .separate | .joinedOrSeparate | .input => .text
  | .remaining | .commaJoined => .tokens

/-- The name of the kind in diagnostics. -/
def label : Kind → String
  | .flag => "flag"
  | .joined => "joined"
  | .separate => "separate"
  | .remaining => "remaining"
  | .commaJoined => "comma-joined"
  | .joinedOrSeparate => "joined-or-separate"
  | .input => "input"

/-- The name of the kind in stored data. -/
def key : Kind → String
  | .flag => "flag"
  | .joined => "joined"
  | .separate => "separate"
  | .remaining => "remaining"
  | .commaJoined => "comma_joined"
  | .joinedOrSeparate => "joined_or_separate"
  | .input => "input"

/-- The name of the kind in the summary of a generator. -/
def title : Kind → String
  | .flag => "Flag"
  | .joined => "Joined"
  | .separate => "Separate"
  | .remaining => "Remaining"
  | .commaJoined => "CommaJoined"
  | .joinedOrSeparate => "JoinedOrSeparate"
  | .input => "Input"

/-- The kind with the given key. -/
def ofKey? (key : String) : Option Kind :=
  all.find? (fun kind => kind.key == key)

/-- Whether an occurrence of the option carries an argument of its own. -/
def takesArgument : Kind → Bool
  | .flag | .input => false
  | _ => true

/-- Whether help lists options of this kind: all but positional inputs. -/
def isListed : Kind → Bool
  | .input => false
  | _ => true

end Kind

end CompilerDriver
