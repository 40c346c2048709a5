/-!
# The arguments of a command

A command declares flags, options with a value, and a number of positional arguments. Arguments are read
from left to right. A value that stands apart from its option, and a positional argument, are held back and
checked only when the next argument that the command knows comes, or at the end; so of two faults the one
that is found first is not always the one further left.
-/

namespace CompilerDriver.CommandLine

/-- Why a command line is rejected, or that it asks for help. -/
inductive UsageError where
  /-- Help was asked for. -/
  | helpRequested
  /-- There is no command at all. -/
  | commandMissing
  /-- There is no command of that name. -/
  | unknownCommand
  /-- The command does not know the argument or takes no more positional ones. -/
  | unknownArgument
  /-- The value of an option is missing or not acceptable. -/
  | invalidValue
  /-- A positional argument is missing. -/
  | argumentMissing
  /-- An option or flag was given twice. -/
  | repeated
  /-- A flag was given a value. -/
  | unneededValue
  deriving DecidableEq, Repr

/-- The status that the program ends with: only help that was asked for is no failure. -/
def UsageError.exitCode : UsageError → Nat
  | .helpRequested => 0
  | _ => 2

/-- An option with a value. -/
structure ValueOption where
  name : String
  accepts : String → Bool

/-- What a command takes. -/
structure Declaration where
  flags : List String
  options : List ValueOption
  /-- How many positional arguments there have to be. -/
  positionals : Nat

/-- What the arguments of a command say. -/
structure Arguments where
  flags : List String
  /-- The values of the options given. -/
  values : List (String × String)
  positionals : List String
  deriving DecidableEq, Repr

namespace Arguments

/-- No arguments. -/
def none : Arguments :=
  ⟨[], [], []⟩

/-- Whether the flag was given. -/
def hasFlag (arguments : Arguments) (name : String) : Bool :=
  arguments.flags.contains name

/-- The value of an option. -/
def value? (arguments : Arguments) (name : String) : Option String :=
  (arguments.values.find? (fun pair => pair.1 == name)).map (·.2)

end Arguments

/-! ## Words -/

/-- The parts that an argument can be seen as. -/
inductive Word where
  /-- Two dashes: what follows is positional. -/
  | separator
  /-- A long name and the value joined to it. -/
  | long (name : String) (value : Option String)
  /-- Letters behind one dash, of which the first is known apart. -/
  | short (first : Char)
  | plain (text : String)
  deriving DecidableEq, Repr

/-- The argument as a word. A single dash is plain. -/
def Word.ofText (text : String) : Word :=
  match text.toList with
  | ['-', '-'] => .separator
  | '-' :: '-' :: rest =>
    let name := String.ofList (rest.takeWhile (· ≠ '='))
    match rest.dropWhile (· ≠ '=') with
    | [] => .long name none
    | _ :: value => .long name (some (String.ofList value))
  | '-' :: first :: _ => .short first
  | _ => .plain text

/-! ## Reading -/

/-- An argument that is held back. -/
inductive Held where
  | nothing
  /-- An option and its value, unless that is still to come. -/
  | option (name : String) (value : Option String)
  | positional (text : String)
  deriving DecidableEq, Repr

/-- The state of reading. -/
structure Reader where
  arguments : Arguments
  held : Held
  /-- Whether all that follows is positional. -/
  afterSeparator : Bool

namespace Reader

/-- The reader before the first argument. -/
def start : Reader :=
  { arguments := .none, held := .nothing, afterSeparator := false }

/-- Adds an option with its value, which must be the first of its name and acceptable. -/
def addValue (declaration : Declaration) (r : Reader) (name value : String) :
    Except UsageError Reader :=
  if (r.arguments.value? name).isSome then
    .error .repeated
  else if declaration.options.any (fun option => option.name == name && option.accepts value) then
    .ok { r with arguments := { r.arguments with values := (name, value) :: r.arguments.values } }
  else
    .error .invalidValue

/-- Checks and adds what is held back. -/
def settle (declaration : Declaration) (r : Reader) : Except UsageError Reader :=
  let settled := { r with held := .nothing }
  match r.held with
  | .nothing => .ok settled
  | .option _ none => .error .invalidValue
  | .option name (some value) => settled.addValue declaration name value
  | .positional text =>
    .ok { settled with
      arguments :=
        { r.arguments with positionals := r.arguments.positionals ++ [text] } }

/-- The number of positional arguments so far. -/
def positionalCount (r : Reader) : Nat :=
  r.arguments.positionals.length
    + match r.held with
      | .positional _ => 1
      | _ => 0

/-- The reader after a positional argument. -/
def positional (declaration : Declaration) (r : Reader) (text : String) :
    Except UsageError Reader :=
  if r.positionalCount < declaration.positionals then do
    let r ← r.settle declaration
    return { r with held := .positional text }
  else
    throw .unknownArgument

/-- The reader after a long name. -/
def long (declaration : Declaration) (r : Reader) (name : String) (value : Option String) :
    Except UsageError Reader := do
  if declaration.options.any (fun option => option.name == name) then
    let r ← r.settle declaration
    match value with
    | some value => r.addValue declaration name value
    | none => return { r with held := .option name none }
  else if name = "help" ∨ name ∈ declaration.flags then
    if value.isSome then
      throw .unneededValue
    let r ← r.settle declaration
    if name = "help" then
      throw .helpRequested
    if r.arguments.hasFlag name then
      throw .repeated
    return { r with arguments := { r.arguments with flags := name :: r.arguments.flags } }
  else
    throw .unknownArgument

/-- The reader after one more argument. -/
def step (declaration : Declaration) (r : Reader) (text : String) : Except UsageError Reader :=
  if r.afterSeparator then
    r.positional declaration text
  else
    match Word.ofText text with
    | .separator => .ok { r with afterSeparator := true }
    | .long name value => r.long declaration name value
    | .short first => do
      if first ≠ 'h' then
        throw .unknownArgument
      let _ ← r.settle declaration
      throw .helpRequested
    | .plain text =>
      match r.held with
      | .option name none => .ok { r with held := .option name (some text) }
      | _ => r.positional declaration text

end Reader

/-- What the arguments say to a command with the declaration. -/
def Arguments.parse (declaration : Declaration) (texts : List String) :
    Except UsageError Arguments := do
  let r ← texts.foldlM (Reader.step declaration) Reader.start
  let r ← r.settle declaration
  if r.arguments.positionals.length < declaration.positionals then
    throw .argumentMissing
  return r.arguments

end CompilerDriver.CommandLine
