import CompilerDriver.CommandLine.Arguments
import CompilerDriver.FileType.Listing
/-!
# Commands

The commands of the program and how a command line names them. The first argument is the command, unless it
asks for help.
-/

namespace CompilerDriver.CommandLine

/-- What the program is asked to do. -/
inductive Command where
  /-- Shows the help page of the driver's options, with the settings of a file if one is given. -/
  | options (includeHidden : Bool) (settingsPath : Option String)
  /-- Lists every file type. -/
  | fileTypes (format : FileType.Format)
  /-- Lists the file type with the name. -/
  | lookup (name : String) (format : FileType.Format)
  /-- Checks the table of the driver's options. -/
  | validate
  deriving DecidableEq, Repr

namespace Command

/-- The names of commands that a command line can begin with. -/
inductive Name where
  | options
  | fileTypes
  | lookup
  | validate
  | help
  deriving DecidableEq, Repr

/-- The command with the name. -/
def Name.ofText? : String → Option Name
  | "options" => some .options
  | "file-types" => some .fileTypes
  | "lookup" => some .lookup
  | "validate" => some .validate
  | "help" => some .help
  | _ => none

/-- The option that gives the form of a listing. -/
def formatOption : ValueOption :=
  { name := "format", accepts := fun value => (FileType.Format.ofName? value).isSome }

/-- The option that gives the path of a settings file. -/
def configOption : ValueOption :=
  { name := "config", accepts := fun value => value ≠ "" }

/-- The form that the arguments ask for. -/
def formatOf (arguments : Arguments) : FileType.Format :=
  ((arguments.value? "format").bind FileType.Format.ofName?).getD .table

/-- What help is asked for by name: that of the program or that of one command. -/
def parseHelp : List String → UsageError
  | [] => .helpRequested
  | [name] => if (Name.ofText? name).isSome then .helpRequested else .unknownCommand
  | _ => .unknownCommand

/-- The command with the name and the arguments that follow it. -/
def parseNamed (name : Name) (texts : List String) : Except UsageError Command := do
  match name with
  | .options =>
    let arguments ← Arguments.parse ⟨["hidden"], [configOption], 0⟩ texts
    return .options (arguments.hasFlag "hidden") (arguments.value? "config")
  | .fileTypes =>
    let arguments ← Arguments.parse ⟨[], [formatOption], 0⟩ texts
    return .fileTypes (formatOf arguments)
  | .lookup =>
    let arguments ← Arguments.parse ⟨[], [formatOption], 1⟩ texts
    return .lookup (arguments.positionals.headD "") (formatOf arguments)
  | .validate =>
    let _ ← Arguments.parse ⟨[], [], 0⟩ texts
    return .validate
  | .help => throw (parseHelp texts)

/-- The command that the arguments of the program name. -/
def parse : List String → Except UsageError Command
  | [] => .error .commandMissing
  | text :: rest =>
    match Name.ofText? text with
    | some name => parseNamed name rest
    | none =>
      match Word.ofText text with
      | .separator =>
        match rest with
        | [] => .error .commandMissing
        | text :: _ =>
          if (Name.ofText? text).isSome then .error .unknownArgument else .error .unknownCommand
      | .long "help" none => .error .helpRequested
      | .long "help" (some _) => .error .unneededValue
      | .short 'h' => .error .helpRequested
      | .long _ _ | .short _ => .error .unknownArgument
      | .plain _ => .error .unknownCommand

end Command

end CompilerDriver.CommandLine
