import CompilerDriver.Catalogue.Rows
import CompilerDriver.CommandLine.Command
import CompilerDriver.Help.Loading
import CompilerDriver.Help.Page
import CompilerDriver.Registry.Finding
/-!
# Running a command

A run gives the texts for the two outputs and the status. It either succeeds and writes its whole result, or
fails and writes only why.
-/

namespace CompilerDriver.CommandLine

/-- What a run writes and how it ends. -/
structure Outcome where
  exitCode : Nat
  output : String
  errors : String
  deriving DecidableEq, Repr

/-- Why a command fails. -/
inductive Failure where
  /-- The settings file gives no settings. -/
  | settings (path : String) (error : Help.FileError)
  /-- No file type has the name. -/
  | unknownFileType (name : String)
  /-- The table breaks rules. -/
  | findings (found : List Finding)
  deriving DecidableEq, Repr

namespace Failure

/-- The lines before the message. -/
def details : Failure → String
  | .findings found => String.join (found.map (fun finding => "  " ++ finding.message ++ "\n"))
  | _ => ""

/-- The text that reports the failure. -/
def message : Failure → String
  | .settings path error => "Failed to load help config '" ++ path ++ "': " ++ error.message
  | .unknownFileType name => "No file type named '" ++ name ++ "'"
  | .findings found => toString found.length ++ " problem(s) in driver option table"

end Failure

namespace Outcome

/-- A run that succeeds. -/
def success (output : String) : Outcome :=
  ⟨0, output, ""⟩

/-- A run that fails. -/
def failure (failure : Failure) : Outcome :=
  ⟨1, "", failure.details ++ "error: " ++ failure.message ++ "\n"⟩

end Outcome

namespace Command

/-- The result of the command, where `read` opens and reads a file. -/
def result (read : String → Except IoError Reading) : Command → Except Failure String
  | options includeHidden settingsPath => do
    let settings ← match settingsPath with
      | none => pure Help.Settings.default
      | some path => (Help.Settings.ofReading (read path)).mapError (Failure.settings path)
    return Help.page driverOptions settings (includeHidden || settings.includeHidden)
  | fileTypes format => return FileType.list format FileType.all
  | lookup name format =>
    match FileType.ofName? name with
    | some ty => return FileType.list format [ty]
    | none => throw (.unknownFileType name)
  | validate =>
    match driverOptions.findings with
    | [] =>
      return "Validated " ++ toString driverOptions.canonical.length ++ " option(s) ("
        ++ toString driverOptions.aliases.length ++ " alias(es)).\n"
    | found => throw (.findings found)

/-- The run of the command. -/
def run (read : String → Except IoError Reading) (command : Command) : Outcome :=
  match command.result read with
  | .ok output => .success output
  | .error failure => .failure failure

end Command

end CompilerDriver.CommandLine
