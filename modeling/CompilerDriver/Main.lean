import CompilerDriver.CommandLine.Run
/-!
# The program

The command line as a program: it reads the settings file if the command names one, runs the command, and
writes what the run gives.
-/

namespace CompilerDriver

/-- The error of the file system as an error of this library. Opening a file gives the number of its
error, 36 for a name that is too long, as a negative one in 32 bits. -/
def IoError.ofSystem : IO.Error → IoError
  | .noFileOrDirectory _ _ _ => .notFound
  | .inappropriateType _ _ _ => .notDirectory
  | .permissionDenied _ _ _ => .permissionDenied
  | .invalidArgument _ 4294967260 _ => .nameTooLong
  | error => .other 0 (toString error)

/-- Opens and reads a file. A directory can be opened but not read. -/
def readFile (path : String) : IO (Except IoError Reading) := do
  try
    return .ok (.bytes (← IO.FS.readBinFile path))
  catch
    | .inappropriateType _ 21 _ => return .ok .failed
    | error => return .error (.ofSystem error)

/-- What the program takes, for those who ask or go wrong. -/
def usageText : String :=
  "Usage: driver-options <COMMAND>\n\n"
    ++ "Commands:\n"
    ++ "  options [--hidden] [--config <CONFIG>]\n"
    ++ "  file-types [--format <FORMAT>]\n"
    ++ "  lookup [--format <FORMAT>] <NAME>\n"
    ++ "  validate\n"
    ++ "  help [COMMAND]\n"

/-- Runs a command with the real file system. -/
def perform (command : CommandLine.Command) : IO CommandLine.Outcome := do
  match command with
  | .options _ (some path) =>
    let reading ← readFile path
    return command.run (fun _ => reading)
  | _ => return command.run (fun _ => .error .notFound)

end CompilerDriver

/-- Runs the program with the given arguments. -/
def main (arguments : List String) : IO UInt32 := do
  match CompilerDriver.CommandLine.Command.parse arguments with
  | .ok command =>
    let outcome ← CompilerDriver.perform command
    (← IO.getStdout).putStr outcome.output
    (← IO.getStderr).putStr outcome.errors
    return outcome.exitCode.toUInt32
  | .error error =>
    let stream ← if error.exitCode = 0 then IO.getStdout else IO.getStderr
    stream.putStr CompilerDriver.usageText
    return error.exitCode.toUInt32
