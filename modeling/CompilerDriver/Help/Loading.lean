import CompilerDriver.Files
import CompilerDriver.Help.SettingsYaml
/-!
# Help settings in files

Loading fails with an input error only if the file cannot be opened. Whatever goes wrong once it is open
counts as an error of its content.
-/

namespace CompilerDriver.Help

/-- Why settings cannot be loaded or saved. -/
inductive FileError where
  /-- The file cannot be opened or created. -/
  | io (error : IoError)
  /-- The opened file gives no settings. -/
  | yaml (error : YamlError)
  deriving DecidableEq, Repr

/-- The text that reports the error. -/
def FileError.message : FileError → String
  | .io error => "I/O error: " ++ error.message
  | .yaml error => "YAML error: " ++ error.message

namespace Settings

/-- The settings that the reading of a file gives. -/
def ofReading (reading : Except IoError Reading) : Except FileError Settings :=
  match reading with
  | .error error => .error (.io error)
  | .ok .failed => .error (.yaml .unreadable)
  | .ok (.bytes content) => (ofYaml content).mapError .yaml

/-- The settings in the file with the path. -/
def load (files : Files) (path : String) : Except FileError Settings :=
  ofReading (files.read path)

/-- The files after saving the settings under the path. -/
def save (settings : Settings) (files : Files) (path : String) : Except FileError Files :=
  (files.write path settings.toYaml.toUTF8).mapError .io

end Settings

end CompilerDriver.Help
