import CompilerDriver.Help.Settings
import CompilerDriver.Yaml.Document
import CompilerDriver.Yaml.Writer
/-!
# Help settings as YAML

Settings are a record with up to three known keys, none of them twice. Keys without a meaning are
skipped, whatever their values. A text may be any scalar, however it is written. Settings are written with
all three keys.
-/

namespace CompilerDriver.Help

/-- Why settings cannot be had from a file that was opened. -/
inductive YamlError where
  /-- The bytes are no YAML text that holds settings. -/
  | notSettings
  /-- There are no bytes, for the file cannot be read. -/
  | unreadable
  deriving DecidableEq, Repr

/-- A text that stands for the report of the error. The wording is not that of the YAML reader (serde_yaml), whose
reports tell what is wrong and where. -/
def YamlError.message : YamlError → String
  | .notSettings => "the file holds no help settings"
  | .unreadable => "the file cannot be read"

namespace Settings

/-- The fields that a record has given so far. -/
structure Fields where
  overview : Option String
  usage : Option String
  includeHidden : Option Bool
  deriving DecidableEq, Repr

namespace Fields

/-- No field. -/
def none : Fields :=
  ⟨.none, .none, .none⟩

/-- The fields with one more entry of the record, if it has the right type and is the first of its key. -/
def add? (fields : Fields) (entry : Yaml.Leaf × Yaml.Leaf) : Option Fields := do
  let (key, value) := entry
  match ← key.text? with
  | "overview" =>
    if fields.overview.isSome then failure
    return { fields with overview := some (← value.text?) }
  | "usage" =>
    if fields.usage.isSome then failure
    return { fields with usage := some (← value.text?) }
  | "include_hidden" =>
    if fields.includeHidden.isSome then failure
    return { fields with includeHidden := some (← value.boolean?) }
  | _ => return fields

/-- The fields in a YAML text given as bytes. -/
def ofYaml? (bytes : ByteArray) : Option Fields := do
  let cs ← Yaml.characters? bytes
  let entries ← Yaml.recordOfText? cs
  entries.foldlM add? none

/-- The settings with the given fields. -/
def settings (fields : Fields) : Settings :=
  { overview := fields.overview.getD default.overview
    usage := fields.usage.getD default.usage
    includeHidden := fields.includeHidden.getD default.includeHidden }

end Fields

/-- The settings in a YAML text given as bytes. -/
def ofYaml (bytes : ByteArray) : Except YamlError Settings :=
  match Fields.ofYaml? bytes with
  | some fields => .ok fields.settings
  | none => .error .notSettings

/-- The settings as a YAML text. -/
def toYaml (settings : Settings) : String :=
  Yaml.writeText 0 "overview" settings.overview
    ++ Yaml.writeText 0 "usage" settings.usage
    ++ Yaml.writeBoolean "include_hidden" settings.includeHidden

end Settings

end CompilerDriver.Help
