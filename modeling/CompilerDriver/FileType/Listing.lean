import CompilerDriver.Json.Decoding
import CompilerDriver.Text.Column
import CompilerDriver.Json.Writer
import CompilerDriver.Yaml.Writer
/-!
# Stored file types and listings of them

One file type is stored as its name. A list of file types is shown as a table in columns, as JSON or as YAML.
Each form has one record for each type, in the order of the list. The columns of the table are as wide as
their widest entry and stand two spaces apart; the last one is not filled up.
-/

namespace CompilerDriver.FileType

/-! ## One type as JSON -/

/-- The stored form of the type. -/
def toJson (ty : FileType) : Json :=
  .text ty.name

/-- The type stored in the value. -/
def ofJson (value : Json) : Except Json.DecodeError FileType := do
  let name ← Json.decodeText value
  (parse name).mapError .unknownFileType

/-! ## Forms of a listing -/

/-- The form of a listing. -/
inductive Format where
  | table
  | json
  | yaml
  deriving DecidableEq, Repr, Inhabited

namespace Format

/-- Every form. -/
def all : List Format :=
  [.table, .json, .yaml]

/-- The name of the form on a command line. -/
def name : Format → String
  | .table => "table"
  | .json => "json"
  | .yaml => "yaml"

/-- The form with the name. -/
def ofName? (name : String) : Option Format :=
  all.find? (fun format => format.name == name)

end Format

/-! ## A table -/

/-- One line of the table, with a width for each column but the last. -/
def tableLine (nameWidth rawWidth : Nat) (name raw input textual generated description : String) :
    String :=
  Text.padRight nameWidth name ++ "  " ++ Text.padRight rawWidth raw ++ "  "
    ++ Text.padRight 6 input ++ "  " ++ Text.padRight 7 textual ++ "  "
    ++ Text.padRight 10 generated ++ "  " ++ description ++ "\n"

/-- A truth value in a column. -/
def yesNo (value : Bool) : String :=
  if value then "yes" else "no"

/-- The types in columns, below a line of titles. -/
def formatTable (types : List FileType) : String :=
  let nameWidth := Text.widestBytes 4 (types.map name)
  let rawWidth := Text.widestBytes 3 (types.map raw)
  let line := fun (ty : FileType) =>
    tableLine nameWidth rawWidth ty.name ty.raw (yesNo ty.isCompilationInput)
      (yesNo ty.isTextual) (yesNo ty.isGenerated) ty.description
  tableLine nameWidth rawWidth "NAME" "RAW" "SWIFT" "TEXTUAL" "AFTER-LLVM" "DESCRIPTION"
    ++ String.join (types.map line)

/-! ## JSON and YAML -/

/-- The record of a type. -/
def record (ty : FileType) : List (String × Json) :=
  [("name", .text ty.name),
   ("raw", .text ty.raw),
   ("description", .text ty.description),
   ("part_of_swift_compilation", .boolean ty.isCompilationInput),
   ("textual", .boolean ty.isTextual),
   ("after_llvm", .boolean ty.isGenerated)]

/-- The records of the types as a JSON array. -/
def formatJson (types : List FileType) : String :=
  (Json.array (types.map (fun ty => .object ty.record))).indented 0 ++ "\n"

/-- The record of a type as an item of a YAML sequence, whose further lines are indented by two. -/
def yamlItem (ty : FileType) : String :=
  "- " ++ Yaml.writeText 2 "name" ty.name
    ++ "  " ++ Yaml.writeText 2 "raw" ty.raw
    ++ "  " ++ Yaml.writeText 2 "description" ty.description
    ++ "  " ++ Yaml.writeBoolean "part_of_swift_compilation" ty.isCompilationInput
    ++ "  " ++ Yaml.writeBoolean "textual" ty.isTextual
    ++ "  " ++ Yaml.writeBoolean "after_llvm" ty.isGenerated

/-- The records of the types as a YAML sequence. -/
def formatYaml (types : List FileType) : String :=
  if types.isEmpty then "[]\n" else String.join (types.map yamlItem)

/-- The listing of the types in the given form. -/
def list (format : Format) (types : List FileType) : String :=
  match format with
  | .table => formatTable types
  | .json => formatJson types
  | .yaml => formatYaml types

end CompilerDriver.FileType
