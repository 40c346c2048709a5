import CompilerDriver.Help.Settings
import CompilerDriver.Json.Decoding
/-!
# Help settings as JSON

Settings are stored as an object. What is missing keeps its default and keys without a meaning are
skipped. A list of the three values in order is read as well, and may end early.
-/

namespace CompilerDriver.Help.Settings

/-- The stored form of the settings. -/
def toJson (settings : Settings) : Json :=
  .object
    [("include_hidden", .boolean settings.includeHidden),
     ("overview", .text settings.overview),
     ("usage", .text settings.usage)]

/-- The settings stored in the members of an object, which are visited in the order of their keys. -/
def ofMembers (members : List (String × Json)) : Except Json.DecodeError Settings := do
  let includeHidden ← (Json.member? "include_hidden" members).mapM Json.decodeBoolean
  let overview ← (Json.member? "overview" members).mapM Json.decodeText
  let usage ← (Json.member? "usage" members).mapM Json.decodeText
  return {
    overview := overview.getD default.overview
    usage := usage.getD default.usage
    includeHidden := includeHidden.getD default.includeHidden }

/-- The settings stored in the items of a list. -/
def ofItems (items : List Json) : Except Json.DecodeError Settings := do
  let overview ← items[0]?.mapM Json.decodeText
  let usage ← items[1]?.mapM Json.decodeText
  let includeHidden ← items[2]?.mapM Json.decodeBoolean
  Json.allItems items.length (items.drop 3) {
    overview := overview.getD default.overview
    usage := usage.getD default.usage
    includeHidden := includeHidden.getD default.includeHidden }

/-- The settings stored in the value. -/
def ofJson : Json → Except Json.DecodeError Settings
  | .object members => ofMembers members
  | .array items => ofItems items
  | other => .error (.wrongType other (.record "HelpConfig"))

end CompilerDriver.Help.Settings
