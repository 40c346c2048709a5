import CompilerDriver.Registry.Table
/-!
# Sessions

A session builds an option table step by step. It holds the current table, one saved table, and
generators under names of their own; a catalogue of ready entries stands beside it. Every new
transform gets an origin that no transform of the session had before, while copies, changes of kind and
stored entries keep the origin of what they come from.
-/

namespace CompilerDriver

universe u

/-- Where the generator of an added entry comes from. -/
inductive Source (V : Type u) where
  /-- It is the generator held under the name. -/
  | held (name : String)
  /-- It is made for the entry. -/
  | fresh (recipe : Recipe V)

/-- An entry to be added. -/
structure Addition (V : Type u) where
  spelling : String
  source : Source V
  isAlias : Bool
  isHidden : Bool
  metaVariable : Option String
  helpText : Option String

/-- The entries that a table is collected again from. -/
inductive Selection where
  | canonical
  | aliases
  | hidden
  | shown
  /-- All entries, last first. -/
  | reverse
  /-- Any choice of entries: those at these places, in the order in which the places are named and as often. A
  place past the end has none. -/
  | places (indices : List Nat)
  deriving DecidableEq, Repr

/-- The selected entries of a table. -/
def Selection.entries {V : Type u} (selection : Selection) (table : Table V) : List (Entry V) :=
  match selection with
  | .canonical => table.canonical
  | .aliases => table.aliases
  | .hidden => table.entries.filter (fun entry => entry.isHidden)
  | .shown => table.entries.filter (fun entry => !entry.isHidden)
  | .reverse => table.entries.reverse
  | .places indices => indices.filterMap (table.entries[·]?)

/-- One step of a session. -/
inductive Operation (V : Type u) where
  /-- Makes a generator and holds it. -/
  | make (name : String) (recipe : Recipe V)
  /-- Holds a copy of a held generator. -/
  | duplicate (name source : String)
  /-- Holds the transform of a held generator under another kind. -/
  | rekind (name source : String) (kind : Kind)
  /-- Holds the generator that the current table, or the catalogue, has for a spelling, if any. -/
  | take (name spelling : String) (fromCatalogue : Bool)
  /-- Adds an entry. -/
  | add (addition : Addition V)
  /-- Adds entries. -/
  | extend (additions : List (Addition V))
  /-- Adds the entries that the catalogue has for the spellings, and skips spellings it does not have. -/
  | extendFromCatalogue (spellings : List String)
  /-- Collects the table again from the selected entries. -/
  | keep (selection : Selection)
  /-- Saves the table. -/
  | snapshot
  /-- Goes back to the saved table. -/
  | restore

/-- The state of a session. -/
structure Session (V : Type u) where
  catalogue : Table V
  table : Table V
  saved : Table V
  /-- The held generators, latest first. -/
  held : List (String × Generator V)
  /-- The number of transforms made so far. -/
  made : Nat

namespace Session

variable {V : Type u}

/-- A session that starts from a table. -/
def start (catalogue table : Table V) : Session V :=
  { catalogue, table, saved := .empty, held := [], made := 0 }

/-- The generator held under the name. -/
def held? (session : Session V) (name : String) : Option (Generator V) :=
  (session.held.find? (fun pair => pair.1 == name)).map (·.2)

/-- Holds a generator under a name, in place of any other. -/
def hold (session : Session V) (name : String) (generator : Generator V) : Session V :=
  { session with held := (name, generator) :: session.held }

/-- Makes a generator with an origin of its own. -/
def make (session : Session V) (recipe : Recipe V) : Generator V × Session V :=
  (recipe.make (.made session.made), { session with made := session.made + 1 })

/-- The entry that the current table, or the catalogue, has for the spelling. -/
def lookup? (session : Session V) (spelling : String) (fromCatalogue : Bool) : Option (Entry V) :=
  if fromCatalogue then session.catalogue.find? spelling else session.table.find? spelling

/-- The generator of a source, unless nothing is held under its name. -/
def resolve (session : Session V) : Source V → Option (Generator V × Session V)
  | .held name => (session.held? name).map (fun generator => (generator, session))
  | .fresh recipe => some (session.make recipe)

/-- The session after adding an entry. -/
def add (session : Session V) (addition : Addition V) : Option (Session V) := do
  let (generator, session) ← session.resolve addition.source
  let entry : Entry V :=
    { spelling := addition.spelling
      generator
      isAlias := addition.isAlias
      isHidden := addition.isHidden
      metaVariable := addition.metaVariable
      helpText := addition.helpText }
  return { session with table := session.table.push entry }

/-- The session after a step. There is none if the step names a generator that is not held, or a kind
that hands over other content. -/
def step (session : Session V) : Operation V → Option (Session V)
  | .make name recipe =>
    let (generator, session) := session.make recipe
    some (session.hold name generator)
  | .duplicate name source => (session.held? source).map (session.hold name)
  | .rekind name source kind => do
    let generator ← session.held? source
    let generator ← generator.withKind? kind
    return session.hold name generator
  | .take name spelling fromCatalogue =>
    match session.lookup? spelling fromCatalogue with
    | some entry => some (session.hold name entry.generator)
    | none => some session
  | .add addition => session.add addition
  | .extend additions => additions.foldlM add session
  | .extendFromCatalogue spellings =>
    some { session with
      table := session.table.extend (spellings.filterMap session.catalogue.find?) }
  | .keep selection => some { session with table := ⟨selection.entries session.table⟩ }
  | .snapshot => some { session with saved := session.table }
  | .restore => some { session with table := session.saved }

/-- The session after a run of steps. -/
def run (session : Session V) (operations : List (Operation V)) : Option (Session V) :=
  operations.foldlM step session

end Session

end CompilerDriver
