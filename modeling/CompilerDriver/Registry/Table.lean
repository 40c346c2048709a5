import CompilerDriver.Registry.Generator
/-!
# Option tables

An option table is the list of the registered options in the order of their registration. Registering
never checks anything: spellings may repeat. `find?` answers the canonical entry of a spelling before any
alias of that spelling.
-/

namespace CompilerDriver

universe u

/-- A registered option. -/
structure Entry (V : Type u) where
  /-- The option as it is typed, dashes included. -/
  spelling : String
  generator : Generator V
  /-- Whether the entry is another spelling of a canonical option. -/
  isAlias : Bool
  /-- Whether help shows the entry only on request. -/
  isHidden : Bool
  /-- The placeholder for the argument in help. -/
  metaVariable : Option String
  /-- One line of help. -/
  helpText : Option String

namespace Entry

variable {V : Type u}

/-- A canonical option. -/
def ofOption (spelling : String) (generator : Generator V) (isHidden : Bool)
    (metaVariable helpText : Option String) : Entry V :=
  { spelling, generator, isAlias := false, isHidden, metaVariable, helpText }

/-- An alias, which has neither placeholder nor help. -/
def ofAlias (spelling : String) (generator : Generator V) (isHidden : Bool) : Entry V :=
  { spelling, generator, isAlias := true, isHidden, metaVariable := none, helpText := none }

/-- The kind of the entry's generator. -/
def kind (entry : Entry V) : Kind :=
  entry.generator.kind

end Entry

/-- The registered options, in order. -/
structure Table (V : Type u) where
  entries : List (Entry V)

namespace Table

variable {V : Type u}

/-- The table without entries. -/
def empty : Table V :=
  ⟨[]⟩

instance : EmptyCollection (Table V) := ⟨empty⟩

/-- Registers one more entry. -/
def push (table : Table V) (entry : Entry V) : Table V :=
  ⟨table.entries ++ [entry]⟩

/-- Registers a canonical option. -/
def addOption (table : Table V) (spelling : String) (generator : Generator V) (isHidden : Bool)
    (metaVariable helpText : Option String) : Table V :=
  table.push (.ofOption spelling generator isHidden metaVariable helpText)

/-- Registers an alias. -/
def addAlias (table : Table V) (spelling : String) (generator : Generator V) (isHidden : Bool) :
    Table V :=
  table.push (.ofAlias spelling generator isHidden)

/-- Registers more entries, as they are. -/
def extend (table : Table V) (more : List (Entry V)) : Table V :=
  ⟨table.entries ++ more⟩

/-- The number of entries, aliases included. -/
def size (table : Table V) : Nat :=
  table.entries.length

/-- The entries that are no aliases. -/
def canonical (table : Table V) : List (Entry V) :=
  table.entries.filter (fun entry => !entry.isAlias)

/-- The aliases. -/
def aliases (table : Table V) : List (Entry V) :=
  table.entries.filter (fun entry => entry.isAlias)

/-- The first canonical entry with the spelling, or else the first alias with it. -/
def find? (table : Table V) (spelling : String) : Option (Entry V) :=
  let named := fun (entry : Entry V) => entry.spelling == spelling
  match table.canonical.find? named with
  | some entry => some entry
  | none => table.aliases.find? named

end Table

end CompilerDriver
