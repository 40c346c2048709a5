import CompilerDriver.Registry.Table
/-!
# Findings about a table

The structural rules for a table: no spelling is empty, a spelling starts with a dash unless it marks
positional inputs, no spelling repeats, an alias carries no help of its own, and an alias shares the
transform of some canonical option of its kind. Each breach is a finding about one entry. Findings come
in the order of the entries.
-/

namespace CompilerDriver

universe u

/-- A breach of the rules for tables, with the spelling of the entry at fault. -/
inductive Finding where
  /-- The spelling is empty. -/
  | emptySpelling
  /-- The spelling does not start with a dash. -/
  | missingPrefix (spelling : String)
  /-- An earlier entry has the same spelling. -/
  | duplicateSpelling (spelling : String)
  /-- No canonical option shares the alias's transform. -/
  | orphanAlias (spelling : String)
  /-- The alias has a placeholder or help. -/
  | aliasWithHelp (spelling : String)
  deriving DecidableEq, Repr

/-- The text that reports the finding. -/
def Finding.message : Finding → String
  | .emptySpelling => "option spelling cannot be empty"
  | .missingPrefix spelling => "option spelling must start with '-': " ++ spelling
  | .duplicateSpelling spelling => "duplicate option spelling: " ++ spelling
  | .orphanAlias spelling => "alias has no canonical option: " ++ spelling
  | .aliasWithHelp spelling => "alias carries help metadata: " ++ spelling

namespace Entry

variable {V : Type u}

/-- Whether the entry is a named option whose spelling lacks the leading dash. -/
def lacksDash (entry : Entry V) : Bool :=
  entry.kind != .input && entry.spelling.toList.head? != some '-'

/-- Whether the entry has a placeholder or help. -/
def hasHelp (entry : Entry V) : Bool :=
  entry.metaVariable.isSome || entry.helpText.isSome

/-- The findings about one entry, given the spellings before it and the canonical options of its table.
An empty spelling is a finding that leaves nothing else to say. -/
def findings (entry : Entry V) (earlier : List String) (canonical : List (Entry V)) : List Finding :=
  if entry.spelling = "" then
    [.emptySpelling]
  else
    let owned := canonical.any (fun option => option.generator.sharesTransform entry.generator)
    (if entry.lacksDash then [.missingPrefix entry.spelling] else [])
      ++ (if entry.spelling ∈ earlier then [.duplicateSpelling entry.spelling] else [])
      ++ (if entry.isAlias && entry.hasHelp then [.aliasWithHelp entry.spelling] else [])
      ++ (if entry.isAlias && !owned then [.orphanAlias entry.spelling] else [])

end Entry

namespace Table

variable {V : Type u}

/-- The findings about a run of entries that follows the entries with the given spellings. -/
def findingsFrom (canonical : List (Entry V)) : List String → List (Entry V) → List Finding
  | _, [] => []
  | earlier, entry :: rest =>
    entry.findings earlier canonical ++ findingsFrom canonical (entry.spelling :: earlier) rest

/-- Every finding about the table, in the order of its entries. -/
def findings (table : Table V) : List Finding :=
  findingsFrom table.canonical [] table.entries

end Table

end CompilerDriver
