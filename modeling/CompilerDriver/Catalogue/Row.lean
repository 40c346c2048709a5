import CompilerDriver.Registry.Table
import CompilerDriver.Catalogue.Occurrence
/-!
# Rows of a catalogue

A row describes one entry. It says which option the values of the entry's generator name, or which row the
generator is copied from; the name stands beside the spelling and is not taken from it. Rows become a table in
two steps: each gets the construction behind its generator, and then its entry.
-/

namespace CompilerDriver.Catalogue

/-- Where the generator of a row comes from. -/
inductive Supply where
  /-- It is made for the row, as one of this kind whose values name the option. -/
  | made (kind : Kind) (option : String)
  /-- It is a copy of the one made for the row with the spelling. -/
  | copied (spelling : String)
  deriving DecidableEq, Repr

/-- A row of a catalogue. -/
structure Row where
  spelling : String
  generator : Supply
  isAlias : Bool := false
  isHidden : Bool := false
  /-- The placeholder for the argument in help. -/
  metaVariable : Option String := none
  /-- One line of help. -/
  helpText : Option String := none
  deriving DecidableEq, Repr

/-- The making of a generator for a catalogue. -/
structure Construction where
  /-- How many were made before. -/
  number : Nat
  kind : Kind
  /-- The option that the values name. -/
  option : String
  deriving DecidableEq, Repr

/-- The generator that was made. -/
def Construction.generator (construction : Construction) : Generator Occurrence :=
  (Recipe.naming construction.kind construction.option).make (.row construction.number)

/-- A row and the construction behind its generator. -/
structure Line where
  row : Row
  construction : Construction
  deriving DecidableEq, Repr

/-- The entry of the row, with the generator or a copy of it. -/
def Line.entry (line : Line) : Entry Occurrence :=
  { spelling := line.row.spelling
    generator := line.construction.generator
    isAlias := line.row.isAlias
    isHidden := line.row.isHidden
    metaVariable := line.row.metaVariable
    helpText := line.row.helpText }

/-- The lines of rows after others, for which these generators were made, each under the spelling of its row
and the latest first. A row that copies what was not made before it has no line. -/
def resolveAfter (made : List (String × Construction)) : List Row → List Line
  | [] => []
  | row :: rows =>
    match row.generator with
    | .made kind option =>
      let construction : Construction := ⟨made.length, kind, option⟩
      ⟨row, construction⟩ :: resolveAfter ((row.spelling, construction) :: made) rows
    | .copied spelling =>
      match made.lookup spelling with
      | some construction => ⟨row, construction⟩ :: resolveAfter made rows
      | none => resolveAfter made rows

/-- The table of the lines. -/
def tableOf (lines : List Line) : Table Occurrence :=
  ⟨lines.map Line.entry⟩

end CompilerDriver.Catalogue
