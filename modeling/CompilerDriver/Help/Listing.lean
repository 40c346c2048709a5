import CompilerDriver.Registry.Table
import CompilerDriver.Text.Lowercase
/-!
# The options that help lists

Help lists the canonical options that have help text, positional inputs apart, and hidden ones only on
request. They stand in the order of their spellings without leading dashes and in lowercase, compared
character by character; options with equal keys keep the order of their registration.
-/

namespace CompilerDriver.Help

universe u

/-- The key that a spelling is ordered by. -/
def sortKey (spelling : String) : String :=
  Text.lowercase (String.ofList (spelling.toList.dropWhile (· == '-')))

/-- An option together with the text that help shows for it. -/
structure Listed (V : Type u) where
  entry : Entry V
  text : String

variable {V : Type u}

/-- The key that the option is ordered by. -/
def Listed.key (listed : Listed V) : String :=
  sortKey listed.entry.spelling

/-- The option as help lists it, if help lists it. -/
def listed? (includeHidden : Bool) (entry : Entry V) : Option (Listed V) :=
  if !entry.isAlias && (includeHidden || !entry.isHidden) && entry.kind.isListed then
    entry.helpText.map (fun text => ⟨entry, text⟩)
  else
    none

/-- The listed options in the order of their keys. -/
def sort (options : List (Listed V)) : List (Listed V) :=
  options.mergeSort (fun a b => a.key ≤ b.key)

/-- The options that help lists, in order. -/
def listing (table : Table V) (includeHidden : Bool) : List (Listed V) :=
  sort (table.entries.filterMap (listed? includeHidden))

end CompilerDriver.Help
