import CompilerDriver.Yaml.Character
/-!
# Gaps inside scalars

A gap is what stands between two words of a plain or quoted scalar: blanks, or the end of a line with the
empty lines and blanks around it. A scalar is read with the gap held back, last character first, until it
is clear that another word follows. Folding turns one line break into a space and keeps further ones.
-/

namespace CompilerDriver.Yaml.Gap

/-- Whether the gap goes over the end of a line. -/
def isBroken (gap : List Char) : Bool :=
  gap.any isBreak

/-- Whether a line begins right after the gap. -/
def endsLine (gap : List Char) : Bool :=
  gap.head?.any isBreak

/-- The column after a gap that goes over the end of a line. -/
def column (gap : List Char) : Nat :=
  (gap.takeWhile (fun c => !isBreak c)).length

/-- What the gap stands for. Blanks alone stand for themselves; blanks around line breaks for nothing. -/
def fold (gap : List Char) : List Char :=
  match gap.reverse.dropWhile isBlank with
  | [] => gap.reverse
  | first :: more =>
    let breaks := more.filter isBreak
    if first = '\n' then
      if breaks.isEmpty then [' '] else breaks
    else
      first :: breaks

/-- What the gap stands for after an escaped line break. -/
def foldEscaped (gap : List Char) : List Char :=
  gap.reverse.filter isBreak

end CompilerDriver.Yaml.Gap
