import CompilerDriver.Yaml.Character
/-!
# Block scalars

Text below its header, line by line. The header says whether lines are kept as they are (literal) or
folded, what becomes of the breaks at the end, and possibly how far the lines are indented; otherwise the
first line that is not blank decides that.
-/

namespace CompilerDriver.Yaml.Block

/-- What becomes of the line breaks at the end. -/
inductive Chomping where
  /-- None is kept. -/
  | strip
  /-- One is kept. -/
  | clip
  /-- All are kept. -/
  | keep
  deriving DecidableEq, Repr

/-- What stands in the header after its first character. -/
structure Header where
  chomping : Chomping
  /-- How far lines are indented beyond the parent. -/
  increment : Option Nat
  deriving DecidableEq, Repr

/-- The digit of an indentation, which is not zero. -/
def increment? (c : Char) : Option Nat :=
  if c.isDigit && c ≠ '0' then some (c.toNat - '0'.toNat) else none

/-- What a sign in the header says. -/
def chomping? : Char → Option Chomping
  | '+' => some .keep
  | '-' => some .strip
  | _ => none

/-- Whether the character is one of those that a header can hold. -/
def isSign (c : Char) : Bool :=
  c.isDigit || c = '+' || c = '-'

/-- The header with a sign for the chomping and one for the indentation. -/
def Header.ofBoth? (c d : Char) : Option Header := do
  return ⟨← chomping? c, some (← increment? d)⟩

/-- The header with the signs, each of the two kinds at most once and in any order. -/
def Header.ofSigns? : List Char → Option Header
  | [] => some ⟨.clip, none⟩
  | [c] => (chomping? c).map (⟨·, none⟩) <|> (increment? c).map (fun n => ⟨.clip, some n⟩)
  | [c, d] => Header.ofBoth? c d <|> Header.ofBoth? d c
  | _ => none

/-- Reads a header. -/
def scanHeader? (cs : List Char) : Option (Header × List Char) :=
  (Header.ofSigns? (cs.takeWhile isSign)).map (fun header => (header, cs.dropWhile isSign))

/-- What follows a line on which only blanks and a comment are left. -/
def endLine? (cs : List Char) : Option (List Char) :=
  match cs.dropWhile isBlank with
  | [] => some []
  | c :: rest =>
    if c = '#' then some ((c :: rest).dropWhile (fun c => !isBreak c)).tail
    else if isBreak c then some rest
    else none

/-! ## Lines -/

/-- A line and the break that ends it, which the last line may lack. -/
structure Line where
  text : List Char
  ending : List Char
  deriving DecidableEq, Repr

/-- The characters of the line. -/
def Line.chars (line : Line) : List Char :=
  line.text ++ line.ending

/-- The line with one more character at its start. -/
def Line.cons (c : Char) (line : Line) : Line :=
  { line with text := c :: line.text }

/-- The lines of a text. -/
def lines : List Char → List Line
  | [] => []
  | c :: rest =>
    if isBreak c then
      ⟨[], [c]⟩ :: lines rest
    else
      match lines rest with
      | [] => [⟨[c], []⟩]
      | line :: more => line.cons c :: more

/-- The number of spaces at the start of the line. -/
def Line.indentation (line : Line) : Nat :=
  (line.text.takeWhile (· = ' ')).length

/-- Whether the line holds nothing but spaces and a break. -/
def Line.isEmpty (line : Line) : Bool :=
  line.text.all (· = ' ') && !line.ending.isEmpty

/-- Whether a tab comes right after so many characters of the line. -/
def Line.hasTabAt (line : Line) (column : Nat) : Bool :=
  (line.text.drop column).head? = some '\t'

/-- The indentation of the scalar's lines, if the header does not give it: that of the first line that is
not empty or of an empty line before it, whichever is greater, and at least one and the margin. A tab right
after the spaces of that line is an error. -/
def findIndentation? (margin : Nat) (lines : List Line) : Option Nat :=
  let empty := lines.takeWhile Line.isEmpty
  let first := (lines.dropWhile Line.isEmpty).head?
  if first.any (fun line => line.hasTabAt line.indentation) then
    none
  else
    let seen := empty.foldl (fun n line => max n line.text.length) 0
    some (max (max seen ((first.map Line.indentation).getD 0)) (max margin 1))

/-- What a line is to a scalar of the given indentation. -/
inductive Part where
  /-- An empty line. -/
  | gap
  /-- Text, without its indentation. -/
  | content (text : List Char)
  /-- The first line after the scalar. -/
  | outside
  /-- A tab where there has to be a space. -/
  | badTab

/-- What the line is to a scalar of the given indentation. -/
def Line.part (line : Line) (indentation : Nat) : Part :=
  let body := line.text.drop indentation
  if line.indentation < indentation then
    if line.hasTabAt line.indentation then .badTab
    else if line.isEmpty then .gap
    else .outside
  else if !body.isEmpty then .content body
  else if line.isEmpty then .gap
  else .outside

/-! ## Content -/

/-- What is held back until it is clear that more text follows. -/
structure Held where
  /-- The break that ended the last line of text. -/
  ending : List Char
  /-- The breaks of the empty lines since. -/
  breaks : List Char
  /-- Whether the last line of text began with a blank. -/
  afterBlank : Bool

/-- What the held breaks stand for before another line of text. Folding drops a line feed between two
lines that do not begin with a blank, or makes it a space if no empty line follows it. -/
def Held.join (held : Held) (isLiteral : Bool) (text : List Char) : List Char :=
  if !isLiteral && held.ending = ['\n'] && !held.afterBlank && !text.head?.any isBlank then
    if held.breaks.isEmpty then [' '] else held.breaks
  else
    held.ending ++ held.breaks

/-- The breaks that are kept at the end. -/
def Held.finish (held : Held) : Chomping → List Char
  | .strip => []
  | .clip => held.ending
  | .keep => held.ending ++ held.breaks

/-- The text of the scalar's lines and the lines after it. -/
def scanLines? (isLiteral : Bool) (chomping : Chomping) (indentation : Nat) :
    Held → List Line → Option (List Char × List Line)
  | held, [] => some (held.finish chomping, [])
  | held, line :: rest =>
    match line.part indentation with
    | .badTab => none
    | .outside => some (held.finish chomping, line :: rest)
    | .gap =>
      scanLines? isLiteral chomping indentation
        { held with breaks := held.breaks ++ line.ending } rest
    | .content text =>
      (scanLines? isLiteral chomping indentation ⟨line.ending, [], text.head?.any isBlank⟩ rest).map
        (fun (more, after) => (held.join isLiteral text ++ text ++ more, after))

/-- The indentation of the scalar's lines, beyond the margin or as the lines show it. -/
def Header.indentation? (header : Header) (margin : Nat) (lines : List Line) : Option Nat :=
  match header.increment with
  | some n => some (margin - 1 + n)
  | none => findIndentation? margin lines

/-- Reads a block scalar behind the first character of its header, and gives its text and what follows.
Its lines are indented beyond the margin, which is the column after that of the parent. -/
def scan? (isLiteral : Bool) (margin : Nat) (cs : List Char) : Option (List Char × List Char) := do
  let (header, rest) ← scanHeader? cs
  let body := lines (← endLine? rest)
  let indentation ← header.indentation? margin body
  let (text, after) ← scanLines? isLiteral header.chomping indentation ⟨[], [], false⟩ body
  return (text, after.flatMap Line.chars)

/-! ## Nothing is added to what follows -/

theorem flatMap_chars_lines (cs : List Char) : (lines cs).flatMap Line.chars = cs := by
  induction cs with
  | nil => rfl
  | cons c rest ih =>
    rw [lines]
    split
    · simp [Line.chars, ih]
    · split
      · next h => rw [h] at ih; simp [Line.chars, ← ih]
      · next h => rw [h] at ih; simp [Line.chars, Line.cons, ← ih]

theorem length_endLine {cs rest : List Char} (h : endLine? cs = some rest) :
    rest.length ≤ cs.length := by
  have hd := (List.dropWhile_sublist isBlank (l := cs)).length_le
  unfold endLine? at h
  split at h
  · cases h; exact Nat.zero_le _
  · next c more hc =>
    rw [hc] at hd
    split at h
    · cases h
      have := (List.dropWhile_sublist (fun c => !isBreak c) (l := c :: more)).length_le
      rw [List.length_tail]
      omega
    · split at h
      · cases h
        simp only [List.length_cons] at hd
        omega
      · cases h

theorem length_scanHeader {cs rest : List Char} {header : Header}
    (h : scanHeader? cs = some (header, rest)) : rest.length ≤ cs.length := by
  obtain ⟨_, -, heq⟩ := Option.map_eq_some_iff.1 h
  cases heq
  exact (List.dropWhile_sublist isSign).length_le

theorem suffix_scanLines {isLiteral : Bool} {chomping : Chomping} {indentation : Nat}
    {held : Held} {body after : List Line} {text : List Char}
    (h : scanLines? isLiteral chomping indentation held body = some (text, after)) :
    after <:+ body := by
  induction body generalizing held text with
  | nil => cases h; exact List.suffix_refl _
  | cons line rest ih =>
    rw [scanLines?] at h
    split at h
    · cases h
    · cases h; exact List.suffix_refl _
    · exact (ih h).trans (List.suffix_cons _ _)
    · obtain ⟨_, hl, heq⟩ := Option.map_eq_some_iff.1 h
      cases heq
      exact (ih hl).trans (List.suffix_cons _ _)

theorem length_scan {isLiteral : Bool} {margin : Nat} {cs text rest : List Char}
    (h : scan? isLiteral margin cs = some (text, rest)) : rest.length ≤ cs.length := by
  simp only [scan?, Option.bind_eq_bind, Option.bind_eq_some_iff] at h
  obtain ⟨⟨header, behind⟩, hHeader, below, hLine, _, -, ⟨_, after⟩, hLines, heq⟩ := h
  cases heq
  obtain ⟨before, hBody⟩ := suffix_scanLines hLines
  have hBelow : below = before.flatMap Line.chars ++ after.flatMap Line.chars := by
    rw [← List.flatMap_append, hBody, flatMap_chars_lines]
  have hLength := congrArg List.length hBelow
  rw [List.length_append] at hLength
  have := length_endLine hLine
  have := length_scanHeader hHeader
  dsimp only at *
  omega

end CompilerDriver.Yaml.Block
