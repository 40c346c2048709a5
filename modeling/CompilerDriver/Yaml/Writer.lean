import CompilerDriver.Yaml.Resolution
import CompilerDriver.Yaml.Token
/-!
# Writing YAML scalars

A text is written plain if nothing speaks against it, else in single quotes, else in double quotes. A text
with a line feed is written as a literal block unless its lines could not be read back, and then in double
quotes. Lines are never folded.
-/

namespace CompilerDriver.Yaml

/-! ## What speaks against a style -/

/-- Whether the character can stand for itself in a written text. -/
def isPrintable (c : Char) : Bool :=
  let n := c.toNat
  n = 0x0A || (0x20 ≤ n && n ≤ 0x7E) || (0xA0 ≤ n && n ≤ 0xD7FF)
    || (0xE000 ≤ n && n ≤ 0xFFFD && n ≠ 0xFEFF) || 0x10000 ≤ n

/-- Whether a character of the first class comes right before one of the second. -/
def hasPair (first second : Char → Bool) : List Char → Bool
  | a :: b :: rest => (first a && second b) || hasPair first second (b :: rest)
  | _ => false

/-- Whether a colon ends a word or a number sign begins one. -/
def hasIndicator (afterGap : Bool) : List Char → Bool
  | [] => false
  | c :: rest => (c = ':' && endsWord rest) || (c = '#' && afterGap) || hasIndicator (isGap c) rest

/-- Whether the text begins with a character that begins something else than a plain scalar. -/
def startsWithIndicator : List Char → Bool
  | [] => false
  | c :: rest =>
    "#,[]\x7b\x7d&*!|>'\"%@`".toList.contains c || ((c = '?' || c = '-') && endsWord rest)

/-- Whether the text begins like a document marker. -/
def resemblesMarker (cs : List Char) : Bool :=
  "---".toList.isPrefixOf cs || "...".toList.isPrefixOf cs

/-- Whether the character is a space. -/
def isSpace (c : Char) : Bool :=
  c = ' '

/-- Whether the text can be written with no quotes at all. -/
def allowsPlain (cs : List Char) : Bool :=
  cs.all isPrintable && !cs.any isBreak && !cs.head?.any isSpace && !cs.getLast?.any isSpace
    && !resemblesMarker cs && !startsWithIndicator cs && !hasIndicator true cs

/-- Whether the text can be written in single quotes. -/
def allowsSingleQuotes (cs : List Char) : Bool :=
  cs.all isPrintable && !hasPair isBreak isSpace cs && !hasPair isSpace isBreak cs

/-- Whether the text can be written as a block. -/
def allowsBlock (cs : List Char) : Bool :=
  cs.all isPrintable && !hasPair isSpace isBreak cs && !cs.getLast?.any isSpace

/-- The style that the text is written in. -/
def styleOf (cs : List Char) : Style :=
  if cs.contains '\n' then
    if allowsBlock cs then .literal else .doubleQuoted
  else if !needsQuotes cs && allowsPlain cs then
    .plain
  else if allowsSingleQuotes cs then
    .singleQuoted
  else
    .doubleQuoted

/-! ## Styles -/

/-- The indentation of the lines of a scalar. -/
def indentation (width : Nat) : List Char :=
  List.replicate width ' '

/-- The text between single quotes. A line after a break is indented. -/
def writeSingle (width : Nat) : (afterBreak : Bool) → List Char → List Char
  | afterBreak, [] => if afterBreak then indentation width else []
  | afterBreak, c :: rest =>
    if isBreak c then
      c :: writeSingle width true rest
    else
      (if afterBreak then indentation width else []) ++ (if c = '\'' then ['\'', c] else [c])
        ++ writeSingle width false rest

/-- The letter that names a character after a backslash. -/
def escapeLetter? : Char → Option Char
  | '\x00' => some '0'
  | '\x07' => some 'a'
  | '\x08' => some 'b'
  | '\t' => some 't'
  | '\n' => some 'n'
  | '\x0b' => some 'v'
  | '\x0c' => some 'f'
  | '\r' => some 'r'
  | '\x1b' => some 'e'
  | '"' => some '"'
  | '\\' => some '\\'
  | '\u0085' => some 'N'
  | '\u2028' => some 'L'
  | '\u2029' => some 'P'
  | _ => none

/-- The number of a character in capital hexadecimal digits. -/
def capitalHexadecimal (width n : Nat) : List Char :=
  (Number.hexadecimal width n).map Char.toUpper

/-- The escape for a character by its number. -/
def escapeNumber (c : Char) : List Char :=
  let n := c.toNat
  if n ≤ 0xFF then 'x' :: capitalHexadecimal 2 n
  else if n ≤ 0xFFFF then 'u' :: capitalHexadecimal 4 n
  else 'U' :: capitalHexadecimal 8 n

/-- A character as it is written between double quotes. -/
def writeDoubleChar (c : Char) : List Char :=
  match escapeLetter? c with
  | some letter => ['\\', letter]
  | none => if isPrintable c then [c] else '\\' :: escapeNumber c

/-- The text of a literal block below its header. Lines that are not empty are indented. -/
def writeLiteral (width : Nat) : (afterBreak : Bool) → List Char → List Char
  | _, [] => []
  | afterBreak, c :: rest =>
    if isBreak c then
      c :: writeLiteral width true rest
    else
      (if afterBreak then indentation width else []) ++ c :: writeLiteral width false rest

/-- The header of a literal block. It gives the indentation, which is two more than that of the parent, if
the text begins with a space or break, and says whether the text ends in no break, one or several. -/
def literalHeader (cs : List Char) : List Char :=
  let hint := if cs.head?.any (fun c => isSpace c || isBreak c) then ['2'] else []
  let chomping := match cs.reverse with
    | [] => ['-']
    | [last] => if isBreak last then ['+'] else ['-']
    | last :: before :: _ =>
      if !isBreak last then ['-'] else if isBreak before then ['+'] else []
  '|' :: hint ++ chomping

/-- The scalar in its style, with further lines indented by the width. The line that it ends in is ended as
well. -/
def writeScalar (width : Nat) (cs : List Char) : List Char :=
  match styleOf cs with
  | .plain => cs ++ ['\n']
  | .singleQuoted => '\'' :: writeSingle width false cs ++ ['\'', '\n']
  | .doubleQuoted => '"' :: cs.flatMap writeDoubleChar ++ ['"', '\n']
  | .literal | .folded =>
    let ending := if cs.getLast?.any isBreak then [] else ['\n']
    literalHeader cs ++ '\n' :: writeLiteral width true cs ++ ending

/-! ## Mappings -/

/-- An entry of a mapping that is indented by the width, without the indentation before its key. -/
def writeText (width : Nat) (key text : String) : String :=
  key ++ ": " ++ String.ofList (writeScalar (width + 2) text.toList)

/-- An entry with a truth value. -/
def writeBoolean (key : String) (value : Bool) : String :=
  key ++ ": " ++ (if value then "true" else "false") ++ "\n"

end CompilerDriver.Yaml
