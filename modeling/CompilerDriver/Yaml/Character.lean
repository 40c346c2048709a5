/-!
# The characters of a YAML text

Which characters a YAML text may hold, how its bytes become characters, and the classes of characters that
decide where its parts end. Every way to end a line becomes a line feed, except for the two separators
of lines and paragraphs, which stay what they are.
-/

namespace CompilerDriver.Yaml

/-- Whether a text may hold the character at all. -/
def isAllowed (c : Char) : Bool :=
  let n := c.toNat
  c = '\t' || c = '\n' || c = '\r' || (0x20 ≤ n && n ≤ 0x7E) || n = 0x85
    || (0xA0 ≤ n && n ≤ 0xD7FF) || (0xE000 ≤ n && n ≤ 0xFFFD) || 0x10000 ≤ n

/-- The text with one line feed for each carriage return, next line, and pair of carriage return and
line feed. -/
def unifyBreaks : List Char → List Char
  | [] => []
  | '\r' :: '\n' :: rest => '\n' :: unifyBreaks rest
  | c :: rest => (if c = '\r' ∨ c = '\u0085' then '\n' else c) :: unifyBreaks rest

/-- The characters of a text given as bytes, if it is valid. -/
def characters? (bytes : ByteArray) : Option (List Char) := do
  let text ← String.fromUTF8? bytes
  if text.toList.all isAllowed then some (unifyBreaks text.toList) else none

/-! ## Classes -/

/-- Whether the character ends a line. -/
def isBreak (c : Char) : Bool :=
  c = '\n' || c = '\u2028' || c = '\u2029'

/-- Whether the character is a space or a tab. -/
def isBlank (c : Char) : Bool :=
  c = ' ' || c = '\t'

/-- Whether the character can stand between two words. -/
def isGap (c : Char) : Bool :=
  isBlank c || isBreak c

/-- Whether the character can be part of a name. -/
def isNameChar (c : Char) : Bool :=
  c.isAlphanum || c = '_' || c = '-'

/-- Whether a word ends before the text. -/
def endsWord (cs : List Char) : Bool :=
  cs.head?.all isGap

/-- Whether the text begins with a document marker, three dashes or three dots on their own. -/
def startsMarker : List Char → Bool
  | a :: b :: c :: rest =>
    a = b && b = c && (a = '-' || a = '.') && endsWord rest
  | _ => false

end CompilerDriver.Yaml
