import CompilerDriver.Json.Numeral
/-!
# Reading JSON

The reader takes one character after the other. Its state is what it is in the middle of (`Lexeme`), the
arrays and objects that are still open, innermost first, and what may come next. Reading a text is
folding `step` over its characters.
-/

namespace CompilerDriver.Json

/-- What may come next inside the innermost open value. -/
inductive Awaited where
  | value
  | valueOrClose
  | key
  | keyOrClose
  | colon
  | commaOrClose
  /-- The whole value is read. -/
  | nothing
  deriving DecidableEq, Repr

/-- An array or object that is still open. -/
inductive Frame where
  /-- The items so far, last first. -/
  | array (items : List Json)
  /-- The members so far and the key of the next one. -/
  | object (members : List (String × Json)) (key : String)

/-- The token that the reader is in the middle of. Characters are kept last first. -/
inductive Lexeme where
  | none
  | number (chars : List Char)
  | word (chars : List Char)
  | text (chars : List Char)
  /-- Behind a backslash. -/
  | escape (chars : List Char)
  /-- In a numbered escape with so many digits to come; `lead` is the first half of a pair. -/
  | unit (chars : List Char) (lead : Option Nat) (missing value : Nat)
  /-- Behind the first half of a pair, where an escape has to follow. -/
  | pair (chars : List Char) (lead : Nat) (backslash : Bool)

/-- The state of the reader. -/
structure Reader where
  lexeme : Lexeme
  frames : List Frame
  awaited : Awaited
  /-- The value that was read last. -/
  result : Json

namespace Reader

/-- The reader before any text. -/
def start : Reader :=
  { lexeme := .none, frames := [], awaited := .value, result := .null }

/-- The reader after a complete value. -/
def accept (r : Reader) (value : Json) : Option Reader :=
  if r.awaited = .value ∨ r.awaited = .valueOrClose then
    match r.frames with
    | [] => some { r with lexeme := .none, awaited := .nothing, result := value }
    | .array items :: frames =>
      some { r with
        lexeme := .none, awaited := .commaOrClose, frames := .array (value :: items) :: frames }
    | .object members key :: frames =>
      some { r with
        lexeme := .none, awaited := .commaOrClose
        frames := .object (setMember key value members) key :: frames }
  else
    none

/-- The reader after a complete text, which is a key where a key is awaited. -/
def acceptText (r : Reader) (value : String) : Option Reader :=
  if r.awaited = .key ∨ r.awaited = .keyOrClose then
    match r.frames with
    | .object members _ :: frames =>
      some { r with lexeme := .none, awaited := .colon, frames := .object members value :: frames }
    | _ => none
  else
    r.accept (.text value)

/-- The reader after the end of a number or word. -/
def finishLexeme (r : Reader) : Option Reader :=
  match r.lexeme with
  | .none => some r
  | .number chars => (readNumber? chars.reverse).bind r.accept
  | .word chars =>
    match String.ofList chars.reverse with
    | "null" => r.accept .null
    | "true" => r.accept (.boolean true)
    | "false" => r.accept (.boolean false)
    | _ => none
  | _ => none

/-- The reader after a closing bracket or brace. -/
def close (r : Reader) (isArray : Bool) : Option Reader :=
  match r.frames with
  | .array items :: frames =>
    if isArray ∧ (r.awaited = .valueOrClose ∨ r.awaited = .commaOrClose) then
      { r with frames, awaited := .value }.accept (.array items.reverse)
    else
      none
  | .object members _ :: frames =>
    if !isArray ∧ (r.awaited = .keyOrClose ∨ r.awaited = .commaOrClose) then
      { r with frames, awaited := .value }.accept (.object members)
    else
      none
  | [] => none

/-- The reader after an opening bracket or brace. -/
def openFrame (r : Reader) (frame : Frame) (awaited : Awaited) : Option Reader :=
  if r.awaited = .value ∨ r.awaited = .valueOrClose then
    some { r with frames := frame :: r.frames, awaited }
  else
    none

/-- The reader after a comma. -/
def comma (r : Reader) : Option Reader :=
  if r.awaited = .commaOrClose then
    match r.frames with
    | .array _ :: _ => some { r with awaited := .value }
    | .object _ _ :: _ => some { r with awaited := .key }
    | [] => none
  else
    none

/-- The step on a character between tokens. -/
def between (r : Reader) (c : Char) : Option Reader :=
  match c with
  | ' ' | '\t' | '\n' | '\r' => some r
  | '[' => r.openFrame (.array []) .valueOrClose
  | '\x7b' => r.openFrame (.object [] "") .keyOrClose
  | ']' => r.close true
  | '\x7d' => r.close false
  | ',' => r.comma
  | ':' => if r.awaited = .colon then some { r with awaited := .value } else none
  | '"' => some { r with lexeme := .text [] }
  | c =>
    if c.isDigit || c = '-' then
      some { r with lexeme := .number [c] }
    else if c.isAlpha then
      some { r with lexeme := .word [c] }
    else
      none

/-- The character that a one-letter escape stands for. -/
def escaped? : Char → Option Char
  | '"' => some '"'
  | '\\' => some '\\'
  | '/' => some '/'
  | 'b' => some '\x08'
  | 'f' => some '\x0c'
  | 'n' => some '\n'
  | 'r' => some '\r'
  | 't' => some '\t'
  | _ => none

/-- The token after the last digit of a numbered escape. -/
def finishUnit (chars : List Char) (lead : Option Nat) (value : Nat) : Option Lexeme :=
  let isLow := 0xDC00 ≤ value ∧ value < 0xE000
  match lead with
  | some high =>
    if isLow then
      some (.text (Char.ofNat (0x10000 + (high - 0xD800) * 0x400 + (value - 0xDC00)) :: chars))
    else
      none
  | none =>
    if 0xD800 ≤ value ∧ value < 0xDC00 then some (.pair chars value false)
    else if isLow then none
    else some (.text (Char.ofNat value :: chars))

/-- The step of a reader inside a text. -/
def inText (lexeme : Lexeme) (c : Char) : Option Lexeme :=
  match lexeme with
  | .text chars =>
    if c = '\\' then some (.escape chars)
    else if c.toNat < 0x20 then none
    else some (.text (c :: chars))
  | .escape chars =>
    if c = 'u' then some (.unit chars none 4 0) else (escaped? c).map (fun c => .text (c :: chars))
  | .unit chars lead missing value =>
    (Number.hexDigit? c).bind fun digit =>
      let value := value * 16 + digit
      if missing ≤ 1 then finishUnit chars lead value else some (.unit chars lead (missing - 1) value)
  | .pair chars lead false => if c = '\\' then some (.pair chars lead true) else none
  | .pair chars lead true => if c = 'u' then some (.unit chars (some lead) 4 0) else none
  | _ => none

/-- The reader after one more character. -/
def step (r : Reader) (c : Char) : Option Reader :=
  match r.lexeme with
  | .none => r.between c
  | .number chars =>
    if c.isDigit || c = '.' || c = 'e' || c = 'E' || c = '+' || c = '-' then
      some { r with lexeme := .number (c :: chars) }
    else
      r.finishLexeme.bind (fun r => r.between c)
  | .word chars =>
    if c.isAlpha then
      some { r with lexeme := .word (c :: chars) }
    else
      r.finishLexeme.bind (fun r => r.between c)
  | .text chars =>
    if c = '"' then
      r.acceptText (String.ofList chars.reverse)
    else
      (inText (.text chars) c).map (fun lexeme => { r with lexeme })
  | lexeme => (inText lexeme c).map (fun lexeme => { r with lexeme })

end Reader

/-- The value that the text holds. -/
def parse? (text : String) : Option Json := do
  let reader ← text.toList.foldlM Reader.step Reader.start
  let reader ← reader.finishLexeme
  if reader.awaited = .nothing then some reader.result else none

end CompilerDriver.Json
