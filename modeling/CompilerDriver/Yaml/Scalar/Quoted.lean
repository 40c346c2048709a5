import CompilerDriver.Number.Digits
import CompilerDriver.Yaml.Gap
/-!
# Quoted scalars

Text between quotes, with gaps folded as in plain scalars. Between single quotes a quote is written twice
and nothing else is special. Between double quotes a backslash starts an escape: a letter for one
character, a number in hexadecimal, or the end of a line that is not to be seen.
-/

namespace CompilerDriver.Yaml.Quoted

/-- The text of a scalar and what follows its closing quote. -/
abbrev Scanned := List Char × List Char

/-- The scanned text with more text before it. -/
def prepend (text : List Char) (scanned : Scanned) : Scanned :=
  (text ++ scanned.1, scanned.2)

/-! ## Single quotes -/

/-- Reads what follows an opening single quote, or follows the gap. -/
def scanSingle? : List Char → List Char → Option Scanned
  | _, [] => none
  | gap, c :: rest =>
    if isGap c then
      scanSingle? (c :: gap) rest
    else if Gap.endsLine gap && startsMarker (c :: rest) then
      none
    else if c = '\'' then
      match rest with
      | '\'' :: rest => (scanSingle? [] rest).map (prepend (Gap.fold gap ++ ['\'']))
      | rest => some (Gap.fold gap, rest)
    else
      (scanSingle? [] rest).map (prepend (Gap.fold gap ++ [c]))

/-! ## Double quotes -/

/-- The character that a letter after a backslash stands for. -/
def unescape? : Char → Option Char
  | '0' => some '\x00'
  | 'a' => some '\x07'
  | 'b' => some '\x08'
  | 't' => some '\t'
  | '\t' => some '\t'
  | 'n' => some '\n'
  | 'v' => some '\x0b'
  | 'f' => some '\x0c'
  | 'r' => some '\r'
  | 'e' => some '\x1b'
  | ' ' => some ' '
  | '"' => some '"'
  | '/' => some '/'
  | '\\' => some '\\'
  | 'N' => some '\u0085'
  | '_' => some '\u00a0'
  | 'L' => some '\u2028'
  | 'P' => some '\u2029'
  | _ => none

/-- The number of digits after a letter that announces a number. -/
def codeLength? : Char → Option Nat
  | 'x' => some 2
  | 'u' => some 4
  | 'U' => some 8
  | _ => none

/-- What the reader is in the middle of. -/
inductive Mode where
  /-- In or after the gap, which follows an escaped line break or not. -/
  | text (gap : List Char) (escaped : Bool)
  /-- Behind a backslash. -/
  | escape
  /-- In a number, with so many more digits to come after the next. -/
  | code (missing value : Nat)

/-- What a gap stands for. -/
def foldGap (gap : List Char) (escaped : Bool) : List Char :=
  if escaped then Gap.foldEscaped gap else Gap.fold gap

/-- Whether a line begins right after the gap. -/
def startsLine (gap : List Char) (escaped : Bool) : Bool :=
  Gap.endsLine gap || (escaped && gap.isEmpty)

/-- Reads what follows an opening double quote, or follows what the mode says. -/
def scanDouble? : Mode → List Char → Option Scanned
  | _, [] => none
  | .text gap escaped, c :: rest =>
    if isGap c then
      scanDouble? (.text (c :: gap) escaped) rest
    else if startsLine gap escaped && startsMarker (c :: rest) then
      none
    else if c = '"' then
      some (foldGap gap escaped, rest)
    else if c = '\\' then
      (scanDouble? .escape rest).map (prepend (foldGap gap escaped))
    else
      (scanDouble? (.text [] false) rest).map (prepend (foldGap gap escaped ++ [c]))
  | .escape, c :: rest =>
    if isBreak c then
      scanDouble? (.text [] true) rest
    else
      match unescape? c, codeLength? c with
      | some meant, _ => (scanDouble? (.text [] false) rest).map (prepend [meant])
      | none, some digits => scanDouble? (.code (digits - 1) 0) rest
      | none, none => none
  | .code missing value, c :: rest =>
    match Number.hexDigit? c with
    | none => none
    | some digit =>
      let value := value * 16 + digit
      if missing ≠ 0 then
        scanDouble? (.code (missing - 1) value) rest
      else if value.isValidChar then
        (scanDouble? (.text [] false) rest).map (prepend [Char.ofNat value])
      else
        none

/-! ## Nothing is added to what follows -/

theorem length_rest_single {gap cs : List Char} {scanned : Scanned}
    (h : scanSingle? gap cs = some scanned) : scanned.2.length ≤ cs.length := by
  fun_induction scanSingle? gap cs generalizing scanned with
  | case1 => cases h
  | case2 gap c rest _ ih => exact Nat.le_succ_of_le (ih h)
  | case3 => cases h
  | case4 gap rest _ _ ih =>
    obtain ⟨later, hl, rfl⟩ := Option.map_eq_some_iff.1 h
    have shorter := ih hl
    exact Nat.le_trans shorter (Nat.le_add_right _ 2)
  | case5 => cases h; exact Nat.le_succ _
  | case6 gap c rest _ _ _ ih =>
    obtain ⟨later, hl, rfl⟩ := Option.map_eq_some_iff.1 h
    have shorter := ih hl
    exact Nat.le_succ_of_le shorter

theorem length_rest_double {mode : Mode} {cs : List Char} {scanned : Scanned}
    (h : scanDouble? mode cs = some scanned) : scanned.2.length ≤ cs.length := by
  induction cs generalizing mode scanned with
  | nil => simp [scanDouble?] at h
  | cons c rest ih =>
    have mapped {mode : Mode} {text : List Char}
        (h : (scanDouble? mode rest).map (prepend text) = some scanned) :
        scanned.2.length ≤ (c :: rest).length := by
      obtain ⟨later, hl, rfl⟩ := Option.map_eq_some_iff.1 h
      have shorter := ih hl
      exact Nat.le_succ_of_le shorter
    cases mode with
    | text gap escaped =>
      rw [scanDouble?] at h
      split at h
      · exact Nat.le_succ_of_le (ih h)
      · split at h
        · cases h
        · split at h
          · cases h; exact Nat.le_succ _
          · split at h <;> exact mapped h
    | escape =>
      rw [scanDouble?] at h
      split at h
      · exact Nat.le_succ_of_le (ih h)
      · split at h
        · exact mapped h
        · exact Nat.le_succ_of_le (ih h)
        · cases h
    | code missing value =>
      rw [scanDouble?] at h
      split at h
      · cases h
      · dsimp only at h
        split at h
        · exact Nat.le_succ_of_le (ih h)
        · split at h
          · exact mapped h
          · cases h

end CompilerDriver.Yaml.Quoted
