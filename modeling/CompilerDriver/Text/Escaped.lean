import CompilerDriver.Number.Digits
import CompilerDriver.Text.Invisible
/-!
# Texts shown exactly

A text in double quotes in which every character can be told apart: quotes and backslashes are escaped,
breaks and tabs have names, and a character with no image of its own is given by its number.
-/

namespace CompilerDriver.Text

/-- A character as it is shown between double quotes. -/
def shownChar (c : Char) : List Char :=
  match c with
  | '"' => ['\\', '"']
  | '\\' => ['\\', '\\']
  | '\n' => ['\\', 'n']
  | '\r' => ['\\', 'r']
  | '\t' => ['\\', 't']
  | '\x00' => ['\\', '0']
  | c =>
    if isInvisible c then
      ['\\', 'u', '\x7b'] ++ Number.hexadecimal 1 c.toNat ++ ['\x7d']
    else
      [c]

/-- The text as it is shown, double quotes included. -/
def shown (text : String) : String :=
  String.ofList ('"' :: text.toList.flatMap shownChar ++ ['"'])

end CompilerDriver.Text
