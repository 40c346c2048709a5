import CompilerDriver.Text.CaseTable
/-!
# Lowercase

The full lowercase form of a text. Each character goes to its own lowercase form, with two exceptions: the
capital I with a dot becomes two characters, and the capital sigma at the end of a word becomes the
final sigma.
-/

namespace CompilerDriver.Text

/-- The lowercase form of a code point that has one of one character, else the code point. -/
def lowerCode (code : Nat) : Nat :=
  (caseRuns.findSome? (fun run => run.lower? code)).getD code

/-- The lowercase form of a character outside any context. -/
def lowerChar (c : Char) : List Char :=
  if c = '\u0130' then ['i', '\u0307'] else [Char.ofNat (lowerCode c.toNat)]

/-- Whether the first character that is not skipped is cased. -/
def meetsCased (cs : List Char) : Bool :=
  (cs.dropWhile isCaseIgnorable).head?.any isCased

/-- The lowercase form of a capital sigma between the two texts, where `before` runs backwards. It ends a
word if a cased character comes before it and none after it. -/
def lowerSigma (before after : List Char) : Char :=
  if meetsCased before && !meetsCased after then 'ς' else 'σ'

/-- The lowercase form of a text that follows the reversed text `before`. -/
def lowerAfter (before : List Char) : List Char → List Char
  | [] => []
  | c :: rest =>
    (if c = 'Σ' then [lowerSigma before rest] else lowerChar c) ++ lowerAfter (c :: before) rest

/-- The lowercase form of a text. -/
def lowercase (text : String) : String :=
  String.ofList (lowerAfter [] text.toList)

end CompilerDriver.Text
