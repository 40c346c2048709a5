import CompilerDriver.Number.Digits
import CompilerDriver.Yaml.Character
/-!
# What a plain scalar stands for

A plain scalar that reads as nothing, as a truth value or as a number stands for that and not for its
text. A text that would be read so has to be quoted, and so has a number with needless zeros in front,
which readers take differently.
-/

namespace CompilerDriver.Yaml

/-- Whether the scalar stands for nothing. -/
def isNull (cs : List Char) : Bool :=
  cs.isEmpty || ["null".toList, "Null".toList, "NULL".toList, ['~']].contains cs

/-- The truth value that the scalar stands for. -/
def boolean? (cs : List Char) : Option Bool :=
  if ["true".toList, "True".toList, "TRUE".toList].contains cs then some true
  else if ["false".toList, "False".toList, "FALSE".toList].contains cs then some false
  else none

/-! ## Numbers -/

/-- The base that a letter after a zero announces. -/
def radix? : Char → Option Nat
  | 'x' => some 16
  | 'o' => some 8
  | 'b' => some 2
  | _ => none

/-- Whether the text is a whole number with its base, no greater than the limit. -/
def isRadixNumber (limit : Nat) : List Char → Bool
  | '0' :: letter :: digit :: digits =>
    match radix? letter with
    | some radix => (Number.ofDigits? radix (digit :: digits)).any (fun n => n ≤ limit)
    | none => false
  | _ => false

/-- Whether the scalar is a whole number with its base, of at most 128 bits with its sign. -/
def isBasedInteger : List Char → Bool
  | '-' :: rest => isRadixNumber (Nat.pow 2 127) rest
  | '+' :: rest => isRadixNumber (Nat.pow 2 128 - 1) rest
  | cs => isRadixNumber (Nat.pow 2 128 - 1) cs

/-- The text without one sign in front. -/
def withoutSign : List Char → List Char
  | '-' :: rest => rest
  | '+' :: rest => rest
  | cs => cs

/-- Whether the text is a number with digits after a first zero and nothing else. -/
def hasNeedlessZero (cs : List Char) : Bool :=
  match withoutSign cs with
  | '0' :: digit :: digits => (digit :: digits).all Char.isDigit
  | _ => false

/-- The power of ten behind the digits of a number, if the text is one or is empty. -/
def exponent? : List Char → Option Int
  | [] => some 0
  | e :: rest =>
    let digits := withoutSign rest
    if (e = 'e' || e = 'E') && !digits.isEmpty then
      (Number.ofDigits? 10 digits).map (fun n => if rest.head? = some '-' then -(n : Int) else n)
    else
      none

/-- Whether the digits times a power of ten are less than the least number that is nearer to two to the
power of 1024 than to any double. -/
def isBelowDoubles (digits : Nat) (exponent : Int) : Bool :=
  let limit := Nat.pow 2 1024 - Nat.pow 2 970
  let places := ((Nat.toDigits 10 digits).length : Int) + exponent
  if digits = 0 || places < 309 then true
  else if 309 < places then false
  else digits * Nat.pow 10 exponent.toNat < limit * Nat.pow 10 (-exponent).toNat

/-- Whether the scalar is a decimal number that a double can be near to. -/
def isDecimal (cs : List Char) : Bool :=
  let unsigned := withoutSign cs
  let whole := unsigned.takeWhile Char.isDigit
  let (fraction, rest) := match unsigned.dropWhile Char.isDigit with
    | '.' :: rest => (rest.takeWhile Char.isDigit, rest.dropWhile Char.isDigit)
    | rest => ([], rest)
  if whole.isEmpty && fraction.isEmpty then
    false
  else
    match exponent? rest, Number.ofDigits? 10 (whole ++ fraction) with
    | some exponent, some digits => isBelowDoubles digits (exponent - (fraction.length : Int))
    | _, _ => false

/-- Whether the scalar stands for an infinite number or for no number. -/
def isInfiniteOrNaN (cs : List Char) : Bool :=
  let infinite := [".inf".toList, ".Inf".toList, ".INF".toList]
  infinite.contains (withoutSign cs) || [".nan".toList, ".NaN".toList, ".NAN".toList].contains cs

/-- Whether a plain scalar with this text may be read as something else than the text. -/
def needsQuotes (cs : List Char) : Bool :=
  isNull cs || (boolean? cs).isSome || isBasedInteger cs || isDecimal cs || isInfiniteOrNaN cs
    || hasNeedlessZero cs

end CompilerDriver.Yaml
