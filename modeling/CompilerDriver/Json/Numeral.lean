import CompilerDriver.Json.Basic
/-!
# JSON numbers

The value of the text of a number. Digits are gathered into one significand of 64 bits; a digit that no
longer fits only moves the power of ten. A number without point and exponent is an integer as long as it
fits 64 bits, with sign or without. Any other number is the significand as a double, multiplied or divided
once by a power of ten.
-/

namespace CompilerDriver.Json

/-- The greatest significand. -/
def significandLimit : Nat :=
  Nat.pow 2 64 - 1

/-- The significand after as many digits as fit, and the digits that do not. -/
def gather : Nat → List Char → Nat × List Char
  | significand, [] => (significand, [])
  | significand, c :: rest =>
    let next := significand * 10 + (c.toNat - '0'.toNat)
    if next ≤ significandLimit then gather next rest else (significand, c :: rest)

/-- A power of ten as a double. -/
def powerOfTen (exponent : Nat) : Float :=
  Float.ofScientific 1 false exponent

/-- The double divided by a power of ten, in steps that a double can hold. -/
def divideByPower (x : Float) (exponent : Nat) : Float :=
  if exponent ≤ 308 then
    x / powerOfTen exponent
  else if x == 0 then
    x
  else
    divideByPower (x / powerOfTen 308) (exponent - 308)
termination_by exponent

/-- The significand times a power of ten, unless it is beyond the doubles. -/
def scale? (significand : Nat) (exponent : Int) : Option Float :=
  let x := significand.toUInt64.toFloat
  if exponent < 0 then
    some (divideByPower x (-exponent).toNat)
  else if exponent ≤ 308 then
    let y := x * powerOfTen exponent.toNat
    if y.isInf then none else some y
  else if significand = 0 then
    some x
  else
    none

/-- The digits at the front and what follows them. -/
def takeDigits (cs : List Char) : List Char × List Char :=
  (cs.takeWhile Char.isDigit, cs.dropWhile Char.isDigit)

/-- The power of ten after the digits, if the rest of the text is one or is empty. -/
def readExponent? : List Char → Option (Option Int)
  | [] => some none
  | c :: rest =>
    if c = 'e' ∨ c = 'E' then
      let (negative, rest) := match rest with
        | '-' :: rest => (true, rest)
        | '+' :: rest => (false, rest)
        | rest => (false, rest)
      if rest = [] then
        none
      else
        (Number.ofDigits? 10 rest).map
          (fun n => some (if negative then -(n : Int) else n))
    else
      none

/-- The fraction digits after a point, if there is one, and what follows them. -/
def readFraction? : List Char → Option (Option (List Char) × List Char)
  | '.' :: rest =>
    let (digits, rest) := takeDigits rest
    if digits = [] then none else some (some digits, rest)
  | rest => some (none, rest)

/-- The number with the given sign and digits. -/
def makeNumber (negative : Bool) (whole : List Char) (fraction : Option (List Char))
    (exponent : Option Int) : Option Json :=
  let (significand, unread) := gather 0 whole
  let signed := fun (x : Float) => Json.double (if negative then -x else x)
  if fraction = none ∧ exponent = none ∧ unread = [] then
    if !negative then
      some (.integer significand)
    else if significand = 0 ∨ Nat.pow 2 63 < significand then
      some (signed significand.toUInt64.toFloat)
    else
      some (.integer (-(significand : Int)))
  else
    let places := fraction.getD []
    let (significand, unreadPlaces) := gather significand places
    let shift : Int := (unread.length : Int) - ((places.length - unreadPlaces.length : Nat) : Int)
    (scale? significand (shift + exponent.getD 0)).map signed

/-- The value of the text of a number. -/
def readNumber? (cs : List Char) : Option Json := do
  let (negative, unsigned) := match cs with
    | '-' :: rest => (true, rest)
    | cs => (false, cs)
  let (whole, rest) := takeDigits unsigned
  if whole = [] ∨ (1 < whole.length ∧ whole.head? = some '0') then
    none
  let (fraction, rest) ← readFraction? rest
  let exponent ← readExponent? rest
  makeNumber negative whole fraction exponent

end CompilerDriver.Json
