/-!
# The shortest decimal of a double

A finite double stands for every real that rounds to it. Of the decimals among these reals the shortest
is the one with the fewest digits, and of several the nearest to the double, a tie going to the even
digit. All of it is arithmetic on natural numbers: a double is `mantissa * 2 ^ (exponent - 1074)`, and
lengths are counted in quarters of its last binary place. `write` gives the text of the decimal, with
an exponent or without one as a layout says.
-/

namespace CompilerDriver.Number

/-- A positive double, in units of the smallest one. -/
structure Binary where
  mantissa : Nat
  /-- The power of two that the mantissa is multiplied by. -/
  exponent : Nat
  deriving DecidableEq, Repr

/-- A decimal: the digits, read as one number, times a power of ten. -/
structure Decimal where
  digits : Nat
  exponent : Int
  deriving DecidableEq, Repr

/-- The absolute value of a finite double. -/
def Binary.ofFloat (x : Float) : Binary :=
  let bits := x.toBits.toNat
  let fraction := bits % Nat.pow 2 52
  let exponent := bits / Nat.pow 2 52 % Nat.pow 2 11
  if exponent = 0 then ⟨fraction, 0⟩ else ⟨Nat.pow 2 52 + fraction, exponent - 1⟩

/-- The reals that round to a double lie between two fractions of one denominator. -/
structure Neighbourhood where
  low : Nat
  middle : Nat
  high : Nat
  denominator : Nat
  /-- Whether the two ends round to the double as well. -/
  closed : Bool

/-- The reals that round to the double. The gap below a power of two is half as wide as the one above
it, and a real halfway between two doubles rounds to the one with the even mantissa. -/
def Binary.neighbourhood (b : Binary) : Neighbourhood :=
  let unit := Nat.pow 2 b.exponent
  let below := if b.mantissa = Nat.pow 2 52 ∧ b.exponent ≠ 0 then 1 else 2
  { low := (4 * b.mantissa - below) * unit
    middle := 4 * b.mantissa * unit
    high := (4 * b.mantissa + 2) * unit
    denominator := Nat.pow 2 1076
    closed := b.mantissa % 2 = 0 }

/-- Whether the fraction lies in the neighbourhood. -/
def Neighbourhood.contains (n : Neighbourhood) (numerator denominator : Nat) : Bool :=
  let value := numerator * n.denominator
  if n.closed then
    n.low * denominator ≤ value && value ≤ n.high * denominator
  else
    n.low * denominator < value && value < n.high * denominator

/-- The multiple of a power of ten that is nearest to the double, if one rounds to it. Of two that are
equally near it is the even one. -/
def Neighbourhood.onGrid? (n : Neighbourhood) (exponent : Int) : Option Decimal :=
  let up := Nat.pow 10 exponent.toNat
  let down := Nat.pow 10 (-exponent).toNat
  let floor := n.middle * down / (n.denominator * up)
  let candidates := [floor, floor + 1].filter (fun digits => n.contains (digits * up) down)
  let distance := fun (digits : Nat) =>
    let value := digits * up * n.denominator
    let wanted := n.middle * down
    (value - wanted) + (wanted - value)
  match candidates with
  | [] => none
  | [digits] => some ⟨digits, exponent⟩
  | lower :: upper :: _ =>
    if distance lower = distance upper then
      some ⟨if lower % 2 = 0 then lower else upper, exponent⟩
    else
      some ⟨if distance lower < distance upper then lower else upper, exponent⟩

/-- The power of ten of the first digit. -/
def Neighbourhood.magnitude (n : Neighbourhood) : Int :=
  if n.denominator ≤ n.middle then
    ((Nat.toDigits 10 (n.middle / n.denominator)).length : Int) - 1
  else
    match (List.range 400).find? (fun places => n.denominator ≤ n.middle * Nat.pow 10 places) with
    | some places => -(places : Int)
    | none => -400

/-- The decimal without a last digit that is zero. A grid only gives such a digit when the nearest
multiple above is ten. -/
def Decimal.trim (d : Decimal) : Decimal :=
  if d.digits % 10 = 0 then ⟨d.digits / 10, d.exponent + 1⟩ else d

/-- The shortest decimal of a double other than zero. Seventeen digits always suffice. -/
def Binary.shortest (b : Binary) : Decimal :=
  let n := b.neighbourhood
  let grids := (List.range 17).map (fun (more : Nat) => n.magnitude - (more : Int))
  ((grids.findSome? n.onGrid?).getD ⟨0, 0⟩).trim

/-! ## Text -/

/-- The digits of the decimal, first to last. -/
def Decimal.figures (d : Decimal) : List Char :=
  Nat.toDigits 10 d.digits

/-- The power of ten of the first digit. -/
def Decimal.magnitude (d : Decimal) : Int :=
  d.exponent + d.figures.length - 1

/-- The digits of a decimal with a point among them and at least one digit on each side of it. -/
def Decimal.positional (d : Decimal) : List Char :=
  if 0 ≤ d.exponent then
    d.figures ++ List.replicate d.exponent.toNat '0' ++ ['.', '0']
  else
    let places := (-d.exponent).toNat
    let filled := List.replicate (places + 1 - d.figures.length) '0' ++ d.figures
    let whole := filled.length - places
    filled.take whole ++ '.' :: filled.drop whole

/-- The digits of a decimal with a point behind the first, if more follow, and the power of ten of the
first digit with its sign. -/
def Decimal.scientific (d : Decimal) : List Char :=
  let fraction := if d.figures.length = 1 then [] else '.' :: d.figures.drop 1
  let sign := if 0 ≤ d.magnitude then '+' else '-'
  d.figures.take 1 ++ fraction ++ 'e' :: sign :: Nat.toDigits 10 d.magnitude.natAbs

/-- The numbers that are written without an exponent: those whose first digit has a power of ten between
the two bounds. -/
structure Layout where
  lowest : Int
  highest : Int

/-- The text of a decimal. -/
def Layout.write (layout : Layout) (d : Decimal) : List Char :=
  if layout.lowest ≤ d.magnitude ∧ d.magnitude ≤ layout.highest then d.positional else d.scientific

/-- The text of a finite double: its sign and its shortest decimal. Zero has no shortest decimal. -/
def write (layout : Layout) (x : Float) : String :=
  let b := Binary.ofFloat x
  let sign := if x.toBits.toNat < Nat.pow 2 63 then [] else ['-']
  let text := if b.mantissa = 0 then ['0', '.', '0'] else layout.write b.shortest
  String.ofList (sign ++ text)

end CompilerDriver.Number
