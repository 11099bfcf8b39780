import BuildTrace.Number.Binary64

/-!
# Shortest — floating-point numbers as text

A number is written with the fewest digits that still read back as it; of two such texts the one
that is nearer to it is taken. All digits are written out, without an exponent.

* `Shortest.Interval` — the fractions that are read as one number;
* `Shortest.digits` — the digits, and the power of ten of the last of them;
* `Binary64.text` — the text.
-/

namespace BuildTrace
namespace Shortest

/-- The fractions that are read as one number: all between `low` and `high`, over the denominator
`den`. The ends belong to it if `closed`. The number itself is `value`. -/
structure Interval where
  low : Nat
  value : Nat
  high : Nat
  den : Nat
  closed : Bool
deriving DecidableEq, Repr

/-- The interval of a number other than zero. Just above a power of two the neighbour below is only
half as far away as the one above. -/
def intervalOf (mantissa : Nat) (exponent : Int) : Interval :=
  let (n, d) := Binary64.ratio 1 (exponent - 2)
  let narrow :=
    mantissa = Number.limit (Binary64.precision - 1) ∧ Binary64.lowestExponent < exponent
  { low := (4 * mantissa - if narrow then 1 else 2) * n
    value := 4 * mantissa * n
    high := (4 * mantissa + 2) * n
    den := d
    closed := mantissa % 2 = 0 }

/-- Whether a decimal lies in the interval. -/
def Interval.contains (i : Interval) (digits : Nat) (power : Int) : Bool :=
  let (n, d) := Binary64.scale 10 digits 1 power
  if i.closed then i.low * d ≤ n * i.den && n * i.den ≤ i.high * d
  else i.low * d < n * i.den && n * i.den < i.high * d

/-- The power of ten of the first digit. -/
def leadingPower (i : Interval) : Int :=
  if i.den ≤ i.value then (Nat.toDigits 10 (i.value / i.den)).length - 1
  else -(Nat.toDigits 10 (i.den / i.value)).length

/-- The two decimals next to the number, of those that end at the given power of ten: the digits of
the lower one, and whether the upper one is nearer. -/
def neighbours (i : Interval) (power : Int) : Nat × Bool :=
  let (n, d) := Binary64.scale 10 i.value i.den (-power)
  (n / d, d < 2 * (n % d))

/-- The decimal that ends at the given power of ten and is read as the number. -/
def decimalAt? (i : Interval) (power : Int) : Option Nat :=
  let (lower, up) := neighbours i power
  match i.contains lower power, i.contains (lower + 1) power with
  | true, true => some (if up then lower + 1 else lower)
  | true, false => some lower
  | false, true => some (lower + 1)
  | false, false => none

/-- How many digits are always enough. -/
def digitLimit : Nat := 17

/-- The digits of a number other than zero, and the power of ten of the last of them. A number just
below a power of ten may be nearest to this power, which then loses its zero. -/
def digits (mantissa : Nat) (exponent : Int) : Nat × Int :=
  let i := intervalOf mantissa exponent
  let first := leadingPower i
  ((List.range digitLimit).findSome? fun (n : Nat) =>
    (decimalAt? i (first - n)).map fun d =>
      if d % 10 = 0 then (d / 10, first - n + 1) else (d, first - n)).getD (0, 0)

/-- A decimal with all digits written out. -/
def plain (digits : Nat) (power : Int) : List Char :=
  let cs := Nat.toDigits 10 digits
  if 0 ≤ power then cs ++ List.replicate power.toNat '0'
  else
    let places := (-power).toNat
    let cs := List.replicate (places + 1 - cs.length) '0' ++ cs
    cs.take (cs.length - places) ++ '.' :: cs.drop (cs.length - places)

end Shortest

/-- The text of a number. -/
def Binary64.text : Binary64 → String
  | .nan => "NaN"
  | .infinite negative => if negative then "-inf" else "inf"
  | .finite negative m e =>
    let cs := if m = 0 then ['0'] else
      let (digits, power) := Shortest.digits m e
      Shortest.plain digits power
    String.ofList (if negative then '-' :: cs else cs)

end BuildTrace
