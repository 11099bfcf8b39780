import BuildTrace.Number.Width

/-!
# Binary64 — floating-point numbers of 64 bits, exactly

Numbers in configuration files may be fractions. They are kept as integers times a power of two, and
every operation is done on natural numbers.

* `Binary64` — a number, an infinity, or no number;
* `Binary64.ofRatio` — the number nearest to a fraction, the even one of two that are equally near;
* `Binary64.ofDecimal` — the number nearest to a decimal;
* `Binary64.roundToNat` — the nearest natural number below a bound.
-/

namespace BuildTrace

/-- A floating-point number of 64 bits. -/
inductive Binary64 where
  | nan
  | infinite (negative : Bool)
  /-- The mantissa times two to the given power. -/
  | finite (negative : Bool) (mantissa : Nat) (exponent : Int)
deriving DecidableEq, Repr

namespace Binary64

/-- How many bits a mantissa has. -/
def precision : Nat := 53

/-- The power of two of the smallest step. -/
def lowestExponent : Int := -1074

/-- The power of two of the largest step. -/
def highestExponent : Int := 971

/-- The fraction `num / den`, multiplied by `base` to the given power. -/
def scale (base num den : Nat) (power : Int) : Nat × Nat :=
  if 0 ≤ power then (num * base.pow power.toNat, den) else (num, den * base.pow (-power).toNat)

/-- The natural number nearest to a fraction; of two that are equally near, the even one. -/
def roundToEven (num den : Nat) : Nat :=
  let q := num / den
  let r := num % den
  if den < 2 * r || (2 * r = den && q % 2 = 1) then q + 1 else q

/-- The power of two that makes a fraction's mantissa use all bits, as far as that is allowed. -/
def exponentFor (num den : Nat) : Int :=
  let guess : Int := (Nat.log2 num : Int) - Nat.log2 den - (precision - 1)
  let (n, d) := scale 2 num den (-guess)
  max lowestExponent (if n < d * Number.limit (precision - 1) then guess - 1 else guess)

/-- The number nearest to the fraction `num / den`. -/
def ofRatio (negative : Bool) (num den : Nat) : Binary64 :=
  if num = 0 then .finite negative 0 lowestExponent
  else
    let e := exponentFor num den
    let (n, d) := scale 2 num den (-e)
    let m := roundToEven n d
    let (m, e) :=
      if m = Number.limit precision then (Number.limit (precision - 1), e + 1) else (m, e)
    if highestExponent < e then .infinite negative else .finite negative m e

/-- The fraction a finite number stands for, without its sign. -/
def ratio (mantissa : Nat) (exponent : Int) : Nat × Nat :=
  scale 2 mantissa 1 exponent

/-- Beyond this power of ten every number is infinite; below its negative every number is zero. -/
def decimalLimit : Int := 400

/-- The number nearest to `digits` times ten to the given power. -/
def ofDecimal (negative : Bool) (digits : Nat) (power : Int) : Binary64 :=
  let size : Int := (Nat.toDigits 10 digits).length + power
  if digits = 0 ∨ size < -decimalLimit then .finite negative 0 lowestExponent
  else if decimalLimit < size then .infinite negative
  else
    let (n, d) := scale 10 digits 1 power
    ofRatio negative n d

/-- The nearest natural number, a half going up; what is negative or no number counts as zero, and
what exceeds the bound as the bound. -/
def roundToNat (bound : Nat) : Binary64 → Nat
  | .nan | .infinite true => 0
  | .infinite false => bound
  | .finite negative m e =>
    let (n, d) := ratio m e
    if negative then 0 else min bound ((2 * n + d) / (2 * d))

end Binary64
end BuildTrace
