import BuildTrace.Number.Binary64

/-!
# Reading — numbers written in plain text

* `Number.int?` — a sign and digits;
* `Number.natBelow?` — digits, perhaps with a plus sign;
* `Binary64.ofText?` — a sign, digits with a point among them, an exponent; or a word for an
  infinity or for no number.
-/

namespace BuildTrace
namespace Number

/-- A sign, and what is behind it. -/
def splitSign : List Char → Bool × List Char
  | '-' :: cs => (true, cs)
  | '+' :: cs => (false, cs)
  | cs => (false, cs)

/-- The number that digits stand for; there has to be one. -/
def digits? (cs : List Char) : Option Nat :=
  if cs.isEmpty || !cs.all Char.isDigit then none else some (Nat.ofDigitChars 10 cs 0)

/-- An integer of so many bits. -/
def int? (bits : Nat) (cs : List Char) : Option Int :=
  let (negative, cs) := splitSign cs
  (digits? cs).bind fun n =>
    if negative then if n ≤ limit (bits - 1) then some (-(n : Int)) else none
    else if n < limit (bits - 1) then some n else none

/-- A natural number below a bound. -/
def natBelow? (bound : Nat) (cs : List Char) : Option Nat :=
  let (negative, cs) := splitSign cs
  if negative then none else (digits? cs).filter (· < bound)

/-- The text without the difference between capital and small letters of ASCII. -/
def lowerAscii (cs : List Char) : List Char :=
  cs.map Char.toLower

/-- An exponent behind its letter, or nothing. -/
def exponent? : List Char → Option Int
  | [] => some 0
  | e :: cs =>
    if e = 'e' || e = 'E' then
      let (negative, cs) := splitSign cs
      (digits? cs).map fun n => if negative then -(n : Int) else n
    else none

end Number

open Number in
/-- The number a text stands for, without its sign. -/
def Binary64.unsigned? (negative : Bool) (cs : List Char) : Option Binary64 :=
  let word := String.ofList (lowerAscii cs)
  if word = "inf" || word = "infinity" then some (.infinite negative)
  else if word = "nan" then some .nan
  else
    let whole := cs.takeWhile Char.isDigit
    let rest := cs.dropWhile Char.isDigit
    let (fraction, rest) := match rest with
      | '.' :: rest => (rest.takeWhile Char.isDigit, rest.dropWhile Char.isDigit)
      | rest => ([], rest)
    if whole.isEmpty && fraction.isEmpty then none
    else
      (exponent? rest).map fun power =>
        .ofDecimal negative (Nat.ofDigitChars 10 (whole ++ fraction) 0) (power - fraction.length)

/-- The number a text stands for. -/
def Binary64.ofText? (cs : List Char) : Option Binary64 :=
  let (negative, cs) := Number.splitSign cs
  unsigned? negative cs

end BuildTrace
