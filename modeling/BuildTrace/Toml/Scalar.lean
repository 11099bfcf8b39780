import BuildTrace.Number.Reading
import BuildTrace.Toml.Basic

/-!
# Scalar — TOML numbers, truth values, dates and times

All of these are written as one word, except for a date and a time with a blank between them.

* `isWordChar` — the characters of such a word;
* `integer?`, `float?`, `Moment.ofWord?` — what a word may stand for;
* `scalar?` — the value at the beginning of a text; it takes at least one character.
-/

namespace BuildTrace
namespace Toml

/-- Whether a character may belong to a word. -/
def isWordChar (c : Char) : Bool :=
  c.isAlphanum || c = '_' || c = '+' || c = '-' || c = '.' || c = ':'

/-! ## Numbers -/

/-- Digits with underscores between them: the digits alone. -/
def spacedDigits? (isDigit : Char → Bool) : List Char → Option (List Char)
  | [] => none
  | [c] => if isDigit c then some [c] else none
  | c :: '_' :: cs => if isDigit c then (spacedDigits? isDigit cs).map (c :: ·) else none
  | c :: cs => if isDigit c then (spacedDigits? isDigit cs).map (c :: ·) else none

/-- Digits without a needless zero in front. -/
def wholeDigits? (cs : List Char) : Option (List Char) :=
  (spacedDigits? Char.isDigit cs).filter fun ds => ds.head? ≠ some '0' || ds.length = 1

/-- The value of a digit of base sixteen, and zero for any other character. -/
def digitValue (c : Char) : Nat :=
  if c.isDigit then c.toNat - 48
  else if 'a' ≤ c && c ≤ 'f' then c.toNat - 87
  else if 'A' ≤ c && c ≤ 'F' then c.toNat - 55
  else 0

/-- The number of digits in a base. -/
def numberOf (base : Nat) (ds : List Char) : Nat :=
  ds.foldl (fun n c => base * n + digitValue c) 0

/-- An integer of 64 bits. -/
def integerWithin? (n : Int) : Option Int :=
  if Number.fits 64 n then some n else none

/-- Digits in a base that is named in front. -/
def basedInteger? (base : Nat) (isDigit : Char → Bool) (cs : List Char) : Option Int :=
  (spacedDigits? isDigit cs).bind fun ds => integerWithin? (numberOf base ds)

/-- Whether a character is a digit of base sixteen. -/
def isHexDigit (c : Char) : Bool :=
  c.isDigit || ('a' ≤ c && c ≤ 'f') || ('A' ≤ c && c ≤ 'F')

/-- An integer. -/
def integer? : List Char → Option Int
  | '0' :: 'x' :: cs => basedInteger? 16 isHexDigit cs
  | '0' :: 'o' :: cs => basedInteger? 8 (fun c => '0' ≤ c && c ≤ '7') cs
  | '0' :: 'b' :: cs => basedInteger? 2 (fun c => c = '0' || c = '1') cs
  | cs =>
    let (negative, cs) := Number.splitSign cs
    (wholeDigits? cs).bind fun ds =>
      let n : Int := numberOf 10 ds
      integerWithin? (if negative then -n else n)

/-- An exponent, behind its letter. -/
def exponent? (cs : List Char) : Option Int :=
  let (negative, cs) := Number.splitSign cs
  (spacedDigits? Char.isDigit cs).map fun ds =>
    let n : Int := numberOf 10 ds
    if negative then -n else n

/-- The parts of a word in front of and behind the first character of a kind. -/
def splitAt? (isMark : Char → Bool) (cs : List Char) : Option (List Char × List Char) :=
  match cs.dropWhile fun c => !isMark c with
  | [] => none
  | _ :: behind => some (cs.takeWhile fun c => !isMark c, behind)

/-- A fraction: digits with a point or an exponent among them. A positive one must not exceed every
finite number. -/
def fraction? (negative : Bool) (cs : List Char) : Option Binary64 := do
  let (mantissa, power) ← match splitAt? (fun c => c = 'e' || c = 'E') cs with
    | some (mantissa, e) => (exponent? e).map fun power => (mantissa, power)
    | none => if cs.contains '.' then some (cs, 0) else none
  let (whole, places) ← match splitAt? (· = '.') mantissa with
    | some (whole, places) => do
      let places ← spacedDigits? Char.isDigit places
      some (whole, places)
    | none => some (mantissa, [])
  let whole ← wholeDigits? whole
  let x := Binary64.ofDecimal negative (numberOf 10 (whole ++ places)) (power - places.length)
  if x = .infinite false then none else some x

/-- A floating-point number. -/
def float? (cs : List Char) : Option Binary64 :=
  let (negative, cs) := Number.splitSign cs
  if cs = ['i', 'n', 'f'] then some (.infinite negative)
  else if cs = ['n', 'a', 'n'] then some .nan
  else fraction? negative cs

/-! ## Dates and times -/

/-- Exactly so many digits, as a number. -/
def fixedDigits? (n : Nat) (cs : List Char) : Option (Nat × List Char) :=
  let ds := cs.take n
  if ds.length = n && ds.all Char.isDigit then some (numberOf 10 ds, cs.drop n) else none

/-- A given character. -/
def mark? (c : Char) : List Char → Option (List Char)
  | d :: cs => if d = c then some cs else none
  | [] => none

/-- A number with zeros in front. -/
def padded (width n : Nat) : String :=
  let ds := Nat.toDigits 10 n
  String.ofList (List.replicate (width - ds.length) '0' ++ ds)

/-- How many days a month has. -/
def daysOf (year month : Nat) : Nat :=
  if month = 2 then
    if year % 4 = 0 && (year % 100 ≠ 0 || year % 400 = 0) then 29 else 28
  else if month = 4 || month = 6 || month = 9 || month = 11 then 30
  else 31

/-- A date, as it is written. -/
def date? (cs : List Char) : Option (String × List Char) := do
  let (year, cs) ← fixedDigits? 4 cs
  let (month, cs) ← fixedDigits? 2 (← mark? '-' cs)
  let (day, cs) ← fixedDigits? 2 (← mark? '-' cs)
  if 1 ≤ month && month ≤ 12 && 1 ≤ day && day ≤ daysOf year month then
    some (padded 4 year ++ "-" ++ padded 2 month ++ "-" ++ padded 2 day, cs)
  else none

/-- How many places of a second are kept. -/
def secondPlaces : Nat := 9

/-- The places of a second, as they are written: so many as are kept, and no zeros at the end. -/
def placesText (ds : List Char) : String :=
  let kept := ((ds.take secondPlaces).reverse.dropWhile (· = '0')).reverse
  if kept.isEmpty then "" else "." ++ String.ofList kept

/-- A time, as it is written, up to some hour. -/
def time? (lastHour : Nat) (cs : List Char) : Option (String × List Char) := do
  let (hour, cs) ← fixedDigits? 2 cs
  let (minute, cs) ← fixedDigits? 2 (← mark? ':' cs)
  let (second, cs) ← fixedDigits? 2 (← mark? ':' cs)
  if lastHour < hour || 59 < minute || 60 < second then none
  else
    let text := padded 2 hour ++ ":" ++ padded 2 minute ++ ":" ++ padded 2 second
    match cs with
    | '.' :: rest =>
      let places := rest.takeWhile Char.isDigit
      if places.isEmpty then none
      else some (text ++ placesText places, rest.dropWhile Char.isDigit)
    | cs => some (text, cs)

/-- An offset of some minutes, as it is written. -/
def offsetText (west : Bool) (minutes : Nat) : String :=
  (if west && minutes ≠ 0 then "-" else "+") ++ padded 2 (minutes / 60) ++ ":" ++
    padded 2 (minutes % 60)

/-- The offset of a time from the one of reference, as it is written; it may be missing. Whether its
hours and minutes are possible is up to `isOffset`. -/
def offset? (isOffset : Nat → Nat → Bool) : List Char → Option String
  | [] => some ""
  | ['Z'] | ['z'] => some "Z"
  | sign :: cs => do
    let (hours, cs) ← fixedDigits? 2 cs
    let (minutes, cs) ← fixedDigits? 2 (← mark? ':' cs)
    if (sign ≠ '+' && sign ≠ '-') || !cs.isEmpty || !isOffset hours minutes then none
    else some (offsetText (sign = '-') (hours * 60 + minutes))

/-- The last hour of a day. -/
def lastHour : Nat := 23

/-- A time with its offset, as they are written. -/
def timeWithOffset? (cs : List Char) : Option String := do
  let (time, cs) ← time? lastHour cs
  let offset ← offset? (fun hours minutes => hours ≤ lastHour && minutes ≤ 59) cs
  some (time ++ offset)

/-- The text of a date or a time, and what is behind it. A date ends its word, or has a time behind
a `T` or a blank. -/
def moment? (word rest : List Char) : Option (String × List Char) :=
  match date? word with
  | some (date, []) =>
    match rest with
    | ' ' :: c :: rest =>
      if c.isDigit then
        let second := (c :: rest).takeWhile isWordChar
        (timeWithOffset? second).map fun time =>
          (date ++ "T" ++ time, (c :: rest).dropWhile isWordChar)
      else some (date, ' ' :: c :: rest)
    | rest => some (date, rest)
  | some (date, t :: cs) =>
    if t = 'T' || t = 't' then
      (timeWithOffset? cs).map fun time => (date ++ "T" ++ time, rest)
    else none
  | none =>
    match time? lastHour word with
    | some (time, []) => some (time, rest)
    | _ => none

/-! ## Values -/

/-- The value a word stands for, and what is behind it. -/
def ofWord? (word rest : List Char) : Option (Value × List Char) :=
  if word = ['t', 'r', 'u', 'e'] then some (.boolean true, rest)
  else if word = ['f', 'a', 'l', 's', 'e'] then some (.boolean false, rest)
  else
    match moment? word rest with
    | some (text, rest) => some (.moment text, rest)
    | none =>
      match float? word with
      | some x => some (.float x, rest)
      | none => (integer? word).map fun n => (.integer n, rest)

/-- A value that is written as a word. -/
def scalar? (cs : List Char) : Option (Value × List Char) :=
  ofWord? (cs.takeWhile isWordChar) (cs.dropWhile isWordChar)

/-! ## How much is taken -/

theorem length_dropWhile_lt_of_takeWhile_ne_nil {f : Char → Bool} {cs : List Char}
    (h : cs.takeWhile f ≠ []) : (cs.dropWhile f).length < cs.length := by
  have whole := congrArg List.length (List.takeWhile_append_dropWhile (p := f) (l := cs))
  have positive := List.length_pos_iff.2 h
  rw [List.length_append] at whole
  omega

theorem length_le_of_moment? {word behind rest : List Char} {text : String}
    (h : moment? word behind = some (text, rest)) : rest.length ≤ behind.length := by
  unfold moment? at h
  split at h
  · split at h
    · next c behind =>
      split at h
      · obtain ⟨time, -, ht⟩ := Option.map_eq_some_iff.1 h
        simp only [Prod.mk.injEq] at ht
        have := length_dropWhile_le isWordChar (c :: behind)
        rw [ht.2] at this
        exact Nat.le_succ_of_le this
      · simp_all
    · simp_all
  · split at h
    · obtain ⟨time, -, ht⟩ := Option.map_eq_some_iff.1 h
      simp_all
    · simp at h
  · split at h <;> simp_all

theorem length_le_of_ofWord? {word behind rest : List Char} {v : Value}
    (h : ofWord? word behind = some (v, rest)) : rest.length ≤ behind.length := by
  unfold ofWord? at h
  split at h
  · simp_all
  · split at h
    · simp_all
    · split at h
      · next hm =>
        simp only [Option.some.injEq, Prod.mk.injEq] at h
        exact h.2 ▸ length_le_of_moment? hm
      · split at h
        · simp_all
        · obtain ⟨n, -, hn⟩ := Option.map_eq_some_iff.1 h
          simp_all

/-- No value is written without characters. -/
theorem ofWord?_nil (rest : List Char) : ofWord? [] rest = none := rfl

theorem shortens_scalar? : Shortens scalar? := by
  intro cs rest v h
  unfold scalar? at h
  by_cases empty : cs.takeWhile isWordChar = []
  · rw [empty, ofWord?_nil] at h
    exact absurd h (by simp)
  · have := length_dropWhile_lt_of_takeWhile_ne_nil empty
    have := length_le_of_ofWord? h
    omega

end Toml
end BuildTrace
