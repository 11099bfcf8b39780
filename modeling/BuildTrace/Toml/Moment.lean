import BuildTrace.Toml.Scalar

/-!
# Moment — dates and times that a table spells

A date or a time may also be given by a table: the first name in it is `momentName`, and stands for
a string that spells the moment. This spelling is freer than the one outside of strings.

* `spelledMoment?` — the text of a moment that is spelled by a string;
* `Value.settle?` — a value with the moments its tables stand for.
-/

namespace BuildTrace
namespace Toml

/-- The first name in a table that stands for a date or a time. -/
def momentName : String := "$__toml_private_datetime"

/-- How many minutes a day has. -/
def dayMinutes : Nat := 1440

/-- The text of a moment that is spelled by a string. A day may end at its hour 24, and an offset is
any number of hours and minutes that is at most a day. -/
def spelledMoment? (s : String) : Option String :=
  match date? s.toList with
  | some (date, []) => some date
  | some (date, t :: cs) =>
    if t = 'T' || t = 't' || t = ' ' then do
      let (time, cs) ← time? 24 cs
      let offset ← offset? (fun hours minutes => hours * 60 + minutes ≤ dayMinutes) cs
      some (date ++ "T" ++ time ++ offset)
    else none
  | none =>
    match time? 24 s.toList with
    | some (time, []) => some time
    | _ => none

mutual

/-- The value with the moments its tables stand for, unless one of them cannot be read. -/
def Value.settle? : Value → Option Value
  | .array items => (settleItems? items).map .array
  | .table ((name, v) :: rest) =>
    if name = momentName then
      match v with
      | .string s => (spelledMoment? s).map .moment
      | _ => none
    else
      v.settle?.bind fun v => (settleEntries? rest).map fun rest => .table ((name, v) :: rest)
  | v => some v

/-- The items of an array with their moments. -/
def settleItems? : List Value → Option (List Value)
  | [] => some []
  | v :: vs => v.settle?.bind fun v => (settleItems? vs).map (v :: ·)

/-- The entries of a table with their moments. -/
def settleEntries? : List (String × Value) → Option (List (String × Value))
  | [] => some []
  | (name, v) :: rest =>
    v.settle?.bind fun v => (settleEntries? rest).map fun rest => (name, v) :: rest

end

end Toml
end BuildTrace
