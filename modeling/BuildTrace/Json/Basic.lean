/-!
# Json — values of the JSON data format

* `Json.Number` — a number as it is written: an integer, or a decimal fraction with an exponent;
* `Json` — a value. Members of an object keep their order, and a name may occur twice.

A string literal may name half of a surrogate pair, which is no character. Such a literal is well
formed but has no text: it is kept as `none`, and fails only where a text is asked for.
-/

namespace BuildTrace

/-- A number as it is written. -/
inductive Json.Number where
  /-- Digits without a point or an exponent. -/
  | integer (negative : Bool) (magnitude : Nat)
  /-- A number with the digits `places` behind its point, times ten to the given power. -/
  | decimal (negative : Bool) (whole : Nat) (places : List Char) (power : Int)
deriving DecidableEq, Repr

/-- A JSON value. -/
inductive Json where
  | null
  | bool (b : Bool)
  | number (n : Json.Number)
  | string (s : Option String)
  | array (items : List Json)
  | object (members : List (Option String × Json))
deriving Repr

namespace Json

/-- A text. -/
def text (s : String) : Json :=
  .string (some s)

/-- A natural number. -/
def nat (n : Nat) : Json :=
  .number (.integer false n)

/-- An integer. -/
def int (n : Int) : Json :=
  .number (.integer (decide (n < 0)) n.natAbs)

/-- An object with the given members. -/
def record (members : List (String × Json)) : Json :=
  .object (members.map fun (name, value) => (some name, value))

/-- A value, or `null` if there is none. -/
def ofOption {α : Type} (f : α → Json) : Option α → Json
  | none => .null
  | some a => f a

end Json
end BuildTrace
