import BuildTrace.Json.Basic
import BuildTrace.Number.Width

/-!
# Decode — reading typed data out of JSON values

* `text?`, `bool?`, `natBelow?`, `intWithin?`, `listOf?`, `optional?` — plain data;
* `variant?` — one of several cases: its name, or an object with its name and what it carries;
* `fields?` — the fields of a record, written by name or in their order.

A record may have unknown fields, but none of its own twice. Integers have to be written as such:
a point, an exponent, or a sign in front of zero makes a fraction.
-/

namespace BuildTrace
namespace Json

/-- A text. -/
def text? : Json → Option String
  | .string s => s
  | _ => none

/-- A truth value. -/
def bool? : Json → Option Bool
  | .bool b => some b
  | _ => none

/-- A natural number below a bound. -/
def natBelow? (bound : Nat) : Json → Option Nat
  | .number (.integer false n) => if n < bound then some n else none
  | _ => none

/-- An integer of so many bits. -/
def intWithin? (bits : Nat) : Json → Option Int
  | .number (.integer false n) => if n < Number.limit (bits - 1) then some n else none
  | .number (.integer true n) => if 0 < n ∧ n ≤ Number.limit (bits - 1) then some (-n) else none
  | _ => none

/-- A list. -/
def listOf? {α : Type} (item? : Json → Option α) : Json → Option (List α)
  | .array items => items.mapM item?
  | _ => none

/-- A field that may be missing or `null`. -/
def optional? {α : Type} (value? : Json → Option α) : Option Json → Option (Option α)
  | none | some .null => some none
  | some v => (value? v).map some

/-- The name of a case, and what it carries. -/
def variant? : Json → Option (String × Option Json)
  | .string (some name) => some (name, none)
  | .object [(some name, content)] => some (name, some content)
  | _ => none

/-- A case that carries nothing. -/
def plainVariant? (v : Json) : Option String :=
  match variant? v with
  | some (name, none) | some (name, some .null) => some name
  | _ => none

/-- The value of one field of an object; the inner option is empty if it is missing. -/
def field? (members : List (Option String × Json)) (name : String) : Option (Option Json) :=
  match members.filter fun m => m.1 = some name with
  | [] => some none
  | [(_, value)] => some (some value)
  | _ => none

/-- The fields of a record. In the form of an array they come in their order, and all of them unless
`partly` allows the last ones to be missing. -/
def fields? (partly : Bool) (names : List String) : Json → Option (List (Option Json))
  | .object members =>
    if members.all fun m => m.1.isSome then names.mapM (field? members) else none
  | .array items =>
    if items.length = names.length ∨ (partly ∧ items.length < names.length) then
      some (items.map some ++ List.replicate (names.length - items.length) none)
    else none
  | _ => none

end Json
end BuildTrace
