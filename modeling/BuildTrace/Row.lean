/-!
# Row — values by key, in the order the keys came up

Keys may have several spellings. A row keeps the first spelling of a key and its last value.

* `Row.get?` — the value of a key;
* `Row.put` — gives a key a value.
-/

namespace BuildTrace
namespace Row

variable {κ ν : Type} (same : κ → κ → Prop) [DecidableRel same]

/-- The value of a key. -/
def get? (k : κ) (row : List (κ × ν)) : Option ν :=
  (row.find? fun e => decide (same k e.1)).map Prod.snd

/-- The row with a value for a key: in the place of the value that was, or else at the end. -/
def put (k : κ) (v : ν) : List (κ × ν) → List (κ × ν)
  | [] => [(k, v)]
  | (key, old) :: rest =>
    if same k key then (key, v) :: rest else (key, old) :: put k v rest

end Row
end BuildTrace
