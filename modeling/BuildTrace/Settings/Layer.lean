import BuildTrace.Json.Tree
import BuildTrace.Number.Reading
import BuildTrace.Number.Shortest
import BuildTrace.Text.Case
import BuildTrace.Toml.Basic

/-!
# Layer — settings as they are written

Settings come from files and from the environment. Every source gives a layer, and a later layer
goes over the ones before it.

* `Raw` — a setting as it is written, with the name of its source;
* `Raw.ofToml`, `Raw.ofJson?` — what is written in a file;
* `SettingPath` — where in a layer a name with dots and brackets leads;
* `Raw.onTop` — one setting over another: tables are merged, anything else is replaced.

Names count without regard to capital letters once layers are merged.
-/

namespace BuildTrace

/-- A single piece of data. -/
inductive Scalar where
  | null
  | boolean (b : Bool)
  | integer (n : Int)
  | float (x : Binary64)
  | text (s : String)
deriving DecidableEq, Repr

/-- A setting as it is written. -/
inductive Raw where
  | scalar (origin : Option String) (s : Scalar)
  | array (origin : Option String) (items : List Raw)
  | table (origin : Option String) (entries : List (String × Raw))
deriving Repr

namespace Raw

/-! ## From files -/

mutual

/-- What a TOML value sets. -/
def ofToml (origin : Option String) : Toml.Value → Raw
  | .string s => .scalar origin (.text s)
  | .integer n => .scalar origin (.integer n)
  | .float x => .scalar origin (.float x)
  | .boolean b => .scalar origin (.boolean b)
  | .moment text => .scalar origin (.text text)
  | .array items => .array origin (ofTomlItems origin items)
  | .table entries => .table origin (ofTomlEntries origin entries)

/-- What the items of an array set. -/
def ofTomlItems (origin : Option String) : List Toml.Value → List Raw
  | [] => []
  | v :: vs => ofToml origin v :: ofTomlItems origin vs

/-- What the entries of a table set. -/
def ofTomlEntries (origin : Option String) : List (String × Toml.Value) → List (String × Raw)
  | [] => []
  | (name, v) :: rest => (name, ofToml origin v) :: ofTomlEntries origin rest

end

/-- The bound on the digits of a decimal that are kept, as a number. -/
def significandLimit : Nat := Number.limit 64

/-- A number with digits added to it as long as they fit, and the digits from the first on that does
not. -/
def addDigits (kept : Nat) : List Char → Nat × List Char
  | [] => (kept, [])
  | c :: cs =>
    let next := 10 * kept + (c.toNat - 48)
    if next < significandLimit then addDigits next cs else (kept, c :: cs)

/-- The digits of a decimal that are kept, and the power of ten that goes with them. Digits behind
the point may still fit when some in front of it have been dropped. -/
def significand (whole : Nat) (places : List Char) (power : Int) : Nat × Int :=
  let (kept, dropped) := addDigits 0 (Nat.toDigits 10 whole)
  let (kept, ignored) := addDigits kept places
  (kept, power + dropped.length - (places.length - ignored.length : Nat))

/-- A number scaled by a power of ten: the power is rounded first, then the result. -/
def scaled (x : Binary64) (power : Nat) (up : Bool) : Binary64 :=
  match x, Binary64.ofDecimal false 1 power with
  | .finite negative m e, .finite _ pm pe =>
    let (n, d) := Binary64.ratio m e
    let (pn, pd) := Binary64.ratio pm pe
    if up then .ofRatio negative (n * pn) (d * pd) else .ofRatio negative (n * pd) (d * pn)
  | x, _ => x

/-- The largest power of ten that a number is scaled by at once. -/
def powerLimit : Nat := 308

/-- A decimal of a JSON text: its digits are rounded first, and then scaled. There is no number
beyond all finite ones. -/
def ofJsonDecimal? (negative : Bool) (whole : Nat) (places : List Char) (power : Int) :
    Option Binary64 :=
  let (kept, power) := significand whole places power
  let x := Binary64.ofRatio negative kept 1
  if kept = 0 then some x
  else if 0 ≤ power then
    if powerLimit < power then none
    else
      match scaled x power.toNat true with
      | .infinite _ => none
      | y => some y
  else
    let down := (-power).toNat
    if 3 * powerLimit < down then some (.ofRatio negative 0 1)
    else
      let x := (List.range (down / powerLimit)).foldl (fun x _ => scaled x powerLimit false) x
      some (scaled x (down % powerLimit) false)

/-- What a JSON number sets. -/
def ofJsonNumber? : Json.Number → Option Scalar
  | .integer negative n =>
    let signed : Int := if negative then -(n : Int) else n
    if negative && n = 0 then some (.float (.ofRatio true 0 1))
    else if Number.fits 64 signed then some (.integer signed)
    else if n < significandLimit then some (.float (.ofRatio negative n 1))
    else (ofJsonDecimal? negative n [] 0).map .float
  | .decimal negative whole places power => (ofJsonDecimal? negative whole places power).map .float

mutual

/-- What a JSON value sets, with at most so many arrays and objects inside one another. -/
def ofJson? (origin : Option String) (depth : Nat) : Json → Option Raw
  | .null => some (.scalar origin .null)
  | .bool b => some (.scalar origin (.boolean b))
  | .number n => (ofJsonNumber? n).map (.scalar origin)
  | .string s => s.map fun s => .scalar origin (.text s)
  | .array items =>
    if depth = 0 then none else (ofJsonItems? origin (depth - 1) items).map (.array origin)
  | .object members =>
    if depth = 0 then none else (ofJsonMembers? origin (depth - 1) members).map (.table origin)

/-- What the items of an array set. -/
def ofJsonItems? (origin : Option String) (depth : Nat) : List Json → Option (List Raw)
  | [] => some []
  | v :: vs =>
    (ofJson? origin depth v).bind fun r => (ofJsonItems? origin depth vs).map (r :: ·)

/-- What the members of an object set; of two with one name the last counts. -/
def ofJsonMembers? (origin : Option String) (depth : Nat) :
    List (Option String × Json) → Option (List (String × Raw))
  | [] => some []
  | (name, v) :: rest =>
    name.bind fun name =>
      (ofJson? origin depth v).bind fun r =>
        (ofJsonMembers? origin depth rest).map fun later =>
          if (later.lookup name).isSome then later else (name, r) :: later

end

/-! ## One layer over another -/

/-- Changes the entry of a name, or adds one. -/
def alter (name : String) (f : Option Raw → Raw) : List (String × Raw) → List (String × Raw)
  | [] => [(name, f none)]
  | (other, old) :: rest =>
    if other = name then (other, f (some old)) :: rest else (other, old) :: alter name f rest

mutual

/-- The setting `new` over the setting that was there. -/
def onTop : Raw → Option Raw → Raw
  | .table _ entries, some (.table origin old) => .table origin (entriesOnTop entries old)
  | .table _ [], some old => old
  | .table _ entries, _ => .table none (entriesOnTop entries [])
  | new, _ => new

/-- Entries over those of a table. -/
def entriesOnTop : List (String × Raw) → List (String × Raw) → List (String × Raw)
  | [], old => old
  | (name, new) :: rest, old => entriesOnTop rest (alter (Text.lower name) (onTop new) old)

end

end Raw

/-! ## Names with dots and brackets -/

/-- A step into a setting. An index below zero counts from the end. -/
inductive SettingStep where
  | child (name : String)
  | item (index : Int)
deriving DecidableEq, Repr

/-- Where a name leads: an entry of a layer, and the steps from there. -/
structure SettingPath where
  first : String
  steps : List SettingStep
deriving DecidableEq, Repr

namespace SettingPath

/-- Whether a character may belong to a name inside a path. -/
def isNameChar (c : Char) : Bool :=
  c.isAlphanum || c = ' ' || c = '_' || c = '-'

/-- Whether a character may surround an index. -/
def isSpace (c : Char) : Bool :=
  c = ' ' || c = '\t'

/-- The index that stands in brackets. -/
def index? (inner : List Char) : Option Int :=
  let bare := ((inner.dropWhile isSpace).reverse.dropWhile isSpace).reverse
  if bare.head? = some '+' then none else Number.int? 64 bare

/-- The steps that a text spells. -/
def steps? (cs : List Char) : Option (List SettingStep) :=
  match cs with
  | [] => some []
  | '.' :: rest =>
    let name := rest.takeWhile isNameChar
    if name.isEmpty then none
    else (steps? (rest.dropWhile isNameChar)).map (.child (String.ofList name) :: ·)
  | '[' :: tail =>
    match h : tail.dropWhile (· ≠ ']') with
    | bracket :: rest =>
      have : (bracket :: rest).length ≤ tail.length :=
        h ▸ (List.dropWhile_sublist (· ≠ ']')).length_le
      (index? (tail.takeWhile (· ≠ ']'))).bind fun index =>
        (steps? rest).map (.item index :: ·)
    | [] => none
  | _ => none
termination_by cs.length
decreasing_by
  · have := (List.dropWhile_sublist isNameChar (l := rest)).length_le
    simp only [List.length_cons]
    omega
  · exact Nat.lt_succ_of_lt this

/-- The path a name spells. A name that spells none leads to an entry of its own. -/
def ofName (name : String) : SettingPath :=
  let cs := name.toList
  let first := cs.takeWhile isNameChar
  match first, steps? (cs.dropWhile isNameChar) with
  | _ :: _, some steps => { first := String.ofList first, steps := steps }
  | _, _ => { first := name, steps := [] }

end SettingPath

namespace Raw

/-- A table, or an empty one in the place of anything else. -/
def tableOf : Option Raw → Option String × List (String × Raw)
  | some (.table origin entries) => (origin, entries)
  | _ => (none, [])

/-- An array, or an empty one in the place of anything else. -/
def arrayOf : Option Raw → Option String × List Raw
  | some (.array origin items) => (origin, items)
  | _ => (none, [])

/-- The position that an index means among `count` items. -/
def position (index : Int) (count : Nat) : Nat :=
  if 0 ≤ index then index.toNat else count - index.natAbs

/-- Puts an item into an array, which is filled up with nothing if it is too short. -/
def setItem (index : Int) (r : Raw) (items : List Raw) : List Raw :=
  let i := position index items.length
  (items ++ List.replicate (i + 1 - items.length) (Raw.scalar none .null)).set i r

/-- Puts a setting at the end of some steps. What is in the way is replaced; a table or an array
that can be added to stays where it comes from. -/
def setAt (new : Raw) : List SettingStep → Option Raw → Raw
  | [], old => onTop new old
  | .child name :: steps, old =>
    let (origin, entries) := tableOf old
    .table origin (alter name (setAt new steps) entries)
  | [.item index], old =>
    let (origin, items) := arrayOf old
    .array origin (setItem index new items)
  | .item index :: steps, old =>
    let (origin, items) := arrayOf old
    .array origin (setItem index (setAt new steps items[position index items.length]?) items)

/-- A layer over the ones before it. -/
def layer (new : List (String × Raw)) (old : List (String × Raw)) : List (String × Raw) :=
  new.foldl (fun old (name, r) =>
    let path := SettingPath.ofName (Text.lower name)
    alter path.first (setAt r path.steps) old) old

end Raw
end BuildTrace
