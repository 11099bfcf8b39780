import BuildTrace.FileSystem.Error
import BuildTrace.Number.Shortest
import BuildTrace.Text.Quoted

/-!
# Error — why settings cannot be read

* `Found` — what stands where something else is expected;
* `SettingsError` — the causes;
* `SettingsError.detail`, `message` — their texts.
-/

namespace BuildTrace

/-- What stands where something else is expected. -/
inductive Found where
  | boolean (b : Bool)
  | integer (n : Int)
  | float (x : Binary64)
  | text (s : String)
  | nothing
  | sequence
  | map
deriving DecidableEq, Repr

namespace Found

/-- The words for it; an integer is called by `kind`, and a number by the text `digits` gives it. -/
def describe (kind : String) (digits : Binary64 → String) : Found → String
  | .boolean b => "boolean `" ++ (if b then "true" else "false") ++ "`"
  | .integer n => kind ++ " `" ++ toString n ++ "`"
  | .float x => "floating point `" ++ digits x ++ "`"
  | .text s => "string " ++ Text.quote s
  | .nothing => "unit value"
  | .sequence => "sequence"
  | .map => "map"

/-- The text of a number; a finite one has a point in it. -/
def pointed (x : Binary64) : String :=
  match x with
  | .finite .. => if x.text.toList.contains '.' then x.text else x.text ++ ".0"
  | _ => x.text

end Found

/-- Why settings cannot be read. -/
inductive SettingsError where
  /-- The text is not in the format. -/
  | badSyntax
  /-- A value cannot be turned into what is expected. -/
  | mismatch (found : Found) (expected key : String) (origin : Option String)
  /-- A value has the wrong shape. -/
  | unsuitable (found : Found) (expected : String)
  /-- No case has this name. -/
  | unknownCase (family name : String)
  /-- The value names no case. -/
  | notACase (family : String)
  | noFile (name : String)
  | unknownFormat (path : String)
  /-- The system refuses to read a file. -/
  | unreadable (cause : SystemError)
  /-- The bytes of a file are no text. -/
  | notText
  | note (text : String)
deriving DecidableEq, Repr

namespace SettingsError

/-- What is wrong. A text that is not in its format is not described any further. -/
def detail : SettingsError → String
  | .badSyntax => ""
  | .mismatch found expected key origin =>
    "invalid type: " ++ found.describe "64-bit integer" Binary64.text ++ ", expected " ++
      expected ++ (if key.isEmpty then "" else " for key `" ++ key ++ "`") ++
      (match origin with | some o => " in " ++ o | none => "")
  | .unsuitable found expected =>
    "invalid type: " ++ found.describe "integer" Found.pointed ++ ", expected " ++ expected
  | .unknownCase family name =>
    "enum " ++ family ++ " does not have variant constructor " ++ name
  | .notACase family =>
    "value of enum " ++ family ++
      " should be represented by either string or table with exactly one key"
  | .noFile name => "configuration file \"" ++ name ++ "\" not found"
  | .unknownFormat path =>
    "configuration file \"" ++ path ++ "\" is not of a registered file format"
  | .unreadable cause => cause.message
  | .notText => "stream did not contain valid UTF-8"
  | .note text => text

/-- The text of an error. -/
def message (e : SettingsError) : String :=
  "Configuration error: " ++ e.detail

/-- The error with a step in front of its key; a dot goes between two names. -/
def within (step : String) : SettingsError → SettingsError
  | .mismatch found expected key origin =>
    let dot := if key.isEmpty || key.toList.head? = some '[' then "" else "."
    .mismatch found expected (step ++ dot ++ key) origin
  | e => e

end SettingsError
end BuildTrace
