import BuildTrace.Number.Reading
import BuildTrace.Settings.Basic
import BuildTrace.Settings.Error
import BuildTrace.Settings.Layer

/-!
# Reading — settings out of what is written

What is written is taken generously: numbers and truth values count as texts, texts and fractions as
numbers, and a row of values as a record.

* `Raw.readText`, `readCount`, `readTexts`, `readMode` — single settings;
* `Settings.ofRaw` — all of them. What is not written keeps its default.
-/

namespace BuildTrace
namespace Raw

/-- What stands here. -/
def found : Raw → Found
  | .scalar _ .null => .nothing
  | .scalar _ (.boolean b) => .boolean b
  | .scalar _ (.integer n) => .integer n
  | .scalar _ (.float x) => .float x
  | .scalar _ (.text s) => .text s
  | .array .. => .sequence
  | .table .. => .map

/-- Where it comes from. -/
def origin : Raw → Option String
  | .scalar o _ | .array o _ | .table o _ => o

/-- The error of a value that cannot be turned into what is expected. -/
def mismatch (r : Raw) (expected : String) : SettingsError :=
  .mismatch r.found expected "" r.origin

/-! ## Single settings -/

/-- A text. -/
def readText (r : Raw) : Except SettingsError String :=
  match r with
  | .scalar _ (.text s) => .ok s
  | .scalar _ (.boolean b) => .ok (if b then "true" else "false")
  | .scalar _ (.integer n) => .ok (toString n)
  | .scalar _ (.float x) => .ok x.text
  | r => .error (r.mismatch "a string")

/-- A path. -/
def readPath (r : Raw) : Except SettingsError Path :=
  r.readText.map Path.mk

/-- A path that may be left out. -/
def readOptionalPath : Raw → Except SettingsError (Option Path)
  | .scalar _ .null => .ok none
  | r => r.readPath.map some

/-- The bound on counts. -/
def countLimit : Nat := Number.limit 64

/-- The words that stand for one and zero. -/
def countOfWord? (s : String) : Option Nat :=
  let word := Text.lower s
  if word = "true" || word = "on" || word = "yes" then some 1
  else if word = "false" || word = "off" || word = "no" then some 0
  else none

/-- A natural number. -/
def readCount (r : Raw) : Except SettingsError Nat :=
  match r with
  | .scalar _ (.integer n) =>
    if 0 ≤ n then .ok n.toNat else .error (r.mismatch "an unsigned 64 bit or less integer")
  | .scalar _ (.boolean b) => .ok (if b then 1 else 0)
  | .scalar _ (.float x) => .ok (x.roundToNat (countLimit - 1))
  | .scalar _ (.text s) =>
    match (countOfWord? s).or (Number.natBelow? countLimit s.toList) with
    | some n => .ok n
    | none => .error (r.mismatch "an integer")
  | r => .error (r.mismatch "an integer")

/-- The items of a list, from the given position on. -/
def readItems {α : Type} (read : Raw → Except SettingsError α) (position : Nat) :
    List Raw → Except SettingsError (List α)
  | [] => .ok []
  | r :: rs => do
    let a ← (read r).mapError (·.within ("[" ++ toString position ++ "]"))
    let as ← readItems read (position + 1) rs
    return a :: as

/-- A list. -/
def readList {α : Type} (read : Raw → Except SettingsError α) : Raw → Except SettingsError (List α)
  | .array _ items => readItems read 0 items
  | r => .error (.unsuitable r.found "a sequence")

/-- A list of texts. -/
def readTexts : Raw → Except SettingsError (List String) :=
  readList readText

/-- A list of paths. -/
def readPaths : Raw → Except SettingsError (List Path) :=
  readList readPath

/-- What fingerprint modes are called as a family. -/
def modeFamily : String := "FingerprintMode"

/-- The mode of a name. -/
def modeOfName (name : String) : Except SettingsError StampKind :=
  let word := Text.lower name
  if word = "mtime" then .ok .mtime
  else if word = "content" then .ok .content
  else .error (.unknownCase modeFamily name)

/-- A fingerprint mode: its name, or a table with its name and anything behind it. -/
def readMode : Raw → Except SettingsError StampKind
  | .scalar _ (.text s) => modeOfName s
  | .table _ [(name, _)] => modeOfName name
  | _ => .error (.notACase modeFamily)

/-! ## Records -/

/-- A field of a record, if it is written: the step that leads to it, and what stands there. -/
abbrev Field := Option (String × Raw)

/-- The fields of a record, by their names or in their order. -/
def fields (record : String) (names : List String) : Raw → Except SettingsError (List Field)
  | .table _ entries => .ok (names.map fun n => (entries.lookup n).map fun r => (n, r))
  | .array _ items =>
    .ok ((List.range names.length).map fun i =>
      items[i]?.map fun r => ("[" ++ toString i ++ "]", r))
  | r => .error (.unsuitable r.found ("struct " ++ record))

/-- Reads a field, which has a default. -/
def readField {α : Type} (default : α) (read : Raw → Except SettingsError α) :
    Field → Except SettingsError α
  | none => .ok default
  | some (step, r) => (read r).mapError (·.within step)

end Raw

open Raw

/-- The settings of the build program. -/
def MakeSettings.ofRaw (r : Raw) : Except SettingsError MakeSettings := do
  let d : MakeSettings := {}
  match ← fields "MakeConfig" ["program", "fixed_args", "preload_library", "disable_preload_flag",
      "shim_log", "termination_grace_ms"] r with
  | [program, fixedArguments, preloadLibrary, disablePreloadFlag, shimLog, terminationGrace] =>
    return { program := ← readField d.program readText program
             fixedArguments := ← readField d.fixedArguments readTexts fixedArguments
             preloadLibrary := ← readField d.preloadLibrary readOptionalPath preloadLibrary
             disablePreloadFlag := ← readField d.disablePreloadFlag readText disablePreloadFlag
             shimLog := ← readField d.shimLog readPath shimLog
             terminationGrace := ← readField d.terminationGrace readCount terminationGrace }
  | _ => return d

/-- The settings of precompiled headers. -/
def PrecompileSettings.ofRaw (r : Raw) : Except SettingsError PrecompileSettings := do
  let d : PrecompileSettings := {}
  match ← fields "PrecompileConfig" ["system_includes", "fingerprint_mode"] r with
  | [systemIncludes, fingerprintMode] =>
    return { systemIncludes := ← readField d.systemIncludes readPaths systemIncludes
             fingerprintMode := ← readField d.fingerprintMode readMode fingerprintMode }
  | _ => return d

/-- All settings. -/
def Settings.ofRaw (r : Raw) : Except SettingsError Settings := do
  let d : Settings := {}
  match ← fields "IngestConfig" ["make", "extra_flags", "precompile"] r with
  | [make, extraFlags, precompile] =>
    return { make := ← readField d.make MakeSettings.ofRaw make
             extraFlags := ← readField d.extraFlags readTexts extraFlags
             precompile := ← readField d.precompile PrecompileSettings.ofRaw precompile }
  | _ => return d

end BuildTrace
