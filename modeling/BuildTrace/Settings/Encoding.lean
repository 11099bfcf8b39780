import BuildTrace.Precompile.Encoding
import BuildTrace.Settings.Basic

/-!
# Encoding — settings as data

* `Settings.toJson`, `Settings.ofJson?` — all settings as a JSON record; what is missing keeps its
  default.
-/

namespace BuildTrace

/-- A field of a record that has a default. -/
def Json.fieldOr? {α : Type} (default : α) (value? : Json → Option α) : Option Json → Option α
  | none => some default
  | some v => value? v

open Json

namespace MakeSettings

/-- The settings as data. -/
def toJson (m : MakeSettings) : Json :=
  .record [("program", .text m.program), ("fixed_args", .array (m.fixedArguments.map Json.text)),
    ("preload_library", .ofOption Path.toJson m.preloadLibrary),
    ("disable_preload_flag", .text m.disablePreloadFlag), ("shim_log", m.shimLog.toJson),
    ("termination_grace_ms", .nat m.terminationGrace)]

/-- The settings that data stand for. -/
def ofJson? (v : Json) : Option MakeSettings := do
  let d : MakeSettings := {}
  match ← v.fields? true ["program", "fixed_args", "preload_library", "disable_preload_flag",
      "shim_log", "termination_grace_ms"] with
  | [program, fixedArguments, preloadLibrary, disablePreloadFlag, shimLog, terminationGrace] =>
    return { program := ← fieldOr? d.program text? program
             fixedArguments := ← fieldOr? d.fixedArguments (listOf? text?) fixedArguments
             preloadLibrary := ← optional? Path.ofJson? preloadLibrary
             disablePreloadFlag := ← fieldOr? d.disablePreloadFlag text? disablePreloadFlag
             shimLog := ← fieldOr? d.shimLog Path.ofJson? shimLog
             terminationGrace :=
               ← fieldOr? d.terminationGrace (natBelow? (Number.limit 64)) terminationGrace }
  | _ => none

end MakeSettings

namespace PrecompileSettings

/-- The settings as data. -/
def toJson (p : PrecompileSettings) : Json :=
  .record [("system_includes", .array (p.systemIncludes.map Path.toJson)),
    ("fingerprint_mode", .text p.fingerprintMode.name)]

/-- The settings that data stand for. -/
def ofJson? (v : Json) : Option PrecompileSettings := do
  let d : PrecompileSettings := {}
  match ← v.fields? true ["system_includes", "fingerprint_mode"] with
  | [systemIncludes, fingerprintMode] =>
    return { systemIncludes := ← fieldOr? d.systemIncludes (listOf? Path.ofJson?) systemIncludes
             fingerprintMode :=
               ← fieldOr? d.fingerprintMode StampKind.ofJson? fingerprintMode }
  | _ => none

end PrecompileSettings

namespace Settings

/-- The settings as data. -/
def toJson (s : Settings) : Json :=
  .record [("make", s.make.toJson), ("extra_flags", .array (s.extraFlags.map Json.text)),
    ("precompile", s.precompile.toJson)]

/-- The settings that data stand for. -/
def ofJson? (v : Json) : Option Settings := do
  let d : Settings := {}
  match ← v.fields? true ["make", "extra_flags", "precompile"] with
  | [make, extraFlags, precompile] =>
    return { make := ← fieldOr? d.make MakeSettings.ofJson? make
             extraFlags := ← fieldOr? d.extraFlags (listOf? text?) extraFlags
             precompile := ← fieldOr? d.precompile PrecompileSettings.ofJson? precompile }
  | _ => none

end Settings
end BuildTrace
