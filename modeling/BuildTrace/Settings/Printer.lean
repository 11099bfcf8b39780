import BuildTrace.Settings.Basic
import BuildTrace.Precompile.Encoding
import BuildTrace.Toml.Printer

/-!
# Printer — settings as TOML text

* `Settings.tomlText?` — the text, unless the grace period is too large for a TOML integer.
-/

namespace BuildTrace

/-- Why settings cannot be written. -/
inductive PrintError where
  /-- The grace period is too large. -/
  | outOfRange
deriving DecidableEq, Repr

/-- The text of an error. -/
def PrintError.message : PrintError → String
  | .outOfRange => "out-of-range value for u64 type"

namespace Settings

/-- The line that sets `name`. -/
def line (name : String) (value : List Char) : List Char :=
  name.toList ++ " = ".toList ++ value ++ ['\n']

/-- The lines of the build program. -/
def makeLines (m : MakeSettings) : List Char :=
  line "program" (Toml.stringText m.program) ++
  line "fixed_args" (Toml.stringsText m.fixedArguments) ++
  (match m.preloadLibrary with
    | some p => line "preload_library" (Toml.stringText p.spelling)
    | none => []) ++
  line "disable_preload_flag" (Toml.stringText m.disablePreloadFlag) ++
  line "shim_log" (Toml.stringText m.shimLog.spelling) ++
  line "termination_grace_ms" (Nat.toDigits 10 m.terminationGrace)

/-- The lines of precompiled headers. -/
def precompileLines (p : PrecompileSettings) : List Char :=
  line "system_includes" (Toml.stringsText (p.systemIncludes.map Path.spelling)) ++
  line "fingerprint_mode" (Toml.stringText p.fingerprintMode.name)

/-- The bound on TOML integers. -/
def integerLimit : Nat := Number.limit 63

/-- The settings as text. -/
def tomlText (s : Settings) : Except PrintError String :=
  if integerLimit ≤ s.make.terminationGrace then .error .outOfRange
  else
    .ok (String.ofList (line "extra_flags" (Toml.stringsText s.extraFlags) ++
      "\n[make]\n".toList ++ makeLines s.make ++
      "\n[precompile]\n".toList ++ precompileLines s.precompile))

end Settings
end BuildTrace
