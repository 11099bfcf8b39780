import BuildTrace.Precompile.Stamp

/-!
# Settings — what can be configured

* `MakeSettings` — how the build program is run;
* `PrecompileSettings` — how precompiled headers are made;
* `Settings` — all of it, with the defaults.
-/

namespace BuildTrace

/-- How the build program is run. -/
structure MakeSettings where
  program : String := "make"
  /-- Arguments behind those that every run has. -/
  fixedArguments : List String := ["AM_DEFAULT_VERBOSITY=1", "VERBOSE=1"]
  /-- The library to load into the build program. -/
  preloadLibrary : Option Path := none
  /-- The argument that keeps the library out of a run. -/
  disablePreloadFlag : String := "-B"
  /-- What the library writes; removed before every run. -/
  shimLog : Path := ⟨"/tmp/makelib.log"⟩
  /-- How long the program may take to end once it has been asked to. -/
  terminationGrace : Nat := 100
deriving DecidableEq, Repr

/-- How precompiled headers are made. -/
structure PrecompileSettings where
  systemIncludes : List Path := []
  fingerprintMode : StampKind := .mtime
deriving DecidableEq, Repr

/-- All that can be configured. -/
structure Settings where
  make : MakeSettings := {}
  /-- Flags that hold for every compiler command. -/
  extraFlags : List String := []
  precompile : PrecompileSettings := {}
deriving DecidableEq, Repr

end BuildTrace
