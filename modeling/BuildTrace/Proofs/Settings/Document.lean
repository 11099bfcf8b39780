import BuildTrace.Proofs.Settings.Layers
import BuildTrace.Settings.Printer
import Mathlib.Algebra.Group.Nat.Defs

/-!
# Document — settings are read back from their text

* `Settings.pieces`, `Settings.without` — the lines of settings by their keys, and what the settings
  are when some of the keys are deleted;
* `Settings.toSheet` — the document that has these lines, if the grace period fits in it;
* `Toml.Sheet.readField_of_mem` — a field of a section is read from its entry, or has its default if
  its key is deleted;
* `Settings.ofRaw_toSheet` — so what is left of the document stands for the settings without those
  keys;
* `Settings.tomlText_is_kept` — which is how settings are read back from their text.
-/

namespace BuildTrace

open Toml (Key Entry Section Sheet)

/-! ## Pieces -/

/-- A value that is kept if its key is, and is the default otherwise. -/
def Toml.Key.choose {α : Type} (deleted : Key → Bool) (k : Key) (value default : α) : α :=
  if k.isKept deleted then value else default

theorem Toml.Key.choose_inside {α : Type} {deleted : Key → Bool} {table : String}
    (htable : deleted (.top table) = false) (name : String) (value default : α) :
    Key.choose deleted (.inside table name) value default =
      if deleted (.inside table name) then default else value := by
  cases hname : deleted (.inside table name) <;> simp [Key.choose, Key.isKept, htable, hname]

/-- The lines of a table, each with its key; that of the table itself is its header. -/
def Settings.tablePieces (table : String) (values : List (String × List Char)) :
    List (Key × List Char) :=
  (.top table, "\n[".toList ++ table.toList ++ "]\n".toList) ::
    values.map fun (name, value) => (.inside table name, Settings.line name value)

namespace MakeSettings

/-- The lines of the build program, each with its key. -/
def pieces (m : MakeSettings) : List (Key × List Char) :=
  Settings.tablePieces "make" <|
    [("program", Toml.stringText m.program), ("fixed_args", Toml.stringsText m.fixedArguments)] ++
    (match m.preloadLibrary with
      | some p => [("preload_library", Toml.stringText p.spelling)]
      | none => []) ++
    [("disable_preload_flag", Toml.stringText m.disablePreloadFlag),
      ("shim_log", Toml.stringText m.shimLog.spelling),
      ("termination_grace_ms", Nat.toDigits 10 m.terminationGrace)]

/-- The settings with the defaults in the place of those whose keys are deleted. -/
def without (deleted : Key → Bool) (m : MakeSettings) : MakeSettings :=
  let d : MakeSettings := {}
  { program := Key.choose deleted (.inside "make" "program") m.program d.program
    fixedArguments :=
      Key.choose deleted (.inside "make" "fixed_args") m.fixedArguments d.fixedArguments
    preloadLibrary :=
      Key.choose deleted (.inside "make" "preload_library") m.preloadLibrary d.preloadLibrary
    disablePreloadFlag :=
      Key.choose deleted (.inside "make" "disable_preload_flag") m.disablePreloadFlag
        d.disablePreloadFlag
    shimLog := Key.choose deleted (.inside "make" "shim_log") m.shimLog d.shimLog
    terminationGrace :=
      Key.choose deleted (.inside "make" "termination_grace_ms") m.terminationGrace
        d.terminationGrace }

/-- The entries of the build program. -/
def entries (m : MakeSettings) (h : m.terminationGrace < Number.limit 63) : List Entry :=
  [.string "program" (by decide) m.program,
    .strings "fixed_args" (by decide) m.fixedArguments] ++
  (match m.preloadLibrary with
    | some p => [.string "preload_library" (by decide) p.spelling]
    | none => []) ++
  [.string "disable_preload_flag" (by decide) m.disablePreloadFlag,
    .string "shim_log" (by decide) m.shimLog.spelling,
    .number "termination_grace_ms" (by decide) m.terminationGrace h]

/-- The section of the build program. -/
def toSection (m : MakeSettings) (h : m.terminationGrace < Number.limit 63) : Section where
  name := "make"
  entries := m.entries h
  bare := by decide
  distinct := by
    cases hp : m.preloadLibrary <;> simp [entries, hp]

end MakeSettings

/-! ## Fields -/

namespace Raw

theorem readItems_map {α : Type} {read : Raw → Except SettingsError α} {write : α → Raw}
    (h : ∀ a, read (write a) = .ok a) (items : List α) : ∀ position,
      readItems read position (items.map write) = .ok items := by
  induction items with
  | nil => exact fun position => rfl
  | cons a items ih =>
      intro position
      simp [readItems, h, ih, Except.mapError, bind, Except.bind, pure, Except.pure]

theorem readTexts_map (items : List String) :
    readTexts (.array none (items.map fun s => .scalar none (.text s))) = .ok items := by
  have hread : ∀ s : String, readText ((fun s => Raw.scalar none (.text s)) s) = .ok s :=
    fun _ => rfl
  exact readItems_map hread items 0

theorem readPaths_map (items : List Path) :
    readPaths (.array none (items.map fun p => .scalar none (.text p.spelling))) = .ok items := by
  have hread : ∀ p : Path, readPath ((fun p => Raw.scalar none (.text p.spelling)) p) = .ok p :=
    fun _ => rfl
  exact readItems_map hread items 0

end Raw

open Raw

namespace Toml.Sheet

/-- A field of a section. -/
def fieldOf (t : Section) (n : String) : Raw.Field :=
  ((t.entries.map rawEntry).lookup n).map fun r => (n, r)

theorem fieldOf_of_mem {t : Section} {n : String} {r : Raw}
    (h : (n, r) ∈ t.entries.map rawEntry) : fieldOf t n = some (n, r) := by
  have hdistinct : ((t.entries.map rawEntry).map Prod.fst).Nodup := by
    simpa [Function.comp_def, rawEntry] using t.distinct
  -- Names are distinct, so nothing in front of the entry is found in its place.
  rcases List.append_of_mem h with ⟨front, back, hentries⟩
  have hnew : n ∉ front.map Prod.fst := by
    rw [hentries, List.map_append] at hdistinct
    exact not_mem_of_nodup hdistinct
  simp [fieldOf, hentries, List.lookup_append, lookup_eq_none hnew]

section Fields

variable {α : Type} {default value : α} {read : Raw → Except SettingsError α}
  {deleted : Key → Bool} {t : Section} (htable : deleted (.top t.name) = false) {n : String}

include htable

/-- A field whose key is deleted has its default, and any other is read as before. -/
theorem readField_fieldOf (h : readField default read (fieldOf t n) = .ok value) :
    readField default read (fieldOf (sectionWithout deleted t) n) =
      .ok (Key.choose deleted (.inside t.name n) value default) := by
  rw [fieldOf, lookup_sectionWithout, Key.choose_inside htable]
  cases deleted (.inside t.name n) with
  | true => rfl
  | false => exact h

theorem readField_of_mem {r : Raw} (hmem : (n, r) ∈ t.entries.map rawEntry)
    (hread : read r = .ok value) :
    readField default read (fieldOf (sectionWithout deleted t) n) =
      .ok (Key.choose deleted (.inside t.name n) value default) := by
  apply readField_fieldOf htable
  simp [fieldOf_of_mem hmem, readField, hread, Except.mapError]

end Fields

end Toml.Sheet

open Toml.Sheet

theorem MakeSettings.ofRaw_toSection {deleted : Key → Bool} (m : MakeSettings)
    (h : m.terminationGrace < Number.limit 63) (htable : deleted (.top "make") = false) :
    MakeSettings.ofRaw
        (.table none ((sectionWithout deleted (m.toSection h)).entries.map rawEntry)) =
      .ok (m.without deleted) := by
  have hprogram : readField "make" readText
      (fieldOf (sectionWithout deleted (m.toSection h)) "program") =
        .ok (m.without deleted).program := by
    have hmem : ("program", Raw.scalar none (.text m.program)) ∈
        (m.toSection h).entries.map rawEntry := by
      simp [toSection, entries]
    exact readField_of_mem htable hmem rfl
  have hfixed : readField ["AM_DEFAULT_VERBOSITY=1", "VERBOSE=1"] readTexts
      (fieldOf (sectionWithout deleted (m.toSection h)) "fixed_args") =
        .ok (m.without deleted).fixedArguments := by
    have hmem : ("fixed_args",
        Raw.array none (m.fixedArguments.map fun s => .scalar none (.text s))) ∈
          (m.toSection h).entries.map rawEntry := by
      simp [toSection, entries]
    exact readField_of_mem htable hmem (readTexts_map m.fixedArguments)
  have hpreload : readField none readOptionalPath
      (fieldOf (sectionWithout deleted (m.toSection h)) "preload_library") =
        .ok (m.without deleted).preloadLibrary := by
    apply readField_fieldOf htable
    -- A library that is missing has no line, and is missing again.
    cases hp : m.preloadLibrary with
    | none => simp [fieldOf, toSection, entries, hp, List.lookup_cons, readField]
    | some p =>
        have hmem : ("preload_library", Raw.scalar none (.text p.spelling)) ∈
            (m.toSection h).entries.map rawEntry := by
          simp [toSection, entries, hp]
        rw [fieldOf_of_mem hmem]
        rfl
  have hdisable : readField "-B" readText
      (fieldOf (sectionWithout deleted (m.toSection h)) "disable_preload_flag") =
        .ok (m.without deleted).disablePreloadFlag := by
    have hmem : ("disable_preload_flag", Raw.scalar none (.text m.disablePreloadFlag)) ∈
        (m.toSection h).entries.map rawEntry := by
      simp [toSection, entries]
    exact readField_of_mem htable hmem rfl
  have hlog : readField ⟨"/tmp/makelib.log"⟩ readPath
      (fieldOf (sectionWithout deleted (m.toSection h)) "shim_log") =
        .ok (m.without deleted).shimLog := by
    have hmem : ("shim_log", Raw.scalar none (.text m.shimLog.spelling)) ∈
        (m.toSection h).entries.map rawEntry := by
      simp [toSection, entries]
    exact readField_of_mem htable hmem rfl
  have hgrace : readField 100 readCount
      (fieldOf (sectionWithout deleted (m.toSection h)) "termination_grace_ms") =
        .ok (m.without deleted).terminationGrace := by
    have hmem : ("termination_grace_ms", Raw.scalar none (.integer m.terminationGrace)) ∈
        (m.toSection h).entries.map rawEntry := by
      simp [toSection, entries]
    exact readField_of_mem htable hmem (by simp [readCount])
  simp only [fieldOf] at hprogram hfixed hpreload hdisable hlog hgrace
  simp [MakeSettings.ofRaw, fields, hprogram, hfixed, hpreload, hdisable, hlog, hgrace, bind,
    Except.bind, pure, Except.pure]

namespace PrecompileSettings

/-- The lines of precompiled headers, each with its key. -/
def pieces (p : PrecompileSettings) : List (Key × List Char) :=
  Settings.tablePieces "precompile"
    [("system_includes", Toml.stringsText (p.systemIncludes.map Path.spelling)),
      ("fingerprint_mode", Toml.stringText p.fingerprintMode.name)]

/-- The settings with the defaults in the place of those whose keys are deleted. -/
def without (deleted : Key → Bool) (p : PrecompileSettings) : PrecompileSettings :=
  let d : PrecompileSettings := {}
  { systemIncludes :=
      Key.choose deleted (.inside "precompile" "system_includes") p.systemIncludes d.systemIncludes
    fingerprintMode :=
      Key.choose deleted (.inside "precompile" "fingerprint_mode") p.fingerprintMode
        d.fingerprintMode }

/-- The section of precompiled headers. -/
def toSection (p : PrecompileSettings) : Section where
  name := "precompile"
  entries := [.strings "system_includes" (by decide) (p.systemIncludes.map Path.spelling),
    .string "fingerprint_mode" (by decide) p.fingerprintMode.name]
  bare := by decide
  distinct := by simp

theorem ofRaw_toSection {deleted : Key → Bool} (p : PrecompileSettings)
    (htable : deleted (.top "precompile") = false) :
    PrecompileSettings.ofRaw
        (.table none ((sectionWithout deleted p.toSection).entries.map rawEntry)) =
      .ok (p.without deleted) := by
  have hincludes : readField [] readPaths
      (fieldOf (sectionWithout deleted p.toSection) "system_includes") =
        .ok (p.without deleted).systemIncludes := by
    have hmem : ("system_includes",
        Raw.array none (p.systemIncludes.map fun p => .scalar none (.text p.spelling))) ∈
          p.toSection.entries.map rawEntry := by
      simp [toSection, Function.comp_def]
    exact readField_of_mem htable hmem (readPaths_map p.systemIncludes)
  have hmode : readField .mtime readMode
      (fieldOf (sectionWithout deleted p.toSection) "fingerprint_mode") =
        .ok (p.without deleted).fingerprintMode := by
    have hmem : ("fingerprint_mode", Raw.scalar none (.text p.fingerprintMode.name)) ∈
        p.toSection.entries.map rawEntry := by
      simp [toSection]
    have hname : modeOfName p.fingerprintMode.name = .ok p.fingerprintMode := by
      cases p.fingerprintMode <;> decide
    exact readField_of_mem htable hmem hname
  simp only [fieldOf] at hincludes hmode
  simp [PrecompileSettings.ofRaw, fields, hincludes, hmode, bind, Except.bind, pure, Except.pure]

end PrecompileSettings

/-! ## All settings -/

namespace Settings

/-- The lines of all settings, each with its key. -/
def pieces (s : Settings) : List (Key × List Char) :=
  (.top "extra_flags", line "extra_flags" (Toml.stringsText s.extraFlags)) ::
    (s.make.pieces ++ s.precompile.pieces)

/-- The settings with the defaults in the place of those whose keys are deleted. -/
def without (deleted : Key → Bool) (s : Settings) : Settings where
  make := s.make.without deleted
  extraFlags := Key.choose deleted (.top "extra_flags") s.extraFlags []
  precompile := s.precompile.without deleted

/-- The document of the settings. -/
def toSheet (s : Settings) (h : s.make.terminationGrace < Number.limit 63) : Sheet where
  entries := [.strings "extra_flags" (by decide) s.extraFlags]
  sections := [s.make.toSection h, s.precompile.toSection]
  distinct := by simp [MakeSettings.toSection, PrecompileSettings.toSection]

variable {s : Settings} (h : s.make.terminationGrace < Number.limit 63)

theorem pieces_toSheet : (s.toSheet h).pieces = s.pieces := by
  cases hp : s.make.preloadLibrary <;>
    simp [toSheet, Sheet.pieces, sectionPieces, pieces, MakeSettings.toSection,
      MakeSettings.entries, MakeSettings.pieces, PrecompileSettings.toSection,
      PrecompileSettings.pieces, tablePieces, Section.header, Entry.line, Entry.string,
      Entry.strings, Entry.number, line, hp]

theorem isPlain_toSheet : (s.toSheet h).IsPlain := by
  have hentries : ∀ e ∈ (s.toSheet h).entries, IsPlainName e.name := by
    simp only [toSheet, List.forall_mem_singleton, Entry.strings_name]
    decide +kernel
  have hmake : ∀ e ∈ (s.make.toSection h).entries, IsPlainName e.name := by
    cases hp : s.make.preloadLibrary <;>
      · simp only [MakeSettings.toSection, MakeSettings.entries, hp, List.forall_mem_append,
          List.forall_mem_cons, Entry.string_name, Entry.strings_name, Entry.number_name]
        decide +kernel
  have hprecompile : ∀ e ∈ s.precompile.toSection.entries, IsPlainName e.name := by
    simp only [PrecompileSettings.toSection, List.forall_mem_cons, Entry.string_name,
      Entry.strings_name]
    decide +kernel
  refine ⟨hentries, ?_⟩
  intro t ht
  rcases (by simpa [toSheet] using ht : t = s.make.toSection h ∨ t = s.precompile.toSection)
    with rfl | rfl
  · have hname : IsPlainName "make" := by decide +kernel
    exact ⟨hname, hmake⟩
  · have hname : IsPlainName "precompile" := by decide +kernel
    exact ⟨hname, hprecompile⟩

theorem rawSection_sectionWithout (deleted : Key → Bool) (t : Section) :
    rawSection (sectionWithout deleted t) =
      (t.name, .table none ((sectionWithout deleted t).entries.map rawEntry)) := rfl

theorem ofRaw_toSheet (deleted : Key → Bool) :
    Settings.ofRaw (.table none ((s.toSheet h).without deleted).raw) = .ok (s.without deleted) := by
  have hmake : readField {} MakeSettings.ofRaw
      ((((s.toSheet h).without deleted).raw.lookup "make").map fun r => ("make", r)) =
        .ok (s.make.without deleted) := by
    cases htable : deleted (.top "make") with
    | true =>
        -- With the table all keys inside it are gone.
        simp [lookup_raw_without, htable, readField, MakeSettings.without, Key.choose, Key.isKept]
    | false =>
        have hread := s.make.ofRaw_toSection h htable
        have hname : (s.make.toSection h).name = "make" := rfl
        simp [lookup_raw_without, htable, toSheet, List.lookup_cons, rawSection_sectionWithout, hname,
          readField, hread, Except.mapError]
  have hflags : readField [] readTexts
      ((((s.toSheet h).without deleted).raw.lookup "extra_flags").map fun r =>
        ("extra_flags", r)) = .ok (s.without deleted).extraFlags := by
    have hread := readTexts_map s.extraFlags
    cases htable : deleted (.top "extra_flags") <;>
      simp [lookup_raw_without, htable, toSheet, readField, hread, without, Key.choose, Key.isKept,
        Except.mapError]
  have hprecompile : readField {} PrecompileSettings.ofRaw
      ((((s.toSheet h).without deleted).raw.lookup "precompile").map fun r =>
        ("precompile", r)) = .ok (s.precompile.without deleted) := by
    cases htable : deleted (.top "precompile") with
    | true =>
        simp [lookup_raw_without, htable, readField, PrecompileSettings.without, Key.choose,
          Key.isKept]
    | false =>
        have hread := s.precompile.ofRaw_toSection htable
        have hmake : (s.make.toSection h).name = "make" := rfl
        have hname : s.precompile.toSection.name = "precompile" := rfl
        simp [lookup_raw_without, htable, toSheet, List.lookup_cons, rawSection_sectionWithout, hname,
          hmake, readField, hread, Except.mapError]
  simp [Settings.ofRaw, fields, hmake, hflags, hprecompile, without, bind, Except.bind, pure,
    Except.pure]

include h in
theorem tomlText_eq : s.tomlText = .ok (String.ofList (s.pieces.flatMap Prod.snd)) := by
  have hlimit : ¬ integerLimit ≤ s.make.terminationGrace := Nat.not_le_of_lt h
  cases hp : s.make.preloadLibrary <;>
    simp [tomlText, hlimit, pieces, MakeSettings.pieces, PrecompileSettings.pieces, tablePieces,
      makeLines, precompileLines, hp]

theorem tomlText_eq_ok_iff {text : String} : s.tomlText = .ok text ↔
    s.make.terminationGrace < Number.limit 63 ∧
      text = String.ofList (s.pieces.flatMap Prod.snd) := by
  constructor
  · intro htext
    by_cases h : s.make.terminationGrace < Number.limit 63
    · exact ⟨h, Except.ok.inj (htext.symm.trans (tomlText_eq h))⟩
    · have hlimit : integerLimit ≤ s.make.terminationGrace := Nat.le_of_not_lt h
      simp [tomlText, hlimit] at htext
  · rintro ⟨h, rfl⟩
    exact tomlText_eq h

include h in
/-- What is left of the text of settings when keys are deleted from it. -/
theorem ofTomlText_textWithout (deleted : Key → Bool) :
    ofTomlText (Toml.textWithout deleted s.pieces) = .ok (s.without deleted) := by
  have hread := Sheet.ofTomlText_textWithout deleted ((isPlain_toSheet h).without deleted)
  rwa [pieces_toSheet, ofRaw_toSheet] at hread

theorem without_nothing (s : Settings) : s.without (fun _ => false) = s := by
  simp [without, MakeSettings.without, PrecompileSettings.without, Key.choose, Key.isKept]

theorem textWithout_nothing (pieces : List (Key × List Char)) :
    Toml.textWithout (fun _ => false) pieces = String.ofList (pieces.flatMap Prod.snd) := by
  have hkept : ∀ k : Key, k.isKept (fun _ => false) = true := by
    intro k
    cases k <;> rfl
  simp [Toml.textWithout, hkept]

/-- The settings are read back from their text, and so are those whose keys are left when keys are
deleted from it. There is no text if the grace period is too large. -/
theorem tomlText_is_kept (s : Settings) :
    ((∃ text, s.tomlText = .ok text) ↔ s.make.terminationGrace ≤ 2 ^ 63 - 1) ∧
    ∀ text, s.tomlText = .ok text →
      ofTomlText text = .ok s ∧
      text = String.ofList (s.pieces.flatMap Prod.snd) ∧
      ∀ deleted : Key → Bool,
        ofTomlText (Toml.textWithout deleted s.pieces) = .ok (s.without deleted) := by
  have hlimit : s.make.terminationGrace ≤ 2 ^ 63 - 1 ↔
      s.make.terminationGrace < Number.limit 63 :=
    Nat.le_sub_one_iff_lt (Nat.two_pow_pos 63)
  constructor
  · rw [hlimit]
    constructor
    · rintro ⟨text, htext⟩
      exact (tomlText_eq_ok_iff.1 htext).1
    · intro h
      exact ⟨_, tomlText_eq h⟩
  · intro text htext
    rcases tomlText_eq_ok_iff.1 htext with ⟨h, rfl⟩
    have hwhole := ofTomlText_textWithout h fun _ => false
    rw [textWithout_nothing, without_nothing] at hwhole
    exact ⟨hwhole, rfl, ofTomlText_textWithout h⟩

/-- What is left of a text without the table of the build program. -/
example : Toml.textWithout (· = .top "make") ({ extraFlags := ["-m64"] } : Settings).pieces =
    "extra_flags = [\"-m64\"]\n\n[precompile]\nsystem_includes = []\n" ++
      "fingerprint_mode = \"mtime\"\n" := by
  decide +kernel

end Settings
end BuildTrace
