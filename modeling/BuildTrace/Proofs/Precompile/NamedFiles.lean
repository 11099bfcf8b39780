import BuildTrace.Proofs.Precompile.KeyFlags
import Mathlib.Data.List.Basic

/-!
# NamedFiles — the files that commands with one key name

Commands with one key share a precompiled header. Their flags may name directories to search and
files to read first, each as seen from where the command runs. All paths are text here, as
everywhere but for a `NativePath`; a directory whose path is none is in a flag only as it is shown.

* `Invocation.named`, `Invocation.namedFiles` — such names, and the files they stand for;
* `HeaderKey.keyName` — a name as it stands in a key, and `filterMap_named?_relevantFlags`: the
  names in a key are those of its command;
* `HeaderKey.Same.namedFiles_eq_iff` — commands with one key name the same directories by `-I` and
  give the same names to the rest, so they name the same files if these names are read alike;
* `namedFiles_ne_systemDirectory` — a relative name behind another option is not made absolute, and
  can stand for two files under one key.
-/

namespace BuildTrace

/-! ## Names and files -/

namespace Options

/-- The options that name a directory to search or a file to read first. -/
def fileOptions : List String :=
  ["-I", "-isystem", "-iquote", "-idirafter", "-include", "-imacros", "-include-pch"]

/-- The name an option gives, and by which option. -/
def Unit.named? : Unit → Option (String × String)
  | .lone flag => (attached? "-I" flag).map fun dir => ("-I", dir)
  | .paired option value => if option ∈ fileOptions then some (option, value) else none

theorem toList_of_attached? {lead flag dir : String} (h : attached? lead flag = some dir) :
    flag.toList = lead.toList ++ dir.toList := by
  rw [attached?] at h
  split at h
  · next hrest =>
      rw [← List.isPrefixOf?_eq_some_iff_append_eq.1 hrest, ← Option.some.inj h,
        String.toList_ofList]
  · exact absurd h nofun

theorem attached?_append {dir : String} (hdir : dir ≠ "") (lead : String) :
    attached? lead (lead ++ dir) = some dir := by
  have hprefix : lead.toList.isPrefixOf? (lead ++ dir).toList = some dir.toList :=
    List.isPrefixOf?_eq_some_iff_append_eq.2 String.toList_append.symm
  rw [attached?, hprefix]
  cases hchars : dir.toList with
  | nil => exact absurd (String.toList_eq_nil_iff.1 hchars) hdir
  | cons c cs =>
      have hspelled : String.ofList (c :: cs) = dir := by rw [← hchars, String.ofList_toList]
      exact congrArg some hspelled

end Options

namespace Invocation

/-- The names a command gives to directories to search and files to read first. -/
def named (i : Invocation) : List (String × String) :=
  (Options.units i.flags).filterMap Options.Unit.named?

/-- The file a name stands for, as seen from a directory. -/
def fileOf (cwd : Path) (e : String × String) : String × Path :=
  (e.1, cwd.lexicalJoin ⟨e.2⟩)

/-- The directories and files themselves. -/
def namedFiles (i : Invocation) : List (String × Path) :=
  i.named.map (fileOf i.workingDirectory)

end Invocation

/-! ## Names in a key -/

namespace HeaderKey

open Options (units attached? fileOptions)

variable {cwd source : Path}

/-- A name as it stands in a key: directories behind `-I` are made absolute. -/
def keyName (cwd : Path) (e : String × String) : String × String :=
  if e.1 = "-I" then (e.1, (cwd.lexicalJoin ⟨e.2⟩).spelling) else e

theorem attached?_includeFlag (hcwd : cwd.isAbsolute = true) (dir : String) :
    attached? "-I" (includeFlag cwd dir) = some (cwd.lexicalJoin ⟨dir⟩).spelling := by
  rw [includeFlag_eq]
  refine Options.attached?_append ?_ "-I"
  intro hempty
  have habsolute : (cwd.lexicalJoin ⟨dir⟩).isAbsolute = true :=
    Path.isAbsolute_lexicalJoin hcwd _
  simp [Path.isAbsolute, hempty] at habsolute

theorem named?_includeFlag (hcwd : cwd.isAbsolute = true) (dir : String) :
    (Options.Unit.lone (includeFlag cwd dir)).named? = some (keyName cwd ("-I", dir)) := by
  simp [Options.Unit.named?, attached?_includeFlag hcwd, keyName]

/-- A token with a directory behind `-I` is no other option. -/
theorem of_directory {flag dir : String} (h : attached? "-I" flag = some dir) :
    flag ∉ namingOptions ∧ flag ∉ productOptions ∧ flag ≠ "-I" := by
  have hall : ∀ o ∈ "-I" :: namingOptions ++ productOptions, attached? "-I" o = none := by
    decide +kernel
  have hnot : flag ∉ "-I" :: namingOptions ++ productOptions := fun hmem =>
    absurd ((hall flag hmem).symm.trans h) nofun
  simp only [List.cons_append, List.mem_cons, List.mem_append, not_or] at hnot
  exact ⟨hnot.2.1, hnot.2.2, hnot.1⟩

/-- It stays, with the directory made absolute. -/
theorem lone_of_directory {flag dir : String} (h : attached? "-I" flag = some dir) :
    relevantFlags.lone cwd source flag = [includeFlag cwd dir] := by
  have hflag : flag.toList = '-' :: 'I' :: dir.toList := Options.toList_of_attached? h
  have houtput : attached? "-o" flag = none := by
    cases hproduct : attached? "-o" flag with
    | none => rfl
    | some product =>
        have hflag' : flag.toList = '-' :: 'o' :: product.toList :=
          Options.toList_of_attached? hproduct
        simp [hflag'] at hflag
  have hsource : namesSource cwd source flag = false := by simp [namesSource, hflag]
  simp [relevantFlags.lone, (of_directory h).2.1, houtput, hsource, h]

/-- Any other token stays as it is, if it stays. -/
theorem eq_of_mem_lone {flag x : String} (h : attached? "-I" flag = none)
    (hx : x ∈ relevantFlags.lone cwd source flag) : x = flag := by
  rw [relevantFlags.lone] at hx
  split at hx
  · exact absurd hx List.not_mem_nil
  · split at hx
    · exact absurd hx List.not_mem_nil
    · simpa [h] using hx

theorem filterMap_named?_kept_lone (hcwd : cwd.isAbsolute = true) (flag : String) :
    (kept cwd source (.lone flag)).filterMap Options.Unit.named? =
      ((Options.Unit.lone flag).named?.map (keyName cwd)).toList := by
  cases hattached : attached? "-I" flag with
  | some dir =>
      have hname : (Options.Unit.lone flag).named? = some ("-I", dir) := by
        simp [Options.Unit.named?, hattached]
      have hstays : ¬ (flag ∈ namingOptions ∨ flag = "-I") := by
        simp [of_directory hattached]
      rw [kept, if_neg hstays, lone_of_directory hattached, List.map_singleton,
        List.filterMap_cons_some (named?_includeFlag hcwd dir), hname]
      rfl
  | none =>
      have hname : (Options.Unit.lone flag).named? = none := by
        simp [Options.Unit.named?, hattached]
      -- If anything is left it is the token itself, which gives no name.
      have hnone : ∀ u ∈ kept cwd source (.lone flag), u.named? = none := by
        intro u hu
        rw [kept] at hu
        split at hu
        · exact absurd hu List.not_mem_nil
        · rcases List.mem_map.1 hu with ⟨x, hx, rfl⟩
          rw [eq_of_mem_lone hattached hx, hname]
      rw [List.filterMap_eq_nil_iff.2 hnone, hname]
      rfl

/-- What is left of an option gives the same name, as it stands in a key. -/
theorem filterMap_named?_kept (hcwd : cwd.isAbsolute = true) (u : Options.Unit) :
    (kept cwd source u).filterMap Options.Unit.named? =
      (u.named?.map (keyName cwd)).toList := by
  cases u with
  | lone flag => exact filterMap_named?_kept_lone hcwd flag
  | paired option value =>
      by_cases hnaming : option ∈ namingOptions
      · -- A product is no file to be read.
        have hfile : option ∉ fileOptions := by
          have hall : ∀ o ∈ namingOptions, o ∉ fileOptions := by decide
          exact hall option hnaming
        simp [kept, hnaming, Options.Unit.named?, hfile]
      · by_cases hdirectory : option = "-I"
        · subst hdirectory
          rw [kept, if_neg hnaming, if_pos rfl,
            List.filterMap_cons_some (named?_includeFlag hcwd value)]
          rfl
        · by_cases hfile : option ∈ fileOptions
          · simp [kept, hnaming, hdirectory, Options.Unit.named?, hfile, keyName]
          · simp [kept, hnaming, hdirectory, Options.Unit.named?, hfile]

/-- The names in a key are those of the command. -/
theorem filterMap_named?_relevantFlags {flags : List String} (hcwd : cwd.isAbsolute = true)
    (hplain : ∀ u ∈ units flags, HasPlainValue cwd source u) :
    (units (relevantFlags cwd source flags)).filterMap Options.Unit.named? =
      ((units flags).filterMap Options.Unit.named?).map (keyName cwd) := by
  rw [units_relevantFlags hcwd hplain, List.filterMap_flatMap]
  induction units flags with
  | nil => rfl
  | cons u us ih =>
      rw [List.flatMap_cons, filterMap_named?_kept hcwd u, ih]
      cases hname : u.named? with
      | none => simp [hname]
      | some e => simp [hname]

/-! ## Commands with one key -/

variable {cwd' : Path}

theorem fst_keyName (cwd : Path) (e : String × String) : (keyName cwd e).1 = e.1 := by
  rw [keyName]
  split
  · rfl
  · rfl

/-- Two names that are one in a key stand for one file if they do so behind all options but `-I`. -/
theorem fileOf_eq_iff {e e' : String × String} (h : keyName cwd e = keyName cwd' e') :
    Invocation.fileOf cwd e = Invocation.fileOf cwd' e' ↔
      (e.1 ≠ "-I" → cwd.lexicalJoin ⟨e.2⟩ = cwd'.lexicalJoin ⟨e.2⟩) := by
  have hfst : e.1 = e'.1 := by rw [← fst_keyName cwd e, h, fst_keyName]
  by_cases hdirectory : e.1 = "-I"
  · -- The key has the directory itself.
    have hdirectory' : e'.1 = "-I" := by rw [← hfst, hdirectory]
    rw [keyName, keyName, if_pos hdirectory, if_pos hdirectory', Prod.mk.injEq] at h
    have hpath : cwd.lexicalJoin ⟨e.2⟩ = cwd'.lexicalJoin ⟨e'.2⟩ := congrArg Path.mk h.2
    simp [Invocation.fileOf, hdirectory, hdirectory', hpath]
  · have hdirectory' : e'.1 ≠ "-I" := by rwa [← hfst]
    rw [keyName, keyName, if_neg hdirectory, if_neg hdirectory'] at h
    simp [Invocation.fileOf, h, hdirectory']

theorem map_fileOf_eq_iff {names names' : List (String × String)}
    (h : names.map (keyName cwd) = names'.map (keyName cwd')) :
    names.map (Invocation.fileOf cwd) = names'.map (Invocation.fileOf cwd') ↔
      ∀ e ∈ names, e.1 ≠ "-I" → cwd.lexicalJoin ⟨e.2⟩ = cwd'.lexicalJoin ⟨e.2⟩ := by
  induction names generalizing names' with
  | nil =>
      cases names' with
      | nil => simp
      | cons e' names' => simp at h
  | cons e names ih =>
      cases names' with
      | nil => simp at h
      | cons e' names' =>
          rw [List.map_cons, List.map_cons, List.cons.injEq] at h
          rw [List.map_cons, List.map_cons, List.cons.injEq, List.forall_mem_cons,
            fileOf_eq_iff h.1, ih h.2]

/-- **What commands with one key name.** Take commands with one key, run in absolute directories
whose paths are text, and with plain values. They have the same header and give the same names in
the same order, directories behind `-I` as absolute ones. They name the same files just if each name
behind another option stands for the same file in either directory. -/
theorem Same.namedFiles_eq_iff {a b : Invocation} {header header' : Path}
    (ha : a.workingDirectory.isAbsolute = true) (hb : b.workingDirectory.isAbsolute = true)
    (hplain : ∀ u ∈ units a.flags, HasPlainValue a.workingDirectory a.sourceFile u)
    (hplain' : ∀ u ∈ units b.flags, HasPlainValue b.workingDirectory b.sourceFile u)
    (hsame : (ofCommand a header).Same (ofCommand b header')) :
    (a.workingDirectory.lexicalJoin header).Same (b.workingDirectory.lexicalJoin header') ∧
      a.named.map (keyName a.workingDirectory) = b.named.map (keyName b.workingDirectory) ∧
      (a.namedFiles = b.namedFiles ↔ ∀ e ∈ a.named, e.1 ≠ "-I" →
        a.workingDirectory.lexicalJoin ⟨e.2⟩ = b.workingDirectory.lexicalJoin ⟨e.2⟩) := by
  have hflags : relevantFlags a.workingDirectory a.sourceFile a.flags =
      relevantFlags b.workingDirectory b.sourceFile b.flags := hsame.2.2
  have hnames : a.named.map (keyName a.workingDirectory) =
      b.named.map (keyName b.workingDirectory) := by
    calc
      a.named.map (keyName a.workingDirectory)
          = (units (relevantFlags a.workingDirectory a.sourceFile a.flags)).filterMap
              Options.Unit.named? := (filterMap_named?_relevantFlags ha hplain).symm
      _ = (units (relevantFlags b.workingDirectory b.sourceFile b.flags)).filterMap
              Options.Unit.named? := by rw [hflags]
      _ = b.named.map (keyName b.workingDirectory) := filterMap_named?_relevantFlags hb hplain'
  exact ⟨hsame.2.1, hnames, map_fileOf_eq_iff hnames⟩

/-- Of directories whose paths are no text several can have one flag. -/
example : directoryFlag ⟨[0x2F, 0xFF]⟩ = directoryFlag ⟨[0x2F, 0xFE]⟩ := by decide +kernel

/-! ### Two directories -/

/-- Commands have one key for a header if its path and the flags that are left are the same. -/
theorem same_ofCommand {a b : Invocation} {header header' : Path}
    (hheader : a.workingDirectory.lexicalJoin header = b.workingDirectory.lexicalJoin header')
    (hflags : relevantFlags a.workingDirectory a.sourceFile a.flags =
      relevantFlags b.workingDirectory b.sourceFile b.flags) :
    (ofCommand a header).Same (ofCommand b header') := by
  rw [ofCommand, ofCommand, hheader, hflags]
  exact .refl _

/-- A compile of `a.c` in a directory. -/
def compileIn (cwd : String) (flags : List String) : Invocation :=
  { workingDirectory := ⟨cwd⟩
    compiler := "gcc"
    sourceFile := ⟨cwd ++ "/a.c"⟩
    kind := .compile
    flags := flags ++ ["-c", "a.c"]
    output := none
    rawLine := " ".intercalate ("gcc" :: flags ++ ["-c", "a.c"]) }

/-- A directory and a file, each as seen from where the command runs. -/
theorem named_compileIn :
    let one := compileIn "/src/one" ["-I", "../inc", "-include", "/src/config.h"]
    let two := compileIn "/src/two" ["-I../inc", "-include", "/src/config.h"]
    one.workingDirectory.isAbsolute = true ∧ two.workingDirectory.isAbsolute = true ∧
      (∀ u ∈ units one.flags, HasPlainValue one.workingDirectory one.sourceFile u) ∧
      (∀ u ∈ units two.flags, HasPlainValue two.workingDirectory two.sourceFile u) ∧
      (ofCommand one ⟨"/src/common.h"⟩).Same (ofCommand two ⟨"/src/common.h"⟩) ∧
      one.namedFiles = two.namedFiles := by
  intro one two
  have hone : one.workingDirectory.isAbsolute = true := by decide +kernel
  have htwo : two.workingDirectory.isAbsolute = true := by decide +kernel
  have hplain : ∀ u ∈ units one.flags, HasPlainValue one.workingDirectory one.sourceFile u := by
    decide +kernel
  have hplain' : ∀ u ∈ units two.flags, HasPlainValue two.workingDirectory two.sourceFile u := by
    decide +kernel
  have hsame : (ofCommand one ⟨"/src/common.h"⟩).Same (ofCommand two ⟨"/src/common.h"⟩) :=
    same_ofCommand (by decide +kernel) (by decide +kernel)
  rcases Same.namedFiles_eq_iff hone htwo hplain hplain' hsame with ⟨-, -, hfiles⟩
  exact ⟨hone, htwo, hplain, hplain', hsame, hfiles.2 (by decide +kernel)⟩

/-- Under one key the name of a system directory can stand for two directories. -/
theorem namedFiles_ne_systemDirectory :
    let one := compileIn "/src/one" ["-isystem", "inc"]
    let two := compileIn "/src/two" ["-isystem", "inc"]
    one.workingDirectory.isAbsolute = true ∧ two.workingDirectory.isAbsolute = true ∧
      (ofCommand one ⟨"/src/common.h"⟩).Same (ofCommand two ⟨"/src/common.h"⟩) ∧
      one.namedFiles = [("-isystem", ⟨"/src/one/inc"⟩)] ∧
      two.namedFiles = [("-isystem", ⟨"/src/two/inc"⟩)] ∧ one.namedFiles ≠ two.namedFiles :=
  ⟨by decide +kernel, by decide +kernel, same_ofCommand (by decide +kernel) (by decide +kernel),
    by decide +kernel, by decide +kernel, by decide +kernel⟩

end HeaderKey
end BuildTrace
