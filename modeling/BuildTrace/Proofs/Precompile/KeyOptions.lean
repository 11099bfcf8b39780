import BuildTrace.Proofs.Invocation.Scans
import BuildTrace.Proofs.Precompile.NamedFiles

/-!
# KeyOptions — the flags of a key as a reading of options

A key should have of each option of a command either all of it or nothing. It takes fewer options to
have a value than a compiler does, and reads a value it does not look for like a token of its own:

* `HeaderKey.wholeOption` — what a key should have of one option;
* `relevantFlags_eq_cut` — what it has: the same, of the options as it cuts them;
* `HeaderKey.IsFixed` — a token that stays as it is when it is read on its own;
* `flags_ofCommand` — a key has whole options if the values it does not look for are such tokens,
  and in an absolute directory only then; `flags_commonHeader` has such values;
* `flags_ne_wholeOptions` — a value that names the source is dropped, and its option is kept.
-/

namespace BuildTrace
namespace HeaderKey

open Options (units cut cut_cons_lone attached? wantsValue)

variable {cwd source : Path} {flag option token : String} {flags : List String}

/-! ## Whole options -/

/-- The options whose value a key looks for. -/
def valueOptions : List String :=
  "-I" :: namingOptions

/-- What a key should have of an option: nothing if it names a product, a dependency file or the
source, the absolute directory if it is `-I`, and else all of it. -/
def wholeOption (cwd source : Path) : Options.Unit → List String
  | .paired option value =>
    if option ∈ namingOptions then []
    else if option = "-I" then [includeFlag cwd value]
    else [option, value]
  | .lone flag =>
    if flag ∈ valueOptions ∨ flag ∈ productOptions ∨ (attached? "-o" flag).isSome then []
    else if namesSource cwd source flag then []
    else
      match attached? "-I" flag with
      | some dir => [includeFlag cwd dir]
      | none => [flag]

theorem not_mem_valueOptions (h : ¬ (namingOptions.contains flag || flag = "-I") = true) :
    flag ∉ valueOptions := by
  simpa [valueOptions, and_comm] using h

theorem wholeOption_lone_of_mem (h : flag ∈ valueOptions) :
    wholeOption cwd source (.lone flag) = [] :=
  if_pos (Or.inl h)

theorem wholeOption_lone_of_not_mem (h : flag ∉ valueOptions) :
    wholeOption cwd source (.lone flag) = relevantFlags.lone cwd source flag := by
  cases hdir : attached? "-I" flag with
  | none => simp [wholeOption, relevantFlags.lone, h, hdir]
  | some dir => simp [wholeOption, relevantFlags.lone, h, hdir]

theorem wholeOption_paired_of_not_mem (h : option ∉ valueOptions) (value : String) :
    wholeOption cwd source (.paired option value) = [option, value] := by
  rcases not_or.1 (mt List.mem_cons.2 h) with ⟨hne, hnaming⟩
  exact (if_neg hnaming).trans (if_neg hne)

/-! ## What a key reads -/

theorem relevantFlags_eq_cut (cwd source : Path) (flags : List String) :
    relevantFlags cwd source flags =
      (cut valueOptions.contains flags).flatMap (wholeOption cwd source) := by
  fun_induction relevantFlags cwd source flags with
  | case1 => rfl
  | case2 flag h =>
      -- An option whose value is missing at the end is left out by itself.
      have hmem : flag ∈ valueOptions := by simpa [valueOptions, or_comm] using h
      simp [cut, wholeOption_lone_of_mem hmem]
  | case3 flag h =>
      have hmem : flag ∉ valueOptions := not_mem_valueOptions h
      simp [cut, wholeOption_lone_of_not_mem hmem]
  | case4 flag value rest hnaming ih =>
      have hmem : flag ∈ namingOptions := by simpa using hnaming
      simp [cut, valueOptions, wholeOption, hmem, ih]
  | case5 value rest hnaming ih =>
      have hmem : "-I" ∉ namingOptions := by decide
      simp [cut, valueOptions, wholeOption, hmem, ih]
  | case6 flag value rest hnaming hne ih =>
      -- The token behind any other option is read next, as if it were one itself.
      have hmem : flag ∉ valueOptions := not_mem_valueOptions (by simpa [hne] using hnaming)
      rw [cut_cons_lone (Or.inl (by simpa using hmem)), List.flatMap_cons,
        wholeOption_lone_of_not_mem hmem, ih]

/-! ## Tokens that stay as they are -/

/-- A token that stays as it is when it is read on its own. -/
def IsFixed (cwd source : Path) (token : String) : Prop :=
  wholeOption cwd source (.lone token) = [token]

instance : DecidablePred (IsFixed cwd source) := fun _ =>
  inferInstanceAs (Decidable (_ = _))

theorem IsFixed.not_mem_valueOptions (h : IsFixed cwd source token) : token ∉ valueOptions :=
  fun hmem => List.cons_ne_nil token [] (h.symm.trans (wholeOption_lone_of_mem hmem))

/-- An option that takes a value a key does not look for stays as it is. -/
theorem isFixed_of_wantsValue (hwants : wantsValue option = true) (h : option ∉ valueOptions) :
    IsFixed cwd source option := by
  rcases not_or.1 (mt List.mem_cons.2 h) with ⟨hne, hnaming⟩
  exact (wholeOption_lone_of_not_mem h).trans (isPlain_of_wantsValue hwants hnaming hne).lone

theorem not_mem_valueOptions_of_directory {dir : String} (h : attached? "-I" flag = some dir) :
    flag ∉ valueOptions :=
  mt List.mem_cons.1 (not_or.2 ⟨(of_directory h).2.2, (of_directory h).1⟩)

theorem isFixed_includeFlag (hcwd : cwd.isAbsolute = true) (dir : String) :
    IsFixed cwd source (includeFlag cwd dir) := by
  have hdir := attached?_includeFlag hcwd dir
  have hmem : includeFlag cwd dir ∉ valueOptions := not_mem_valueOptions_of_directory hdir
  calc
    wholeOption cwd source (.lone (includeFlag cwd dir))
        = relevantFlags.lone cwd source (includeFlag cwd dir) := wholeOption_lone_of_not_mem hmem
    _ = [includeFlag cwd (cwd.lexicalJoin ⟨dir⟩).spelling] := lone_of_directory hdir
    _ = [includeFlag cwd dir] := by
          -- The directory is absolute and folded already.
          rw [includeFlag, Path.lexicalJoin_lexicalJoin hcwd, includeFlag]

theorem isFixed_of_mem_lone (hcwd : cwd.isAbsolute = true) (hflag : flag ∉ valueOptions)
    (h : token ∈ relevantFlags.lone cwd source flag) : IsFixed cwd source token := by
  cases hdir : attached? "-I" flag with
  | some dir =>
      rw [lone_of_directory hdir] at h
      rw [List.mem_singleton.1 h]
      exact isFixed_includeFlag hcwd dir
  | none =>
      -- Nothing but the token itself is left, so it was not left out.
      rw [eq_of_mem_lone hdir h]
      refine (wholeOption_lone_of_not_mem hflag).trans ?_
      rw [relevantFlags.lone] at h ⊢
      split_ifs at h ⊢
      · exact absurd h List.not_mem_nil
      · exact absurd h List.not_mem_nil
      · rw [hdir]

/-- All flags of a key are such tokens. -/
theorem isFixed_of_mem_relevantFlags (hcwd : cwd.isAbsolute = true)
    (h : token ∈ relevantFlags cwd source flags) : IsFixed cwd source token := by
  fun_induction relevantFlags cwd source flags with
  | case1 => exact absurd h List.not_mem_nil
  | case2 flag hvalue => exact absurd h List.not_mem_nil
  | case3 flag hvalue =>
      exact isFixed_of_mem_lone hcwd (not_mem_valueOptions hvalue) h
  | case4 flag value rest hnaming ih => exact ih h
  | case5 value rest hnaming ih =>
      rcases List.mem_cons.1 h with rfl | h
      · exact isFixed_includeFlag hcwd value
      · exact ih h
  | case6 flag value rest hnaming hne ih =>
      have hmem : flag ∉ valueOptions := not_mem_valueOptions (by simpa [hne] using hnaming)
      rcases List.mem_append.1 h with h | h
      · exact isFixed_of_mem_lone hcwd hmem h
      · exact ih h

/-! ## Keys of commands -/

/-- **The flags of a key and the options of its command.** A key reads the flags as if only `-I` and
the options that name a product had a value. It has what it should have of each option, in their
order, if the values of all other options stay as they are when they are read on their own; for a
command run in an absolute directory it has so only then. -/
theorem flags_ofCommand (i : Invocation) (header : Path) :
    (ofCommand i header).flags =
        (cut valueOptions.contains i.flags).flatMap (wholeOption i.workingDirectory i.sourceFile) ∧
      ((∀ option value, .paired option value ∈ units i.flags → option ∉ valueOptions →
          IsFixed i.workingDirectory i.sourceFile value) →
        (ofCommand i header).flags =
          (units i.flags).flatMap (wholeOption i.workingDirectory i.sourceFile)) ∧
      (i.workingDirectory.isAbsolute = true →
        (ofCommand i header).flags =
          (units i.flags).flatMap (wholeOption i.workingDirectory i.sourceFile) →
        ∀ option value, .paired option value ∈ units i.flags → option ∉ valueOptions →
          IsFixed i.workingDirectory i.sourceFile value) := by
  have hcut : (ofCommand i header).flags =
      (cut valueOptions.contains i.flags).flatMap
        (wholeOption i.workingDirectory i.sourceFile) := relevantFlags_eq_cut _ _ _
  refine ⟨hcut, ?_, ?_⟩
  · -- Options that are cut apart leave behind their two tokens.
    intro hvalues
    rw [hcut]
    apply Options.flatMap_cut_of_split
    case hsmaller =>
      have hall : ∀ o ∈ valueOptions, wantsValue o = true := by decide
      exact fun o ho => hall o (by simpa using ho)
    case hsplit =>
      intro option value hmem hwants hnot
      have hoption : option ∉ valueOptions := by simpa using hnot
      have hvalue := hvalues option value hmem hoption
      refine ⟨by simpa using hvalue.not_mem_valueOptions, ?_⟩
      rw [wholeOption_paired_of_not_mem hoption, isFixed_of_wantsValue hwants hoption, hvalue]
      rfl
  · intro hcwd hwhole option value hmem hoption
    -- The value is among the flags of the key, as it should be.
    have hkept : value ∈ (units i.flags).flatMap
        (wholeOption i.workingDirectory i.sourceFile) :=
      List.mem_flatMap.2 ⟨_, hmem, by simp [wholeOption_paired_of_not_mem hoption]⟩
    rw [← hwhole] at hkept
    exact isFixed_of_mem_relevantFlags hcwd hkept

/-- A compile that reads a header first and writes a dependency file. -/
def commonHeader : Invocation :=
  { workingDirectory := ⟨"/src"⟩
    compiler := "gcc"
    sourceFile := ⟨"/src/a.c"⟩
    kind := .compile
    flags := ["-include", "common.h", "-MF", "a.d", "-Iinc", "-c", "a.c"]
    output := none
    rawLine := "gcc -include common.h -MF a.d -Iinc -c a.c" }

theorem flags_commonHeader :
    (ofCommand commonHeader ⟨"common.h"⟩).flags =
      (units commonHeader.flags).flatMap
        (wholeOption commonHeader.workingDirectory commonHeader.sourceFile) := by
  have hunits : units commonHeader.flags = [.paired "-include" "common.h", .paired "-MF" "a.d",
      .lone "-Iinc", .lone "-c", .lone "a.c"] := by decide +kernel
  apply (flags_ofCommand commonHeader ⟨"common.h"⟩).2.1
  intro option value hmem hnot
  simp only [hunits, List.mem_cons, Options.Unit.paired.injEq, reduceCtorEq, List.not_mem_nil,
    or_false] at hmem
  rcases hmem with ⟨rfl, rfl⟩ | ⟨rfl, rfl⟩
  · decide +kernel
  · exact absurd (by decide) hnot

/-- A command that compiles a header and reads it first. -/
def headerReadFirst : Invocation :=
  { workingDirectory := ⟨"/src"⟩
    compiler := "gcc"
    sourceFile := ⟨"/src/pch.h"⟩
    kind := .precompiledHeader
    flags := ["-include", "pch.h", "-x", "c-header", "pch.h"]
    output := none
    rawLine := "gcc -include pch.h -x c-header pch.h" }

/-- The value of an option is dropped for the source, and the option is left without it. -/
theorem flags_ne_wholeOptions :
    (ofCommand headerReadFirst ⟨"pch.h"⟩).flags = ["-include", "-x", "c-header"] ∧
      (units headerReadFirst.flags).flatMap
          (wholeOption headerReadFirst.workingDirectory headerReadFirst.sourceFile) =
        ["-include", "pch.h", "-x", "c-header"] := by
  decide +kernel

end HeaderKey
end BuildTrace
