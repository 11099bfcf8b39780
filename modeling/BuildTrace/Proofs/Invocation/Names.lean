import BuildTrace.Proofs.Invocation.Labelled
import Mathlib.Data.List.Basic

/-!
# Names — what a token is called

A token is known by the part behind its last separator, and a file by what stands behind the last
dot there. What the readers of names find is said here by what the names look like:

* `Behind`, `LastPart`, `HasEnding` — the last part of a token, and its ending;
* `IsCompilerName` — target parts, a base and perhaps a version, with hyphens between them;
* `NamesLauncher`, `NamesCompiler`, `NamesSource`, `NamesHeader` — tokens by their last parts;
* `isLauncher_iff`, `isCompilerName_baseName_iff`, `endsAsSource_iff`, `endsAsHeader_iff` — the
  readers find just these.
-/

namespace BuildTrace
namespace Recognise

variable {token base name rest part : List Char} {word : String} {x : Char}

/-! ## Last parts -/

/-- `rest` is what stands behind the last `x` of a text. -/
def Behind (x : Char) (text rest : List Char) : Prop :=
  x ∉ rest ∧ ∃ front, text = front ++ x :: rest

/-- The part of a token behind its last separator, or all of it. -/
def LastPart (token base : List Char) : Prop :=
  ('/' ∉ token ∧ base = token) ∨ Behind '/' token base

/-- The last part of a token ends in a dot and `ending`. -/
def HasEnding (token ending : List Char) : Prop :=
  ∃ base, LastPart token base ∧ Behind '.' base ending

theorem reverse_takeWhile_of_behind (h : Behind x token rest) :
    (token.reverse.takeWhile (· ≠ x)).reverse = rest := by
  rcases h with ⟨hx, front, rfl⟩
  have hcut : (front ++ x :: rest).reverse = rest.reverse ++ x :: front.reverse := by simp
  rw [hcut, Text.takeWhile_ne_append (by simpa using hx), List.reverse_reverse]

theorem behind_reverse_takeWhile (hx : x ∈ token) :
    Behind x token (token.reverse.takeWhile (· ≠ x)).reverse := by
  rcases List.eq_append_cons_of_mem (List.mem_reverse.2 hx) with ⟨back, front, hcut, hback⟩
  have htoken : token = front.reverse ++ x :: back.reverse := by
    rw [← List.reverse_reverse token, hcut]
    simp
  rw [hcut, Text.takeWhile_ne_append hback]
  exact ⟨by simpa using hback, front.reverse, htoken⟩

theorem baseName_eq_iff : baseName token = base ↔ LastPart token base := by
  constructor
  · rintro rfl
    by_cases hslash : '/' ∈ token
    · exact Or.inr (behind_reverse_takeWhile hslash)
    · exact Or.inl ⟨hslash, baseName_eq_self hslash⟩
  · rintro (⟨hslash, rfl⟩ | hbehind)
    · exact baseName_eq_self hslash
    · exact reverse_takeWhile_of_behind hbehind

theorem nameEnding?_eq_some_iff {ending : String} :
    nameEnding? word = some ending ↔ HasEnding word.toList ending.toList := by
  constructor
  · intro hending
    rw [nameEnding?] at hending
    split at hending
    · next hdot =>
      rw [Option.some.injEq] at hending
      refine ⟨baseName word.toList, baseName_eq_iff.1 rfl, ?_⟩
      rw [← hending, String.toList_ofList]
      exact behind_reverse_takeWhile (by simpa using hdot)
    · cases hending
  · rintro ⟨base, hbase, hbehind⟩
    have hdot : base.reverse.contains '.' = true := by
      rcases hbehind with ⟨-, stem, rfl⟩
      simp
    rw [nameEnding?, baseName_eq_iff.2 hbase]
    simp only [hdot, if_true]
    rw [reverse_takeWhile_of_behind hbehind, String.ofList_toList]

/-! ## Compilers -/

/-- A name of the form `target-…-target-base-version`: the target parts are of word characters, dots
and plus signs, and the version, which may be missing, of digits and dots. -/
def IsCompilerName (name : List Char) : Prop :=
  ∃ (targets : List (List Char)) (base : String) (version : List Char),
    (∀ part ∈ targets, part ≠ [] ∧ ∀ c ∈ part, Text.isWordChar c = true ∨ c = '.' ∨ c = '+') ∧
    base ∈ compilerBases ∧
    (version = [] ∨ ∃ number, version = '-' :: number ∧ number ≠ [] ∧
      ∀ c ∈ number, Text.isDecimalDigit c = true ∨ c = '.') ∧
    name = targets.flatMap (· ++ ['-']) ++ base.toList ++ version

theorem isTargetPart_iff : isTargetPart part = true ↔
    part ≠ [] ∧ ∀ c ∈ part, Text.isWordChar c = true ∨ c = '.' ∨ c = '+' := by
  simp [isTargetPart, or_assoc]

theorem isVersionPart_iff : isVersionPart part = true ↔
    part ≠ [] ∧ ∀ c ∈ part, Text.isDecimalDigit c = true ∨ c = '.' := by
  simp [isVersionPart]

theorem isBasePart_iff : isBasePart part = true ↔ ∃ base ∈ compilerBases, part = base.toList := by
  rw [isBasePart, List.contains_iff_mem]
  constructor
  · intro hbase
    exact ⟨_, hbase, String.toList_ofList.symm⟩
  · rintro ⟨base, hbase, rfl⟩
    rwa [String.ofList_toList]

/-- No part of a name has a hyphen in it. -/
theorem hyphen_not_mem_of_isTargetPart (h : isTargetPart part = true) : '-' ∉ part := by
  intro hmem
  rcases (isTargetPart_iff.1 h).2 _ hmem with hword | hdot | hplus
  · exact absurd hword (by decide +kernel)
  · exact absurd hdot (by decide)
  · exact absurd hplus (by decide)

theorem hyphen_not_mem_of_isVersionPart (h : isVersionPart part = true) : '-' ∉ part := by
  intro hmem
  rcases (isVersionPart_iff.1 h).2 _ hmem with hdigit | hdot
  · exact absurd hdigit (by decide +kernel)
  · exact absurd hdot (by decide)

theorem hyphen_not_mem_of_isBasePart (h : isBasePart part = true) : '-' ∉ part := by
  have hbases : ∀ base ∈ compilerBases, '-' ∉ base.toList := by decide
  rcases isBasePart_iff.1 h with ⟨base, hbase, rfl⟩
  exact hbases base hbase

theorem hyphenParts_eq_splitOn (name : List Char) : hyphenParts name = name.splitOn '-' := by
  induction name with
  | nil => rfl
  | cons c cs ih =>
      rw [hyphenParts, List.splitOn_cons_eq_if_modifyHead, ih]
      by_cases hc : c = '-'
      · simp [hc]
      · cases hparts : cs.splitOn '-' with
        | nil => exact absurd hparts (List.splitOn_ne_nil _ _)
        | cons part parts => simp [hc]

theorem intercalate_concat (front : List (List Char)) (last : List Char) :
    ['-'].intercalate (front ++ [last]) = front.flatMap (· ++ ['-']) ++ last := by
  induction front with
  | nil => simp
  | cons part front ih =>
      rw [List.cons_append, List.intercalate_cons_of_ne_nil (by simp), ih]
      simp

theorem eq_of_hyphenParts {front : List (List Char)} {last : List Char}
    (h : hyphenParts name = front ++ [last]) : name = front.flatMap (· ++ ['-']) ++ last := by
  rw [← intercalate_concat, ← h, hyphenParts_eq_splitOn, List.intercalate_splitOn]

theorem hyphenParts_of_parts {front : List (List Char)} {last : List Char}
    (h : ∀ part ∈ front ++ [last], '-' ∉ part) :
    hyphenParts (front.flatMap (· ++ ['-']) ++ last) = front ++ [last] := by
  rw [hyphenParts_eq_splitOn, ← intercalate_concat]
  exact List.splitOn_intercalate '-' h (by simp)

/-- The parts of a name decide whether it is that of a compiler. -/
theorem isCompilerName_of_parts {front : List (List Char)} {last : List Char}
    (h : hyphenParts name = front ++ [last]) :
    isCompilerName name = true ↔
      (isBasePart last = true ∧ ∀ part ∈ front, isTargetPart part = true) ∨
        ∃ targets base, front = targets ++ [base] ∧ isBasePart base = true ∧
          isVersionPart last = true ∧ ∀ part ∈ targets, isTargetPart part = true := by
  rw [isCompilerName, h, List.reverse_append]
  rcases List.eq_nil_or_concat' front with rfl | ⟨targets, base, rfl⟩
  · simp
  · simp [and_assoc, or_imp, forall_and, and_comm]

theorem isCompilerName_iff : isCompilerName name = true ↔ IsCompilerName name := by
  constructor
  · intro hname
    rcases List.eq_nil_or_concat' (hyphenParts name) with hnil | ⟨front, last, hparts⟩
    · rw [isCompilerName, hnil] at hname
      cases hname
    · have hcut := eq_of_hyphenParts hparts
      -- The last part is the base, or the version with the base in front of it.
      rcases (isCompilerName_of_parts hparts).1 hname with
        ⟨hbase, htargets⟩ | ⟨targets, base, rfl, hbase, hversion, htargets⟩
      · rcases isBasePart_iff.1 hbase with ⟨base, hmem, rfl⟩
        exact ⟨front, base, [], fun part hpart => isTargetPart_iff.1 (htargets part hpart), hmem,
          Or.inl rfl, by simpa using hcut⟩
      · rcases isBasePart_iff.1 hbase with ⟨base, hmem, rfl⟩
        rcases isVersionPart_iff.1 hversion with ⟨hne, hchars⟩
        exact ⟨targets, base, '-' :: last,
          fun part hpart => isTargetPart_iff.1 (htargets part hpart), hmem,
          Or.inr ⟨last, rfl, hne, hchars⟩, by simpa using hcut⟩
  · rintro ⟨targets, base, version, htargets, hmem, hversion, rfl⟩
    have hbase : isBasePart base.toList = true := isBasePart_iff.2 ⟨base, hmem, rfl⟩
    have htarget : ∀ part ∈ targets, isTargetPart part = true := fun part hpart =>
      isTargetPart_iff.2 (htargets part hpart)
    -- The parts have no hyphens in them, so the name is cut between them and nowhere else.
    have hfront : ∀ part ∈ targets ++ [base.toList], '-' ∉ part := by
      intro part hpart
      rcases List.mem_append.1 hpart with hpart | hpart
      · exact hyphen_not_mem_of_isTargetPart (htarget part hpart)
      · rw [List.mem_singleton.1 hpart]
        exact hyphen_not_mem_of_isBasePart hbase
    rcases hversion with rfl | ⟨number, rfl, hne, hchars⟩
    · rw [List.append_nil]
      exact (isCompilerName_of_parts (hyphenParts_of_parts hfront)).2 (Or.inl ⟨hbase, htarget⟩)
    · have hnumber : isVersionPart number = true := isVersionPart_iff.2 ⟨hne, hchars⟩
      have hall : ∀ part ∈ (targets ++ [base.toList]) ++ [number], '-' ∉ part := by
        intro part hpart
        rcases List.mem_append.1 hpart with hpart | hpart
        · exact hfront part hpart
        · rw [List.mem_singleton.1 hpart]
          exact hyphen_not_mem_of_isVersionPart hnumber
      have hname : targets.flatMap (· ++ ['-']) ++ base.toList ++ '-' :: number =
          (targets ++ [base.toList]).flatMap (· ++ ['-']) ++ number := by simp
      rw [hname]
      exact (isCompilerName_of_parts (hyphenParts_of_parts hall)).2
        (Or.inr ⟨targets, base.toList, rfl, hbase, hnumber, htarget⟩)

/-! ## Tokens by their last parts -/

/-- The word names a launcher, in any directory. -/
def NamesLauncher (word : String) : Prop :=
  ∃ name ∈ launchers, LastPart word.toList name.toList

/-- The word names a compiler, in any directory. -/
def NamesCompiler (word : String) : Prop :=
  ∃ name, LastPart word.toList name ∧ IsCompilerName name

/-- The word has the ending of a header. -/
def NamesHeader (word : String) : Prop :=
  ∃ ending ∈ headerEndings, HasEnding word.toList ending.toList

/-- The word has the ending of a source or a header. -/
def NamesSource (word : String) : Prop :=
  ∃ ending ∈ sourceEndings ++ headerEndings, HasEnding word.toList ending.toList

theorem isLauncher_iff : isLauncher word = true ↔ NamesLauncher word := by
  rw [isLauncher, List.contains_iff_mem]
  constructor
  · intro hmem
    exact ⟨_, hmem, by rw [String.toList_ofList, ← baseName_eq_iff]⟩
  · rintro ⟨name, hmem, hlast⟩
    rwa [baseName_eq_iff.2 hlast, String.ofList_toList]

theorem isCompilerName_baseName_iff :
    isCompilerName (baseName word.toList) = true ↔ NamesCompiler word := by
  rw [isCompilerName_iff]
  constructor
  · intro hname
    exact ⟨_, baseName_eq_iff.1 rfl, hname⟩
  · rintro ⟨name, hlast, hname⟩
    rwa [baseName_eq_iff.2 hlast]

theorem any_nameEnding?_iff {test : String → Bool} : (nameEnding? word).any test = true ↔
    ∃ ending, test ending = true ∧ HasEnding word.toList ending.toList := by
  rw [Option.any_eq_true]
  simp only [nameEnding?_eq_some_iff, and_comm]

theorem endsAsHeader_iff : endsAsHeader word = true ↔ NamesHeader word := by
  simp [endsAsHeader, any_nameEnding?_iff, NamesHeader]

theorem endsAsSource_iff : endsAsSource word = true ↔ NamesSource word := by
  simp [endsAsSource, any_nameEnding?_iff, NamesSource]

end Recognise
end BuildTrace
