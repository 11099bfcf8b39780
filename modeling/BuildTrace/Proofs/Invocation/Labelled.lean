import BuildTrace.Invocation.Recognise
import BuildTrace.Proofs.Directory.Announcement
import BuildTrace.Proofs.Shell.Words

/-!
# Labelled — lines that are no commands

Lines are offered as commands before they are searched for announcements, so what `make` says about
directories must not look like a command:

* `Text.trim_eq_self` — a text without blanks at its ends;
* `Invocation.ofLine?_of_labelled` — a line whose first word ends in a colon is no command;
* `Directory.Announcement.ofLine?_of_isLine` — the lines of `make` are such lines.
-/

namespace BuildTrace

theorem Text.trim_eq_self {first last : Char} {cs : List Char}
    (hfirst : Text.isBlank first = false) (hlast : Text.isBlank last = false) :
    Text.trim (first :: cs ++ [last]) = first :: cs ++ [last] := by
  have hstart : Text.trimStart (first :: cs ++ [last]) = first :: cs ++ [last] := by
    simp [Text.trimStart, hfirst]
  rw [Text.trim, hstart, Text.trimEnd]
  simp [hlast]

namespace Recognise

/-! ## Words that end in a colon -/

variable {word : List Char}

theorem baseName_eq_self (h : '/' ∉ word) : baseName word = word := by
  have hrev : ∀ c ∈ word.reverse, (c ≠ '/' : Bool) :=
    Text.ne_of_not_mem (by simpa using h)
  rw [baseName, List.takeWhile_eq_self_iff.2 hrev, List.reverse_reverse]

theorem hyphenParts_eq_singleton (h : '-' ∉ word) : hyphenParts word = [word] := by
  induction word with
  | nil => rfl
  | cons c cs ih =>
      rw [List.mem_cons, not_or] at h
      rw [hyphenParts, if_neg (Ne.symm h.1), ih h.2]

/-- No name of a program ends in a colon. -/
theorem ofList_colon_not_mem {names : List String}
    (hnames : ∀ n ∈ names, n.toList.getLast? ≠ some ':') (label : List Char) :
    names.contains (String.ofList (label ++ [':'])) = false := by
  rw [List.contains_eq_mem, decide_eq_false_iff_not]
  intro hmem
  exact hnames _ hmem (by simp)

theorem isLauncher_colon {label : List Char} (h : '/' ∉ label) :
    isLauncher (String.ofList (label ++ [':'])) = false := by
  have hword : '/' ∉ label ++ [':'] := by simpa using h
  rw [isLauncher, String.toList_ofList, baseName_eq_self hword]
  exact ofList_colon_not_mem (by decide) label

theorem isCompilerName_colon {label : List Char} (h : '-' ∉ label) :
    isCompilerName (label ++ [':']) = false := by
  have hword : '-' ∉ label ++ [':'] := by simpa using h
  have hbase : isBasePart (label ++ [':']) = false := ofList_colon_not_mem (by decide) label
  rw [isCompilerName, hyphenParts_eq_singleton hword]
  simp [hbase]

end Recognise

open Recognise in
/-- A line whose first word ends in a colon and names no path is no command. -/
theorem Invocation.ofLine?_of_labelled {line : String} {label rest : List Char}
    (hline : commandText line = label ++ ':' :: ' ' :: rest)
    (hplain : ∀ c ∈ label, Shell.IsPlain c) (hslash : '/' ∉ label) (hhyphen : '-' ∉ label)
    (cwd : Path) : Invocation.ofLine? cwd line = none := by
  have hword : ∀ c ∈ label ++ [':'], Shell.IsPlain c := by
    intro c hc
    rcases List.mem_append.1 hc with hc | hc
    · exact hplain c hc
    · rw [List.mem_singleton.1 hc]
      exact ⟨by decide, by decide, by decide, by decide⟩
  unfold Invocation.ofLine?
  cases hwords : Shell.words? (commandText line) with
  | none => rfl
  | some words =>
      -- Quotes further on may go wrong, but the first word is decided by then.
      have hhead : words.head? = some (String.ofList (label ++ [':'])) := by
        have hcut : commandText line = (label ++ [':']) ++ ' ' :: rest := by simp [hline]
        rw [hcut] at hwords
        exact Shell.head?_words? (by simp) hword (by decide) hwords
      rcases List.head?_eq_some_iff.1 hhead with ⟨flags, rfl⟩
      have hfirst : '/' ∉ label ++ [':'] := by simpa using hslash
      simp only [Option.map_some, List.dropWhile_cons, isLauncher_colon hslash, Bool.false_eq_true,
        if_false, String.toList_ofList, baseName_eq_self hfirst, isCompilerName_colon hhyphen]

/-! ## The lines of `make` -/

namespace Directory

/-- The characters of a label, given by their codes: digits, brackets and small letters. -/
def IsLabelChar (c : Char) : Prop :=
  (48 ≤ c.toNat ∧ c.toNat ≤ 57) ∨ c.toNat = 91 ∨ (93 ≤ c.toNat ∧ c.toNat ≤ 109)

instance : DecidablePred IsLabelChar := fun _ => inferInstanceAs (Decidable (_ ∨ _ ∨ _))

theorem IsMakeLabel.isLabelChar {label : List Char} (h : IsMakeLabel label) :
    ∀ c ∈ label, IsLabelChar c := by
  rcases h.eq_append with ⟨level, rfl, hlevel⟩
  intro c hc
  rcases List.mem_append.1 hc with hc | hc
  · have hname : c = 'm' ∨ c = 'a' ∨ c = 'k' ∨ c = 'e' := by simpa using hc
    rcases hname with rfl | rfl | rfl | rfl
    all_goals decide
  · rcases hlevel c hc with rfl | rfl | hdigit
    · decide
    · decide
    · have hcode : 48 ≤ c.toNat ∧ c.toNat ≤ 57 := by
        simpa [Char.isDigit, UInt32.le_iff_toNat_le] using hdigit
      exact Or.inl hcode

theorem IsLabelChar.isPlain {c : Char} (h : IsLabelChar c) : Shell.IsPlain c := by
  -- Quotes and the backslash have other codes, and so have all blanks.
  have hne : ∀ b, ¬ IsLabelChar b → c ≠ b := fun b hb hcb => hb (hcb ▸ h)
  have hspace : c ≠ ' ' := hne _ (by decide)
  refine ⟨?_, hne _ (by decide), hne _ (by decide), hne _ (by decide)⟩
  unfold IsLabelChar at h
  simp only [Text.isBlank, hspace, Bool.or_eq_false_iff, Bool.and_eq_false_iff,
    decide_eq_false_iff_not, not_false_eq_true, true_and]
  omega

/-- What `make` says about a directory is no command. -/
theorem Announcement.ofLine?_of_isLine {a : Announcement} {line : String} (h : a.IsLine line)
    (cwd : Path) : Invocation.ofLine? cwd line = none := by
  rcases h with ⟨label, quote, hlabel, -, hline⟩
  have hchars := hlabel.isLabelChar
  -- A label is no path and has no hyphen, so it could only be the name of a program as a whole.
  have hnot : ∀ b, ¬ IsLabelChar b → b ∉ label := fun b hb hmem => hb (hchars b hmem)
  -- The line begins with a letter and ends with an apostrophe, so nothing is taken off.
  have htext : Recognise.commandText line = line.toList := by
    rcases hlabel.eq_append with ⟨level, hcut, -⟩
    have hends : line.toList = 'm' :: ("ake".toList ++ level ++ ": ".toList ++ a.verb.toList ++
        " directory ".toList ++ quote :: a.dir.toList) ++ ['\''] := by
      simp [hline, hcut]
    have htrim : Text.trim line.toList = line.toList := by
      rw [hends]
      exact Text.trim_eq_self (by decide) (by decide)
    rw [Recognise.commandText, htrim, hends]
    simp [List.isPrefixOf?]
  have hcolon : line.toList = label ++ ':' :: ' ' :: (a.verb.toList ++ " directory ".toList ++
      quote :: a.dir.toList ++ ['\'']) := by
    simp [hline]
  exact Invocation.ofLine?_of_labelled (htext.trans hcolon) (fun c hc => (hchars c hc).isPlain)
    (hnot _ (by decide)) (hnot _ (by decide)) cwd

end Directory
end BuildTrace
