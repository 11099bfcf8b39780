import BuildTrace.Toml.Printer
import Mathlib.Tactic.SplitIfs

/-!
# Strings — a string is read back from its text

* `Written` — the ways to write a character in quotes;
* `basic?_basicBody`, `literal?_append`, `basicLines?_basicLinesBody`, `literalLines?_append` — each
  of the four forms is read back;
* `le_longestRun`, `of_formOf_literal`, `of_formOf_literalLines` — what the choice of a form says
  about the string;
* `string?_stringText` — so a string is read back from its text.

Between triple quotes the last quotes of the string stand in one row with those that close it, and
are told apart by their number. So what comes behind must not begin with one more.
-/

namespace BuildTrace
namespace Toml

variable {c : Char} {cs rest written : List Char}

/-! ## Characters -/

theorem isPlain_of_not_needsEscape (h : needsEscape c = false) (hline : c ≠ '\n') :
    isPlain c = true := by
  by_cases htab : c = '\t'
  · simp [isPlain, htab]
  · have hrange : 0x20 ≤ c.toNat ∧ c.toNat ≠ 0x7F := by
      simpa [needsEscape, hline, htab] using h
    have hblank : ' ' ≤ c := by
      rw [Char.le_def, UInt32.le_iff_toNat_le]
      exact hrange.1
    simp [isPlain, hblank, hrange.2]

theorem hexValue?_hexDigit : ∀ n < 16, hexValue? (hexDigit n) = some n := by
  decide

theorem charOf?_toNat (c : Char) : charOf? c.toNat = some c := by
  have hvalid : c.toNat.isValidChar := c.valid
  have hchar : Char.ofNatAux c.toNat hvalid = c := Char.ext (UInt32.toNat_inj.1 rfl)
  rw [charOf?, dif_pos hvalid, hchar]

theorem hexChar?_hexDigit (h : c.toNat < 256) :
    hexChar? ['0', '0', hexDigit (c.toNat / 16), hexDigit (c.toNat % 16)] = some c := by
  have hhigh := hexValue?_hexDigit (c.toNat / 16) (by omega)
  have hlow := hexValue?_hexDigit (c.toNat % 16) (by omega)
  have hzero : hexValue? '0' = some 0 := rfl
  simp [hexChar?, hexNumber?, hhigh, hlow, hzero, Nat.div_add_mod, charOf?_toNat]

/-- The ways to write a character in quotes. -/
inductive Written (c : Char) : List Char → Prop
  | letter {e : Char} (he : escaped? e = some c) : Written c ['\\', e]
  | digits {high low : Char} (hc : hexChar? ['0', '0', high, low] = some c) :
      Written c ['\\', 'u', '0', '0', high, low]
  | plain (hplain : isPlain c = true) (hslash : c ≠ '\\') (hquote : c ≠ '"') : Written c [c]

theorem written_escapeChar (hquote : c ≠ '"') (hline : c ≠ '\n') : Written c (escapeChar c) := by
  unfold escapeChar
  split_ifs with htab hslash hreturn hback hfeed hescape
  · subst htab; exact .letter rfl
  · subst hslash; exact .letter rfl
  · subst hreturn; exact .letter rfl
  · have hc : c = Char.ofNat 8 := by rw [← hback, Char.ofNat_toNat]
    subst hc; exact .letter rfl
  · have hc : c = Char.ofNat 12 := by rw [← hfeed, Char.ofNat_toNat]
    subst hc; exact .letter rfl
  · apply Written.digits
    apply hexChar?_hexDigit
    simp only [needsEscape, Bool.and_eq_true, Bool.or_eq_true, decide_eq_true_eq] at hescape
    omega
  · exact .plain (isPlain_of_not_needsEscape (by simpa using hescape) hline) hslash hquote

/-- What is written for a character begins neither with a quote nor with a line break. -/
theorem Written.ne_nil (h : Written c written) : ∃ d ds, written = d :: ds ∧
    d ≠ '"' ∧ d ≠ '\n' ∧ d ≠ '\r' := by
  cases h with
  | letter | digits => exact ⟨_, _, rfl, by decide, by decide, by decide⟩
  | plain hplain _ hquote =>
      refine ⟨c, [], rfl, hquote, ?_, ?_⟩ <;>
        · rintro rfl
          simp [isPlain] at hplain

/-- The letter of an escape is neither a mark for digits, nor does it end the line. -/
theorem not_mem_of_escaped? {e : Char} (he : escaped? e = some c) :
    e ∉ ['u', 'U', ' ', '\t', '\n', '\r'] := by
  intro hmem
  simp only [List.mem_cons, List.not_mem_nil, or_false] at hmem
  rcases hmem with rfl | rfl | rfl | rfl | rfl | rfl <;> simp [escaped?] at he

theorem basic?_written (h : Written c written) (rest : List Char) :
    basic? (written ++ rest) = consTo c (basic? rest) := by
  cases h with
  | @letter e he =>
      have hmarks := not_mem_of_escaped? he
      simp only [List.mem_cons, not_or] at hmarks
      simp [basic?, hmarks, he]
  | digits hc => simp [basic?, hc]
  | plain hplain hslash hquote => simp [basic?, hplain, hslash]

theorem basicLines?_written (h : Written c written) (rest : List Char) :
    basicLines? false (written ++ rest) = consTo c (basicLines? false rest) := by
  cases h with
  | @letter e he =>
      have hmarks := not_mem_of_escaped? he
      simp only [List.mem_cons, not_or] at hmarks
      have hrest : isLineRest (e :: rest) = false := by
        simp [isLineRest, skipBlanks, isBlank, newLine?, hmarks]
      simp [basicLines?, hmarks, hrest, he]
  | digits hc => simp [basicLines?, hc]
  | plain hplain hslash hquote =>
      have hreturn : c ≠ '\r' := by
        rintro rfl
        simp [isPlain] at hplain
      simp [basicLines?, hplain, hslash, hquote, hreturn]

/-! ## One line -/

theorem exists_basicBody_cons (c : Char) (cs : List Char) :
    ∃ written, Written c written ∧ basicBody (c :: cs) = written ++ basicBody cs := by
  refine ⟨_, ?_, rfl⟩
  split_ifs with hquote hline
  · subst hquote; exact .letter rfl
  · subst hline; exact .letter rfl
  · exact written_escapeChar hquote hline

theorem basic?_basicBody (cs rest : List Char) :
    basic? (basicBody cs ++ '"' :: rest) = some (cs, rest) := by
  induction cs with
  | nil => simp [basicBody, basic?]
  | cons c cs ih =>
      rcases exists_basicBody_cons c cs with ⟨written, hwritten, hbody⟩
      simp [hbody, basic?_written hwritten, ih, consTo]

theorem literal?_append (hplain : ∀ c ∈ cs, isPlain c = true ∧ c ≠ '\'') (rest : List Char) :
    literal? (cs ++ '\'' :: rest) = some (cs, rest) := by
  induction cs with
  | nil => simp [literal?]
  | cons c cs ih =>
      have hc := hplain c List.mem_cons_self
      have hmore := ih fun d hd => hplain d (List.mem_cons_of_mem c hd)
      simp [literal?, hc, hmore, consTo]

/-! ## Several lines -/

/-- A quote that is no part of a closing stands for itself. -/
theorem basicLines?_quote (h : ∀ tail, cs ≠ '"' :: '"' :: tail) :
    basicLines? false ('"' :: cs) = consTo '"' (basicLines? false cs) := by
  have hplain : isPlain '"' = true := by decide
  rw [basicLines?] <;> simp_all

theorem literalLines?_apostrophe (h : ∀ tail, cs ≠ '\'' :: '\'' :: tail) :
    literalLines? ('\'' :: cs) = consTo '\'' (literalLines? cs) := by
  have hplain : isPlain '\'' = true := by decide
  rw [literalLines?] <;> simp_all

/-- A text of several lines does not go on with a quote, unless it has one that is not escaped. -/
theorem basicLinesBody_append_ne {run : Nat} (h : c = '"' → 2 ≤ run) (tail : List Char) :
    basicLinesBody run (c :: cs) ++ rest ≠ '"' :: tail := by
  by_cases hquote : c = '"'
  · have hrun : ¬ run < 2 := by
      have := h hquote
      omega
    simp [basicLinesBody, hquote, hrun]
  · by_cases hline : c = '\n'
    · simp [basicLinesBody, hline]
    · rcases (written_escapeChar hquote hline).ne_nil with ⟨d, ds, hd, hne⟩
      simp [basicLinesBody, hquote, hline, hd, hne]

/-- Behind a quote that is not escaped, two more stand only at the end of the text. -/
theorem eq_of_basicLinesBody_append_eq {run : Nat} {tail : List Char}
    (h : basicLinesBody (run + 1) cs ++ rest = '"' :: '"' :: tail) :
    cs = [] ∨ cs = ['"'] ∧ run = 0 := by
  rcases cs with _ | ⟨c, cs⟩
  · exact Or.inl rfl
  · right
    by_cases hfirst : c = '"' → 2 ≤ run + 1
    · exact absurd h (basicLinesBody_append_ne hfirst _)
    · have hzero : c = '"' ∧ run = 0 := by
        rw [Classical.not_imp] at hfirst
        exact ⟨hfirst.1, by omega⟩
      rcases hzero with ⟨rfl, rfl⟩
      rcases cs with _ | ⟨d, cs⟩
      · exact ⟨rfl, rfl⟩
      · -- The second quote would be the third in a row, which is escaped.
        have hsecond : basicLinesBody 2 (d :: cs) ++ rest = '"' :: tail := by
          simpa [basicLinesBody] using h
        exact absurd hsecond (basicLinesBody_append_ne (fun _ => Nat.le_refl 2) _)

theorem basicLines?_basicLinesBody (hrest : rest.head? ≠ some '"') : ∀ (cs : List Char) (run : Nat),
    basicLines? false (basicLinesBody run cs ++ '"' :: '"' :: '"' :: rest) = some (cs, rest) := by
  have hclose : ∀ tail, rest ≠ '"' :: tail := by
    rintro tail rfl
    exact hrest rfl
  intro cs
  induction cs with
  | nil =>
      intro run
      simp [basicLinesBody, basicLines?, hclose]
  | cons c cs ih =>
      intro run
      by_cases hquote : c = '"'
      · subst hquote
        by_cases hrun : run < 2
        · rw [basicLinesBody, if_pos rfl, if_pos hrun, List.cons_append]
          by_cases hend : cs = [] ∨ cs = ['"'] ∧ run = 0
          · -- The last quotes of the text stand in one row with those that close it.
            rcases hend with rfl | ⟨rfl, rfl⟩ <;> simp [basicLinesBody, basicLines?]
          · have hnext : ∀ tail, basicLinesBody (run + 1) cs ++ '"' :: '"' :: '"' :: rest ≠
                '"' :: '"' :: tail :=
              fun tail h => hend (eq_of_basicLinesBody_append_eq h)
            rw [basicLines?_quote hnext, ih, consTo, Option.map_some]
        · have hescaped : Written '"' ['\\', '"'] := .letter rfl
          have hread := basicLines?_written hescaped
            (basicLinesBody 0 cs ++ '"' :: '"' :: '"' :: rest)
          simpa [basicLinesBody, hrun, ih, consTo] using hread
      · by_cases hline : c = '\n'
        · subst hline
          simp [basicLinesBody, basicLines?, ih, consTo]
        · have hread := basicLines?_written (written_escapeChar hquote hline)
            (basicLinesBody 0 cs ++ '"' :: '"' :: '"' :: rest)
          simpa [basicLinesBody, hquote, hline, ih, consTo] using hread

/-- A text without three apostrophes in a row, in which nothing has to be escaped. -/
theorem literalLines?_append (hrest : rest.head? ≠ some '\'') : ∀ {cs : List Char},
    (∀ c ∈ cs, needsEscape c = false) → ¬ ['\'', '\'', '\''] <:+: cs →
      literalLines? (cs ++ '\'' :: '\'' :: '\'' :: rest) = some (cs, rest) := by
  have hclose : ∀ tail, rest ≠ '\'' :: tail := by
    rintro tail rfl
    exact hrest rfl
  intro cs
  induction cs with
  | nil =>
      intro _ _
      simp [literalLines?, hclose]
  | cons c cs ih =>
      intro hplain hthree
      have hmore := ih (fun d hd => hplain d (List.mem_cons_of_mem c hd))
        fun hinside => hthree (hinside.trans (List.suffix_cons c cs).isInfix)
      by_cases hmark : c = '\''
      · subst hmark
        by_cases hend : cs = [] ∨ cs = ['\'']
        · rcases hend with rfl | rfl <;> simp [literalLines?]
        · have hnext : ∀ tail, cs ++ '\'' :: '\'' :: '\'' :: rest ≠ '\'' :: '\'' :: tail := by
            intro tail htail
            rcases cs with _ | ⟨d, _ | ⟨e, cs⟩⟩
            · simp at hend
            · simp_all
            · simp only [List.cons_append, List.cons.injEq] at htail
              exact hthree ⟨[], cs, by simp [htail]⟩
          simp [literalLines?_apostrophe hnext, hmore, consTo]
      · have hc : c = '\n' ∨ isPlain c = true := by
          by_cases hline : c = '\n'
          · exact Or.inl hline
          · exact Or.inr (isPlain_of_not_needsEscape (hplain c List.mem_cons_self) hline)
        have hreturn : c ≠ '\r' := by
          rintro rfl
          simp [isPlain] at hc
        simp [literalLines?, hmark, hreturn, hc, hmore, consTo]

/-! ## Runs of a character -/

section Runs

variable {mark : Char}

/-- The run that is open, and the longest one so far. -/
def runStep (mark : Char) (p : Nat × Nat) (c : Char) : Nat × Nat :=
  let run := if c = mark then p.1 + 1 else 0
  (run, max run p.2)

theorem longestRun_eq (mark : Char) (cs : List Char) :
    longestRun mark cs = (cs.foldl (runStep mark) (0, 0)).2 := rfl

theorem fst_le_foldl_runStep (cs : List Char) : ∀ {p : Nat × Nat}, p.1 ≤ p.2 →
    (cs.foldl (runStep mark) p).1 ≤ (cs.foldl (runStep mark) p).2 := by
  induction cs with
  | nil => exact id
  | cons c cs ih =>
      intro p _
      exact ih (Nat.le_max_left _ p.2)

theorem le_foldl_runStep (cs : List Char) : ∀ p : Nat × Nat,
    p.2 ≤ (cs.foldl (runStep mark) p).2 := by
  induction cs with
  | nil => exact fun p => Nat.le_refl p.2
  | cons c cs ih =>
      intro p
      exact Nat.le_trans (Nat.le_max_right _ p.2) (ih (runStep mark p c))

theorem le_foldl_runStep_replicate (n : Nat) : ∀ {p : Nat × Nat}, p.1 ≤ p.2 →
    p.1 + n ≤ ((List.replicate n mark).foldl (runStep mark) p).2 := by
  induction n with
  | zero => exact id
  | succ n ih =>
      intro p _
      have hnext : runStep mark p mark = (p.1 + 1, max (p.1 + 1) p.2) := by simp [runStep]
      have hmore := ih (p := (p.1 + 1, max (p.1 + 1) p.2)) (Nat.le_max_left _ _)
      rw [List.replicate_succ, List.foldl_cons, hnext]
      omega

/-- No run is longer than the longest one. -/
theorem le_longestRun {n : Nat} (h : List.replicate n mark <:+: cs) : n ≤ longestRun mark cs := by
  rcases h with ⟨front, back, rfl⟩
  rw [longestRun_eq, List.foldl_append, List.foldl_append]
  have hfront : (front.foldl (runStep mark) (0, 0)).1 ≤ (front.foldl (runStep mark) (0, 0)).2 :=
    fst_le_foldl_runStep front (Nat.le_refl 0)
  calc
    n ≤ (front.foldl (runStep mark) (0, 0)).1 + n := Nat.le_add_left n _
    _ ≤ ((List.replicate n mark).foldl (runStep mark) (front.foldl (runStep mark) (0, 0))).2 :=
        le_foldl_runStep_replicate n hfront
    _ ≤ _ := le_foldl_runStep back _

theorem not_mem_of_longestRun (h : longestRun mark cs = 0) : mark ∉ cs := by
  intro hmem
  have hinside : List.replicate 1 mark <:+: cs := by
    rcases List.append_of_mem hmem with ⟨front, back, rfl⟩
    exact ⟨front, back, by simp⟩
  have := le_longestRun hinside
  omega

end Runs

/-! ## The four forms -/

theorem of_formOf_literal (h : formOf cs = .literal) :
    (∀ c ∈ cs, needsEscape c = false) ∧ '\'' ∉ cs ∧ '\n' ∉ cs ∧ cs ≠ [] := by
  have hsome : cs ≠ [] := by
    rintro rfl
    cases h
  simp only [formOf] at h
  split_ifs at h with hbasic hliteral
  simp only [Bool.and_eq_true, Bool.not_eq_true', decide_eq_true_eq, List.any_eq_false,
    List.contains_eq_mem, decide_eq_false_iff_not] at hliteral
  exact ⟨by simpa using hliteral.1.1, not_mem_of_longestRun hliteral.1.2, hliteral.2, hsome⟩

theorem of_formOf_literalLines (h : formOf cs = .literalLines) :
    (∀ c ∈ cs, needsEscape c = false) ∧ ¬ ['\'', '\'', '\''] <:+: cs := by
  simp only [formOf] at h
  split_ifs at h with hbasic hliteral hquotes hmarks
  simp only [Bool.and_eq_true, Bool.not_eq_true', decide_eq_true_eq, List.any_eq_false] at hmarks
  refine ⟨by simpa using hmarks.1, fun hinside => ?_⟩
  have := le_longestRun (n := 3) hinside
  omega

theorem dropNewLine_openingBreak {body : List Char}
    (h : '\n' ∉ cs → body.head? ≠ some '\n' ∧ body.head? ≠ some '\r') :
    dropNewLine (openingBreak cs ++ body) = body := by
  by_cases hline : '\n' ∈ cs
  · simp [openingBreak, hline, dropNewLine, newLine?]
  · rcases h hline with ⟨hbreak, hreturn⟩
    cases body with
    | nil => simp [openingBreak, hline, dropNewLine, newLine?]
    | cons c body => simp_all [openingBreak, dropNewLine, newLine?]

theorem dropNewLine_basicLines (cs rest : List Char) :
    dropNewLine (openingBreak cs ++ (basicLinesBody 0 cs ++ '"' :: rest)) =
      basicLinesBody 0 cs ++ '"' :: rest := by
  apply dropNewLine_openingBreak
  intro hlines
  cases cs with
  | nil => simp [basicLinesBody]
  | cons c cs =>
      by_cases hquote : c = '"'
      · simp [basicLinesBody, hquote]
      · have hline : c ≠ '\n' := fun h => hlines (h ▸ List.mem_cons_self)
        rcases (written_escapeChar hquote hline).ne_nil with ⟨d, ds, hd, -, hbreak, hreturn⟩
        simp [basicLinesBody, hquote, hline, hd, hbreak, hreturn]

theorem dropNewLine_literalLines (hplain : ∀ c ∈ cs, needsEscape c = false) (rest : List Char) :
    dropNewLine (openingBreak cs ++ (cs ++ '\'' :: rest)) = cs ++ '\'' :: rest := by
  apply dropNewLine_openingBreak
  intro hlines
  cases cs with
  | nil => simp
  | cons c cs =>
      have hline : c ≠ '\n' := fun h => hlines (h ▸ List.mem_cons_self)
      have hreturn : c ≠ '\r' := by
        rintro rfl
        cases hplain '\r' List.mem_cons_self
      simp [hline, hreturn]

/-- **A string is read back from its text**, unless its last quotes could go on. -/
theorem string?_stringText (s : String) (hquote : rest.head? ≠ some '"')
    (hmark : rest.head? ≠ some '\'') : string? (stringText s ++ rest) = some (s, rest) := by
  simp only [stringText]
  cases hform : formOf s.toList with
  | basic =>
      have hread := basic?_basicBody s.toList rest
      have hopen : ∀ tail, basicBody s.toList ++ '"' :: rest ≠ '"' :: '"' :: tail := by
        intro tail htail
        cases hs : s.toList with
        | nil => simp_all [basicBody]
        | cons c cs =>
            rcases exists_basicBody_cons c cs with ⟨written, hwritten, hbody⟩
            rcases hwritten.ne_nil with ⟨d, ds, rfl, hd, -⟩
            simp [hs, hbody, hd] at htail
      simp [string?, lineString?, hread, hopen]
  | literal =>
      rcases of_formOf_literal hform with ⟨hplain, hmarks, hlines, hsome⟩
      have hall : ∀ c ∈ s.toList, isPlain c = true ∧ c ≠ '\'' := by
        intro c hc
        have hline : c ≠ '\n' := fun h => hlines (h ▸ hc)
        exact ⟨isPlain_of_not_needsEscape (hplain c hc) hline, fun h => hmarks (h ▸ hc)⟩
      have hread := literal?_append hall rest
      have hopen : ∀ tail, s.toList ++ '\'' :: rest ≠ '\'' :: '\'' :: tail := by
        intro tail htail
        rcases List.exists_cons_of_ne_nil hsome with ⟨c, cs, hs⟩
        simp_all
      simp [string?, lineString?, hread, hopen]
  | basicLines =>
      have hread := basicLines?_basicLinesBody hquote s.toList 0
      simp [string?, hread, dropNewLine_basicLines]
  | literalLines =>
      rcases of_formOf_literalLines hform with ⟨hplain, hthree⟩
      have hread := literalLines?_append hmark hplain hthree
      simp [string?, hread, dropNewLine_literalLines hplain]

end Toml
end BuildTrace
