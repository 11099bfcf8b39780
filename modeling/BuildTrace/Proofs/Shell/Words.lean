import BuildTrace.Shell.Words

/-!
# Words — what the beginning of a line decides

The splitter never takes back a word it has finished, so the first word of a line hangs on nothing
that comes behind it:

* `IsPlain` — characters that mean themselves;
* `Splitter.finished_suffix_foldl` — finished words stay;
* `head?_words?` — plain characters and a blank make the first word, whatever follows.
-/

namespace BuildTrace
namespace Shell

/-- A character that means itself outside quotes. -/
structure IsPlain (c : Char) : Prop where
  notBlank : Text.isBlank c = false
  notSingle : c ≠ '\''
  notDouble : c ≠ '"'
  notEscape : c ≠ '\\'

namespace Splitter

/-! ## Finished words stay -/

theorem finished_suffix_endWord (s : Splitter) : s.finished <:+ s.endWord.finished := by
  unfold endWord
  split
  · exact List.suffix_refl _
  · exact List.suffix_cons _ _

theorem finished_suffix_step (s : Splitter) (c : Char) : s.finished <:+ (s.step c).finished := by
  cases hq : s.quoting with
  | bare =>
      -- Only a blank outside quotes ends a word.
      simp only [step, hq]
      split
      · exact List.suffix_refl _
      split
      · exact List.suffix_refl _
      split
      · exact List.suffix_refl _
      split
      · exact finished_suffix_endWord s
      · exact List.suffix_refl _
  | escaped =>
      simp only [step, hq]
      exact List.suffix_refl _
  | single =>
      simp only [step, hq]
      split <;> exact List.suffix_refl _
  | double =>
      simp only [step, hq]
      split
      · exact List.suffix_refl _
      split <;> exact List.suffix_refl _
  | doubleEscaped =>
      simp only [step, hq]
      split <;> exact List.suffix_refl _

theorem finished_suffix_foldl (cs : List Char) (s : Splitter) :
    s.finished <:+ (cs.foldl step s).finished := by
  induction cs generalizing s with
  | nil => exact List.suffix_refl _
  | cons c cs ih => exact (finished_suffix_step s c).trans (ih (s.step c))

/-! ## Plain characters -/

theorem step_of_isPlain {s : Splitter} {c : Char} (hq : s.quoting = .bare) (hc : IsPlain c) :
    s.step c = s.add c := by
  simp [step, hq, hc.notSingle, hc.notDouble, hc.notEscape, hc.notBlank]

/-- Plain characters are added to the word, one by one. -/
theorem foldl_of_isPlain (cs : List Char) {s : Splitter} {word : List Char}
    (hq : s.quoting = .bare) (hword : s.current = some word) (hcs : ∀ c ∈ cs, IsPlain c) :
    cs.foldl step s = { s with current := some (cs.reverse ++ word) } := by
  induction cs generalizing s word with
  | nil => simp [← hword]
  | cons c cs ih =>
      have hc : IsPlain c := hcs c List.mem_cons_self
      have hrest : ∀ b ∈ cs, IsPlain b := fun b hb => hcs b (List.mem_cons_of_mem _ hb)
      have hcur : (s.add c).current = some (c :: word) := by simp [add, hword]
      have hbare : (s.add c).quoting = .bare := hq
      rw [List.foldl_cons, step_of_isPlain hq hc, ih hbare hcur hrest]
      simp [add]

/-- A plain word and the blank behind it are one finished word. -/
theorem foldl_word {first blank : Char} {word : List Char}
    (hplain : ∀ c ∈ first :: word, IsPlain c) (hblank : Text.isBlank blank) :
    ((first :: word) ++ [blank]).foldl step {} =
      { finished := [String.ofList (first :: word)] } := by
  have hfirst : IsPlain first := hplain first List.mem_cons_self
  have hrest : ∀ c ∈ word, IsPlain c := fun c hc => hplain c (List.mem_cons_of_mem _ hc)
  have hread : word.foldl step ({ current := some [first] } : Splitter) =
      { current := some (word.reverse ++ [first]) } := foldl_of_isPlain word rfl rfl hrest
  -- None of the quotes is a blank, so the blank ends the word.
  have hend : ∀ s : Splitter, s.quoting = .bare → s.step blank = s.endWord := by
    intro s hq
    have hne : ∀ c, Text.isBlank c = false → blank ≠ c := by
      intro c hc hb
      rw [hb, hc] at hblank
      exact Bool.false_ne_true hblank
    simp [step, hq, hblank, hne '\'' (by decide), hne '"' (by decide), hne '\\' (by decide)]
  calc
    ((first :: word) ++ [blank]).foldl step {}
      = (word.foldl step (step {} first)).step blank := by
        rw [List.foldl_append, List.foldl_cons]
        rfl
    _ = (word.foldl step ({ current := some [first] } : Splitter)).step blank := by
        rw [step_of_isPlain rfl hfirst]
        rfl
    _ = endWord { current := some (word.reverse ++ [first]) } := by
        rw [hread, hend _ rfl]
    _ = { finished := [String.ofList (first :: word)] } := by
        simp [endWord]

theorem head?_finish? {s : Splitter} {first : String} {words : List String}
    (hfirst : [first] <:+ s.finished) (h : s.finish? = some words) : words.head? = some first := by
  have hend : [first] <:+ s.endWord.finished := hfirst.trans (finished_suffix_endWord s)
  have hwords : words = s.endWord.finished.reverse := by
    cases hq : s.quoting <;> simp [finish?, hq] at h <;> exact h.symm
  rcases hend with ⟨later, hlater⟩
  simp [hwords, ← hlater]

end Splitter

/-- A line that begins with plain characters and a blank has them as its first word. -/
theorem head?_words? {word rest : List Char} {blank : Char} {words : List String}
    (hne : word ≠ []) (hplain : ∀ c ∈ word, IsPlain c) (hblank : Text.isBlank blank)
    (h : words? (word ++ blank :: rest) = some words) :
    words.head? = some (String.ofList word) := by
  have hline : word ++ blank :: rest = (word ++ [blank]) ++ rest := by simp
  rcases List.exists_cons_of_ne_nil hne with ⟨first, others, rfl⟩
  rw [words?, hline, List.foldl_append, Splitter.foldl_word hplain hblank] at h
  have hfirst := Splitter.finished_suffix_foldl rest
    { finished := [String.ofList (first :: others)] }
  exact Splitter.head?_finish? hfirst h

end Shell
end BuildTrace
