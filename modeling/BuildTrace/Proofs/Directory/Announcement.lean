import BuildTrace.Directory.Follow
import BuildTrace.Proofs.Text.Cut

/-!
# Announcement — lines that announce directories

The search for an announcement is compared with what an announcement is:

* `Announcement.IsIn` — a text has an announcement in it, somewhere;
* `Announcement.isIn_of_find?` — an announcement that is found is in the text, so that a line
  without any is left alone (`follow_of_no_announcement`);
* `IsMakeLabel`, `Announcement.IsLine` — the lines `make` prints about directories;
* `Announcement.find?_of_label`, `find?_of_isLine` — such a line is read as what it says.
-/

namespace BuildTrace
namespace Directory

/-! ## Announcements in a text -/

namespace Announcement

/-- The verb is one word, and the directory has no apostrophe that would end it. -/
structure WellFormed (a : Announcement) : Prop where
  verb_ne : a.verb ≠ ""
  verb_word : ' ' ∉ a.verb.toList
  dir_ne : a.dir ≠ ""
  dir_quoted : '\'' ∉ a.dir.toList

/-- The announcement is in the text: behind a `make` and anything but colons there is a colon, a
space, the verb, the word `directory`, and the directory between a quote and an apostrophe. -/
def IsIn (a : Announcement) (text : List Char) : Prop :=
  ∃ before level after quote,
    text = before ++ "make".toList ++ level ++ ": ".toList ++ a.verb.toList ++
      " directory ".toList ++ quote :: a.dir.toList ++ '\'' :: after ∧
    ':' ∉ level ∧ isOpeningQuote quote ∧ a.WellFormed

variable {cs : List Char} {a : Announcement} {dir : String}

theorem isIn_append (h : a.IsIn cs) (front : List Char) : a.IsIn (front ++ cs) := by
  rcases h with ⟨before, level, after, quote, rfl, hrest⟩
  exact ⟨front ++ before, level, after, quote, by simp only [List.append_assoc], hrest⟩

theorem mem_of_isIn (h : a.IsIn cs) : '\'' ∈ cs := by
  rcases h with ⟨before, level, after, quote, rfl, -⟩
  simp

/-! ### What is found is there -/

theorem eq_of_quoted? (h : quoted? cs = some dir) :
    ∃ after, cs = dir.toList ++ '\'' :: after ∧ dir ≠ "" ∧ '\'' ∉ dir.toList := by
  unfold quoted? at h
  split at h
  · next c front d after hfront hrest =>
      simp only [Option.some.injEq] at h
      subst h
      -- The directory is all that stands in front of the first apostrophe.
      rcases Text.eq_append_of_dropWhile_ne hrest with ⟨-, hcs⟩
      have hnot : '\'' ∉ c :: front := hfront ▸ Text.not_mem_takeWhile_ne
      refine ⟨after, ?_, by simp [← String.toList_inj], by simpa using hnot⟩
      rw [hcs, hfront]
      simp
  · exact absurd h (by simp)

theorem eq_of_fromVerb? (h : fromVerb? cs = some a) :
    ∃ quote after, cs = a.verb.toList ++ " directory ".toList ++ quote :: a.dir.toList ++
        '\'' :: after ∧
      isOpeningQuote quote ∧ a.WellFormed := by
  unfold fromVerb? at h
  split at h
  · exact absurd h (by simp)
  · next v verb hverb =>
      split at h
      · next q rest hword =>
          split at h
          · next hq =>
              rcases Option.map_eq_some_iff.1 h with ⟨dir, hdir, rfl⟩
              rcases eq_of_quoted? hdir with ⟨after, rfl, hne, hnot⟩
              have hspace : ' ' ∉ v :: verb := hverb ▸ Text.not_mem_takeWhile_ne
              refine ⟨q, after, ?_, hq, by simp [← String.toList_inj], by simpa using hspace, hne,
                hnot⟩
              calc
                cs = cs.takeWhile (· ≠ ' ') ++ cs.dropWhile (· ≠ ' ') :=
                  List.takeWhile_append_dropWhile.symm
                _ = (v :: verb) ++ (" directory ".toList ++ q :: (dir.toList ++ '\'' :: after)) :=
                  by rw [hverb, List.isPrefixOf?_eq_some_iff_append_eq.1 hword]
                _ = _ := by simp
          · exact absurd h (by simp)
      · exact absurd h (by simp)

theorem eq_of_after? (h : after? cs = some a) :
    ∃ level after quote, cs = level ++ ": ".toList ++ a.verb.toList ++ " directory ".toList ++
        quote :: a.dir.toList ++ '\'' :: after ∧
      ':' ∉ level ∧ isOpeningQuote quote ∧ a.WellFormed := by
  unfold after? at h
  split at h
  · next rest hcolon =>
      rcases eq_of_fromVerb? h with ⟨quote, after, rfl, hrest⟩
      rcases Text.eq_append_of_dropWhile_ne hcolon with ⟨-, hcs⟩
      refine ⟨cs.takeWhile (· ≠ ':'), after, quote, ?_, Text.not_mem_takeWhile_ne, hrest⟩
      rw [List.append_assoc, List.append_assoc, List.append_assoc, List.append_assoc]
      simpa using hcs
  · exact absurd h (by simp)

/-- What goes on behind a `make` is an announcement that begins with it. -/
theorem eq_of_make {c : Char} (hmake : "make".toList <+: c :: cs) (h : after? cs = some a) :
    ∃ level after quote, c :: cs = "make".toList ++ level ++ ": ".toList ++ a.verb.toList ++
        " directory ".toList ++ quote :: a.dir.toList ++ '\'' :: after ∧
      ':' ∉ level ∧ isOpeningQuote quote ∧ a.WellFormed := by
  rcases hmake with ⟨rest, hrest⟩
  have hcs : cs = 'a' :: 'k' :: 'e' :: rest := by
    simpa using (congrArg List.tail hrest).symm
  -- The rest of the word has no colon, so the search for one passes over it.
  have hpass : after? cs = after? rest := by
    simp [hcs, after?]
  rcases eq_of_after? (hpass ▸ h) with ⟨level, after, quote, htext, hall⟩
  refine ⟨level, after, quote, ?_, hall⟩
  rw [← hrest, htext]
  simp only [List.append_assoc]

theorem isIn_of_after? {c : Char} (hmake : "make".toList <+: c :: cs) (h : after? cs = some a) :
    a.IsIn (c :: cs) := by
  rcases eq_of_make hmake h with ⟨level, after, quote, htext, hall⟩
  exact ⟨[], level, after, quote, by simpa only [List.nil_append] using htext, hall⟩

/-- What is found in a text is in the text. -/
theorem isIn_of_find? : ∀ cs : List Char, find? cs = some a → a.IsIn cs := by
  intro cs
  induction cs using find?.induct with
  | case1 =>
      intro h
      simp [find?] at h
  | case2 c cs hmake ih =>
      intro h
      -- The announcement begins with this `make`, or is found behind the next colon.
      rw [find?, if_pos hmake, Option.or_eq_some_iff] at h
      rcases h with hafter | ⟨-, hlater⟩
      · exact isIn_of_after? (List.isPrefixOf_iff_prefix.1 hmake) hafter
      · have hcut : c :: cs = (c :: cs.takeWhile (· ≠ ':')) ++ cs.dropWhile (· ≠ ':') := by
          rw [List.cons_append, List.takeWhile_append_dropWhile]
        rw [hcut]
        exact isIn_append (ih hlater) _
  | case3 c cs hmake ih =>
      -- No `make` begins here, and the search goes on behind the character.
      intro h
      rw [find?, if_neg hmake] at h
      exact isIn_append (ih h) [c]

end Announcement

/-- A line without an announcement changes nothing. -/
theorem follow_of_no_announcement {line : String} (h : ∀ a : Announcement, ¬ a.IsIn line.toList)
    (fs : FileSystem) (s : Stack) : follow fs s line = (.ok .nothing, s) := by
  cases hfind : Announcement.find? line.toList with
  | none => simp only [follow, hfind]
  | some a => exact absurd (Announcement.isIn_of_find? _ hfind) (h a)

/-! ## The lines of `make` -/

/-- How a line of `make` begins: with its name, and with its level inside another run. -/
inductive IsMakeLabel : List Char → Prop where
  | outermost : IsMakeLabel "make".toList
  | nested (level : List Char) (digits : ∀ c ∈ level, c.isDigit) :
      IsMakeLabel ("make".toList ++ '[' :: level ++ [']'])

/-- What stands behind the name in a label is a bracketed number. -/
theorem IsMakeLabel.eq_append {label : List Char} (h : IsMakeLabel label) :
    ∃ level, label = "make".toList ++ level ∧ ∀ c ∈ level, c = '[' ∨ c = ']' ∨ c.isDigit := by
  cases h with
  | outermost => exact ⟨[], by simp, by simp⟩
  | nested level digits =>
      refine ⟨'[' :: level ++ [']'], by simp only [List.append_assoc, List.cons_append], ?_⟩
      intro c hc
      simp only [List.cons_append, List.mem_cons, List.mem_append, List.not_mem_nil, or_false] at hc
      rcases hc with rfl | hc | rfl
      · exact Or.inl rfl
      · exact Or.inr (Or.inr (digits c hc))
      · exact Or.inr (Or.inl rfl)

namespace Announcement

/-- The announcement is what a line of `make` says. -/
def IsLine (a : Announcement) (line : String) : Prop :=
  ∃ label quote, IsMakeLabel label ∧ isOpeningQuote quote ∧
    line.toList = label ++ ": ".toList ++ a.verb.toList ++ " directory ".toList ++
      quote :: a.dir.toList ++ ['\'']

variable {a : Announcement} {dir line : String}

theorem quoted?_of_not_mem (hne : dir ≠ "") (hnot : '\'' ∉ dir.toList) (after : List Char) :
    quoted? (dir.toList ++ '\'' :: after) = some dir := by
  unfold quoted?
  rw [Text.takeWhile_ne_append hnot, Text.dropWhile_ne_append hnot]
  cases hd : dir.toList with
  | nil => exact absurd (String.toList_eq_nil_iff.1 hd) hne
  | cons c cs => simp [← hd]

theorem fromVerb?_of_wellFormed {quote : Char} (ha : a.WellFormed) (hquote : isOpeningQuote quote)
    (after : List Char) :
    fromVerb? (a.verb.toList ++ ' ' :: ("directory ".toList ++ quote :: (a.dir.toList ++
      '\'' :: after))) = some a := by
  have hword : " directory ".toList.isPrefixOf? (' ' :: ("directory ".toList ++ quote ::
      (a.dir.toList ++ '\'' :: after))) = some (quote :: (a.dir.toList ++ '\'' :: after)) :=
    List.isPrefixOf?_eq_some_iff_append_eq.2 (by simp)
  unfold fromVerb?
  rw [Text.takeWhile_ne_append ha.verb_word, Text.dropWhile_ne_append ha.verb_word, hword]
  cases hv : a.verb.toList with
  | nil => exact absurd (String.toList_eq_nil_iff.1 hv) ha.verb_ne
  | cons v verb => simp [hquote, quoted?_of_not_mem ha.dir_ne ha.dir_quoted, ← hv]

theorem after?_of_wellFormed {front : List Char} {quote : Char} (hfront : ':' ∉ front)
    (hquote : isOpeningQuote quote) (ha : a.WellFormed) (after : List Char) :
    after? (front ++ ':' :: (' ' :: (a.verb.toList ++
      ' ' :: ("directory ".toList ++ quote :: (a.dir.toList ++ '\'' :: after))))) = some a := by
  unfold after?
  rw [Text.dropWhile_ne_append hfront]
  exact fromVerb?_of_wellFormed ha hquote after

/-- A text that begins like a line of `make` is read as what it says there: the first `make` in it
is its label. -/
theorem find?_of_label {label : List Char} {quote : Char} (hlabel : IsMakeLabel label)
    (hquote : isOpeningQuote quote) (ha : a.WellFormed) (after : List Char) :
    find? (label ++ ": ".toList ++ a.verb.toList ++ " directory ".toList ++
      quote :: a.dir.toList ++ '\'' :: after) = some a := by
  rcases hlabel.eq_append with ⟨level, rfl, hlevel⟩
  -- The level has no colon, so the first one is that behind the label.
  have hcolon : ':' ∉ "ake".toList ++ level := by
    intro hc
    rcases List.mem_append.1 hc with hc | hc
    · exact absurd hc (by decide)
    · exact absurd (hlevel ':' hc) (by decide)
  have hcut : "make".toList ++ level ++ ": ".toList ++ a.verb.toList ++ " directory ".toList ++
      quote :: a.dir.toList ++ '\'' :: after =
        'm' :: (("ake".toList ++ level) ++ ':' :: (' ' :: (a.verb.toList ++
          ' ' :: ("directory ".toList ++ quote :: (a.dir.toList ++ '\'' :: after))))) := by
    simp
  rw [hcut, find?, after?_of_wellFormed hcolon hquote ha after, if_pos (by simp), Option.some_or]

/-- A line of `make` is read as what it says. -/
theorem find?_of_isLine (h : a.IsLine line) (ha : a.WellFormed) :
    find? line.toList = some a := by
  rcases h with ⟨label, quote, hlabel, hquote, hline⟩
  rw [hline]
  exact find?_of_label hlabel hquote ha []

end Announcement
end Directory
end BuildTrace
