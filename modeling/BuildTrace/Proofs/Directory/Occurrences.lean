import BuildTrace.Proofs.Directory.Announcement

/-!
# Occurrences — where an announcement stands in a line

A line may have the word `make` in it several times, and any of them may begin an announcement.
An occurrence says where an announcement begins and what stands around it:

* `Occurrence`, `Occurrence.IsOf` — an announcement together with the text around it;
* `IsOf.unique` — the place of its `make` decides everything else about an occurrence;
* `find?_eq_some_iff`, `find?_eq_none_iff` — the search finds the leftmost occurrence;
* `follow_of_occurrences` — which is what a line does to the open directories.

The search passes over a whole stretch of text up to a colon when one `make` in it begins nothing.
No occurrence is lost that way: all that begin in front of the same colon go on alike behind it.
-/

namespace BuildTrace
namespace Directory

/-- An announcement in a text: what is in front of its `make`, what is between `make` and the colon,
what opens the directory, and what is behind the apostrophe that ends it. -/
structure Occurrence where
  before : List Char
  level : List Char
  announcement : Announcement
  quote : Char
  after : List Char

namespace Occurrence

variable {o o' : Occurrence} {cs front rest : List Char} {c : Char} {a : Announcement}

/-- What stands behind the space that follows the colon. -/
def said (o : Occurrence) : List Char :=
  o.announcement.verb.toList ++ ' ' ::
    ("directory ".toList ++ o.quote :: (o.announcement.dir.toList ++ '\'' :: o.after))

/-- The whole text. -/
def text (o : Occurrence) : List Char :=
  o.before ++ ("make".toList ++ (o.level ++ ':' :: ' ' :: o.said))

/-- The occurrence is one of the given text. -/
structure IsOf (o : Occurrence) (cs : List Char) : Prop where
  eq_text : cs = o.text
  level_free : ':' ∉ o.level
  quote_opens : Announcement.isOpeningQuote o.quote = true
  wellFormed : o.announcement.WellFormed

/-- No occurrence in the text begins further to the left. -/
def IsLeftmost (o : Occurrence) (cs : List Char) : Prop :=
  o.IsOf cs ∧ ∀ o' : Occurrence, o'.IsOf cs → o.before.length ≤ o'.before.length

theorem exists_isOf_iff : (∃ o : Occurrence, o.IsOf cs ∧ o.announcement = a) ↔ a.IsIn cs := by
  constructor
  · rintro ⟨⟨before, level, a, quote, after⟩, h, rfl⟩
    refine ⟨before, level, after, quote, ?_, h.level_free, h.quote_opens, h.wellFormed⟩
    simpa [text, said] using h.eq_text
  · rintro ⟨before, level, after, quote, htext, hlevel, hquote, hwell⟩
    refine ⟨⟨before, level, a, quote, after⟩, ⟨?_, hlevel, hquote, hwell⟩, rfl⟩
    simpa [text, said] using htext

/-! ## One occurrence for each `make` -/

/-- What an occurrence says is read word by word. -/
theorem eq_of_said (h : o.announcement.WellFormed) (h' : o'.announcement.WellFormed)
    (hsaid : o.said = o'.said) :
    o.announcement = o'.announcement ∧ o.quote = o'.quote ∧ o.after = o'.after := by
  have hverb := Text.append_cons_inj h.verb_word h'.verb_word hsaid
  have hquote := List.cons.inj (List.append_cancel_left hverb.2)
  have hdir := Text.append_cons_inj h.dir_quoted h'.dir_quoted hquote.2
  refine ⟨?_, hquote.1, hdir.2⟩
  cases ho : o.announcement
  cases ho' : o'.announcement
  simp only [ho, ho', String.toList_inj] at hverb hdir
  rw [hverb.1, hdir.1]

/-- The place of its `make` decides everything else about an occurrence. -/
theorem IsOf.unique (h : o.IsOf cs) (h' : o'.IsOf cs)
    (hplace : o.before.length = o'.before.length) : o = o' := by
  have htext : o.text = o'.text := h.eq_text.symm.trans h'.eq_text
  have hbefore := List.append_inj htext hplace
  have hlevel := Text.append_cons_inj h.level_free h'.level_free
    (List.append_cancel_left hbefore.2)
  have hsaid := eq_of_said h.wellFormed h'.wellFormed (List.cons.inj hlevel.2).2
  cases o
  cases o'
  simp only [Occurrence.mk.injEq]
  exact ⟨hbefore.1, hlevel.1, hsaid⟩

/-! ## Occurrences behind a piece of text -/

/-- The same occurrence with a piece of text in front. -/
def behind (front : List Char) (o : Occurrence) : Occurrence :=
  { o with before := front ++ o.before }

theorem IsOf.behind (h : o.IsOf rest) (front : List Char) :
    (o.behind front).IsOf (front ++ rest) := by
  refine ⟨?_, h.level_free, h.quote_opens, h.wellFormed⟩
  simp only [h.eq_text, Occurrence.behind, text, said, List.append_assoc]

/-- An occurrence that begins behind the piece of text is one of the rest. -/
theorem IsOf.exists_behind (h : o.IsOf (front ++ rest)) (hfront : front <+: o.before) :
    ∃ o' : Occurrence, o'.IsOf rest ∧ o = o'.behind front := by
  rcases hfront with ⟨between, hbetween⟩
  refine ⟨{ o with before := between }, ⟨?_, h.level_free, h.quote_opens, h.wellFormed⟩, ?_⟩
  · have htext : front ++ rest = front ++ Occurrence.text { o with before := between } := by
      simpa only [text, said, ← hbetween, List.append_assoc] using h.eq_text
    exact List.append_cancel_left htext
  · simp only [Occurrence.behind, hbetween]

/-- If all occurrences begin behind the piece of text, the leftmost is that of the rest. -/
theorem IsLeftmost.behind (h : o.IsLeftmost rest)
    (hall : ∀ o' : Occurrence, o'.IsOf (front ++ rest) → front <+: o'.before) :
    (o.behind front).IsLeftmost (front ++ rest) := by
  refine ⟨h.1.behind front, fun o' ho' => ?_⟩
  rcases ho'.exists_behind (hall o' ho') with ⟨later, hlater, rfl⟩
  have hle := h.2 later hlater
  simpa only [Occurrence.behind, List.length_append, Nat.add_le_add_iff_left] using hle

/-! ## What the search finds -/

/-- An occurrence that begins in front of the first colon goes on behind that colon. -/
theorem IsOf.after? (h : o.IsOf (c :: cs)) (hbefore : ':' ∉ o.before) :
    Announcement.after? cs = some o.announcement := by
  have hfront : ':' ∉ (o.before ++ ("make".toList ++ o.level)).tail := by
    intro hcolon
    have hmem := List.mem_of_mem_tail hcolon
    simp only [List.mem_append, hbefore, h.level_free, or_false, false_or] at hmem
    exact absurd hmem (by decide)
  have hcs : cs = (o.before ++ ("make".toList ++ o.level)).tail ++ ':' :: ' ' :: o.said := by
    have hne : o.before ++ ("make".toList ++ o.level) ≠ [] := by simp
    have htail := congrArg List.tail h.eq_text
    rw [text, ← List.append_assoc "make".toList, ← List.append_assoc o.before,
      List.tail_append_of_ne_nil hne] at htail
    exact htail
  rw [hcs]
  exact Announcement.after?_of_wellFormed hfront h.quote_opens h.wellFormed o.after

/-- An occurrence that begins behind a colon begins behind the first one. -/
theorem IsOf.upToColon (h : o.IsOf cs) (hbefore : ':' ∈ o.before) :
    cs.takeWhile (· ≠ ':') <+: o.before := by
  rcases List.eq_append_cons_of_mem hbefore with ⟨first, behind, hcut, hfirst⟩
  have hcs : cs = first ++ ':' :: (behind ++ ("make".toList ++
      (o.level ++ ':' :: ' ' :: o.said))) := by
    simpa only [text, hcut, List.append_assoc, List.cons_append] using h.eq_text
  have htake : cs.takeWhile (· ≠ ':') = first := by
    rw [hcs]
    exact Text.takeWhile_ne_append hfirst _
  exact ⟨':' :: behind, by rw [htake, hcut]⟩

/-- What stands behind a `make` that begins no announcement is passed over up to the next colon. -/
theorem IsOf.pass (h : o.IsOf (c :: cs)) (hafter : Announcement.after? cs = none)
    (hc : c ≠ ':') : c :: cs.takeWhile (· ≠ ':') <+: o.before := by
  by_cases hbefore : ':' ∈ o.before
  · simpa [hc] using h.upToColon hbefore
  · simp [h.after? hbefore] at hafter

/-- An occurrence begins with its `make`. -/
theorem IsOf.step (h : o.IsOf (c :: cs)) (hmake : ¬ "make".toList.isPrefixOf (c :: cs) = true) :
    [c] <+: o.before := by
  have htext := h.eq_text
  cases hbefore : o.before with
  | nil =>
      have hprefix : "make".toList <+: c :: cs :=
        ⟨o.level ++ ':' :: ' ' :: o.said, by simpa [text, hbefore] using htext.symm⟩
      exact absurd (List.isPrefixOf_iff_prefix.2 hprefix) hmake
  | cons d before =>
      have hcd : c = d := by
        simpa [text, hbefore] using congrArg List.head? htext
      simp [hcd]

end Occurrence

namespace Announcement

open Occurrence

variable {a : Announcement} {cs : List Char}

theorem cut_at_colon (c : Char) (cs : List Char) :
    c :: cs = (c :: cs.takeWhile (· ≠ ':')) ++ cs.dropWhile (· ≠ ':') := by
  simp only [List.cons_append, List.takeWhile_append_dropWhile]

theorem ne_colon_of_isPrefixOf {c : Char} (h : "make".toList.isPrefixOf (c :: cs) = true) :
    c ≠ ':' := by
  rintro rfl
  simp at h

/-- What is found is said by the leftmost occurrence. -/
theorem exists_isLeftmost_of_find? : ∀ cs : List Char, find? cs = some a →
    ∃ o : Occurrence, o.IsLeftmost cs ∧ o.announcement = a := by
  intro cs
  induction cs using find?.induct with
  | case1 =>
      intro h
      simp [find?] at h
  | case2 c cs hmake ih =>
      intro h
      rw [find?, if_pos hmake, Option.or_eq_some_iff] at h
      rcases h with hafter | ⟨hafter, hlater⟩
      · -- The announcement begins with this `make`, and nothing can begin further to the left.
        have hprefix := List.isPrefixOf_iff_prefix.1 hmake
        rcases eq_of_make hprefix hafter with ⟨level, after, quote, htext, hlevel, hquote, hwell⟩
        refine ⟨⟨[], level, a, quote, after⟩, ⟨⟨?_, hlevel, hquote, hwell⟩, fun _ _ => ?_⟩, rfl⟩
        · simpa [Occurrence.text, said] using htext
        · exact Nat.zero_le _
      · rcases ih hlater with ⟨o, ho, ha⟩
        refine ⟨o.behind (c :: cs.takeWhile (· ≠ ':')), ?_, ha⟩
        rw [cut_at_colon c cs]
        apply ho.behind
        intro o' ho'
        rw [← cut_at_colon c cs] at ho'
        exact ho'.pass hafter (ne_colon_of_isPrefixOf hmake)
  | case3 c cs hmake ih =>
      intro h
      rw [find?, if_neg hmake] at h
      rcases ih h with ⟨o, ho, ha⟩
      exact ⟨o.behind [c], ho.behind fun o' ho' => ho'.step hmake, ha⟩

/-- A text in which nothing is found has no occurrence. -/
theorem not_isOf_of_find?_eq_none : ∀ cs : List Char, find? cs = none →
    ∀ o : Occurrence, ¬ o.IsOf cs := by
  intro cs
  induction cs using find?.induct with
  | case1 =>
      intro _ o ho
      simpa [Occurrence.text] using ho.eq_text
  | case2 c cs hmake ih =>
      intro h o ho
      rw [find?, if_pos hmake, Option.or_eq_none_iff] at h
      have hpass := ho.pass h.1 (ne_colon_of_isPrefixOf hmake)
      rw [cut_at_colon c cs] at ho
      rcases ho.exists_behind hpass with ⟨later, hlater, -⟩
      exact ih h.2 later hlater
  | case3 c cs hmake ih =>
      intro h o ho
      rw [find?, if_neg hmake] at h
      have hstep : o.IsOf ([c] ++ cs) := ho
      rcases hstep.exists_behind (ho.step hmake) with ⟨later, hlater, -⟩
      exact ih h later hlater

theorem find?_eq_none_iff : find? cs = none ↔ ∀ o : Occurrence, ¬ o.IsOf cs := by
  refine ⟨not_isOf_of_find?_eq_none cs, fun h => ?_⟩
  cases hfind : find? cs with
  | none => rfl
  | some a =>
      rcases exists_isLeftmost_of_find? cs hfind with ⟨o, ho, -⟩
      exact absurd ho.1 (h o)

/-- The search finds the announcement that begins leftmost. -/
theorem find?_eq_some_iff :
    find? cs = some a ↔ ∃ o : Occurrence, o.IsLeftmost cs ∧ o.announcement = a := by
  refine ⟨exists_isLeftmost_of_find? cs, ?_⟩
  rintro ⟨o, ho, rfl⟩
  cases hfind : find? cs with
  | none => exact absurd ho.1 (find?_eq_none_iff.1 hfind o)
  | some a =>
      rcases exists_isLeftmost_of_find? cs hfind with ⟨o', ho', rfl⟩
      have hplace : o'.before.length = o.before.length :=
        Nat.le_antisymm (ho'.2 o ho.1) (ho.2 o' ho'.1)
      simp only [ho'.1.unique ho.1 hplace]

end Announcement

/-! ## What a line does -/

/-- Does what an announcement says. -/
def obey (fs : FileSystem) (s : Stack) (a : Announcement) : Except Fault Event × Stack :=
  if a.verb = "Entering" then enter fs s a.dir
  else if a.verb = "Leaving" then leave fs s a.dir
  else (.ok (.otherVerb a.verb a.dir), s)

theorem follow_of_find? {fs : FileSystem} {s : Stack} {line : String} {a : Announcement}
    (h : Announcement.find? line.toList = some a) : follow fs s line = obey fs s a := by
  simp only [follow, h, obey]

theorem enter_ne_nothing (fs : FileSystem) (s : Stack) (dir : String) :
    (enter fs s dir).1 ≠ .ok .nothing := by
  unfold enter
  split <;> simp

theorem leave_ne_nothing (fs : FileSystem) (s : Stack) (dir : String) :
    (leave fs s dir).1 ≠ .ok .nothing := by
  unfold leave
  split
  · simp
  · split <;> simp

/-- An announcement is never passed over. -/
theorem obey_ne_nothing (fs : FileSystem) (s : Stack) (a : Announcement) :
    (obey fs s a).1 ≠ .ok .nothing := by
  unfold obey
  split_ifs
  · exact enter_ne_nothing fs s a.dir
  · exact leave_ne_nothing fs s a.dir
  · simp

/-- **What a line announces.** A line is read as the announcement of a verb and a directory just if
these are what its leftmost occurrence says, and it has a leftmost one if it has any. The place of
its `make` decides all of an occurrence. The line then does what the announcement says; a line
without an occurrence does nothing, and no other line does. -/
theorem follow_of_occurrences (fs : FileSystem) (s : Stack) (line : String) :
    ((∃ o : Occurrence, o.IsOf line.toList) ↔
        ∃ a, Announcement.find? line.toList = some a ∧ follow fs s line = obey fs s a) ∧
      (∀ verb dir, Announcement.find? line.toList = some ⟨verb, dir⟩ ↔
        ∃ o : Occurrence, o.IsLeftmost line.toList ∧ o.announcement = ⟨verb, dir⟩) ∧
      (∀ o o' : Occurrence, o.IsOf line.toList → o'.IsOf line.toList →
        o.before.length = o'.before.length → o = o') ∧
      ((∀ o : Occurrence, ¬ o.IsOf line.toList) ↔ (follow fs s line).1 = .ok .nothing) ∧
      ((∀ o : Occurrence, ¬ o.IsOf line.toList) → follow fs s line = (.ok .nothing, s)) := by
  have hnothing : (∀ o : Occurrence, ¬ o.IsOf line.toList) →
      follow fs s line = (.ok .nothing, s) := by
    intro h
    apply follow_of_no_announcement
    intro a ha
    rcases Occurrence.exists_isOf_iff.2 ha with ⟨o, ho, -⟩
    exact h o ho
  refine ⟨⟨?_, ?_⟩, fun _ _ => Announcement.find?_eq_some_iff, fun o o' ho ho' => ho.unique ho',
    ⟨fun h => by rw [hnothing h], ?_⟩, hnothing⟩
  · rintro ⟨o, ho⟩
    cases hfind : Announcement.find? line.toList with
    | none => exact absurd ho (Announcement.find?_eq_none_iff.1 hfind o)
    | some a => exact ⟨a, rfl, follow_of_find? hfind⟩
  · rintro ⟨a, hfind, -⟩
    rcases Announcement.find?_eq_some_iff.1 hfind with ⟨o, ho, -⟩
    exact ⟨o, ho.1⟩
  · intro hfollow
    cases hfind : Announcement.find? line.toList with
    | none => exact Announcement.find?_eq_none_iff.1 hfind
    | some a =>
        rw [follow_of_find? hfind] at hfollow
        exact absurd hfollow (obey_ne_nothing fs s a)

/-- The first `make` of a line may begin nothing, and a later one an announcement. -/
example : Announcement.find? "make: all; make[1]: Entering directory 'lib'".toList =
    some ⟨"Entering", "lib"⟩ := by
  decide +kernel

end Directory
end BuildTrace
