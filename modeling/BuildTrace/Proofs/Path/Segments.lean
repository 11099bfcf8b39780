import BuildTrace.Path.Basic
import Mathlib.Data.List.Basic

/-!
# Segments — spellings made of segments

Splitting a spelling at its separators and joining segments with separators undo each other:

* `segmentsOf_joinSegments` — segments without separators are found again;
* `components_ofNames`, `components_ofRelativeNames` — the components of a spelling made of file
  names, from the root or not.
-/

namespace BuildTrace
namespace Path

theorem segmentsOf_cons_of_ne {c : Char} {cs s : List Char} {ss : List (List Char)} (hc : c ≠ '/')
    (h : segmentsOf cs = s :: ss) : segmentsOf (c :: cs) = (c :: s) :: ss := by
  rw [segmentsOf, if_neg hc, h]

/-- A segment has no separator in it. -/
theorem not_mem_segmentsOf : ∀ {cs s : List Char}, s ∈ segmentsOf cs → '/' ∉ s := by
  intro cs
  induction cs with
  | nil =>
      intro s hs
      simp only [segmentsOf, List.mem_singleton] at hs
      simp [hs]
  | cons c cs ih =>
      intro s hs
      rw [segmentsOf] at hs
      split at hs
      · rcases List.mem_cons.1 hs with rfl | hs
        · exact List.not_mem_nil
        · exact ih hs
      · next hc =>
          -- The character goes to the front of the first segment behind it.
          cases hcs : segmentsOf cs with
          | nil => exact absurd hcs (segmentsOf_ne_nil cs)
          | cons t ts =>
              rw [hcs] at hs ih
              rcases List.mem_cons.1 hs with rfl | hs
              · rw [List.mem_cons, not_or]
                exact ⟨Ne.symm hc, ih List.mem_cons_self⟩
              · exact ih (List.mem_cons_of_mem _ hs)

theorem segmentsOf_of_not_mem {s : List Char} (h : '/' ∉ s) : segmentsOf s = [s] := by
  induction s with
  | nil => rfl
  | cons c cs ih =>
      rw [List.mem_cons, not_or] at h
      exact segmentsOf_cons_of_ne (Ne.symm h.1) (ih h.2)

theorem segmentsOf_append {s : List Char} (h : '/' ∉ s) (cs : List Char) :
    segmentsOf (s ++ '/' :: cs) = s :: segmentsOf cs := by
  induction s with
  | nil => simp [segmentsOf]
  | cons c s ih =>
      rw [List.mem_cons, not_or] at h
      exact segmentsOf_cons_of_ne (Ne.symm h.1) (ih h.2)

/-- Segments without separators are found again. -/
theorem segmentsOf_joinSegments {ss : List (List Char)} (hne : ss ≠ [])
    (h : ∀ s ∈ ss, '/' ∉ s) : segmentsOf (joinSegments ss) = ss := by
  induction ss with
  | nil => exact absurd rfl hne
  | cons s ss ih =>
      have hs : '/' ∉ s := h s List.mem_cons_self
      cases ss with
      | nil => exact segmentsOf_of_not_mem hs
      | cons t ts =>
          have hrest : segmentsOf (joinSegments (t :: ts)) = t :: ts :=
            ih (List.cons_ne_nil t ts) fun u hu => h u (List.mem_cons_of_mem s hu)
          rw [joinSegments_cons_of_ne_nil s (List.cons_ne_nil t ts), segmentsOf_append hs, hrest]

/-- An absolute path is spelled from the root. -/
theorem toList_of_isAbsolute {p : Path} (h : p.isAbsolute = true) :
    ∃ cs, p.spelling.toList = '/' :: cs := by
  rw [isAbsolute, decide_eq_true_eq] at h
  exact List.head?_eq_some_iff.1 h

/-! ## File names -/

/-- A file name: a segment that says something, and something else than `..`. -/
structure IsFileName (name : String) : Prop where
  ne_empty : name ≠ ""
  ne_here : name ≠ "."
  ne_up : name ≠ ".."
  one : '/' ∉ name.toList

instance : DecidablePred IsFileName := fun name =>
  decidable_of_iff (name ≠ "" ∧ name ≠ "." ∧ name ≠ ".." ∧ '/' ∉ name.toList)
    ⟨fun h => ⟨h.1, h.2.1, h.2.2.1, h.2.2.2⟩, fun h => ⟨h.ne_empty, h.ne_here, h.ne_up, h.one⟩⟩

theorem isFileName_ofList {segment : List Char} (hone : '/' ∉ segment)
    (hword : ¬ (segment = [] ∨ segment = ['.'])) (hup : segment ≠ ['.', '.']) :
    IsFileName (String.ofList segment) := by
  rw [not_or] at hword
  refine ⟨?_, ?_, ?_, ?_⟩
  · intro heq
    exact hword.1 (by simpa using congrArg String.toList heq)
  · intro heq
    exact hword.2 (by simpa using congrArg String.toList heq)
  · intro heq
    exact hup (by simpa using congrArg String.toList heq)
  · simpa using hone

/-- A file name is none of the segments that are silent. -/
theorem IsFileName.not_silent {name : String} (h : IsFileName name) :
    ¬ (name.toList = [] ∨ name.toList = ['.']) := by
  rintro (heq | heq)
  · exact h.ne_empty (String.toList_eq_nil_iff.1 heq)
  · exact h.ne_here (String.toList_inj.1 heq)

theorem IsFileName.toList_ne_up {name : String} (h : IsFileName name) :
    name.toList ≠ ['.', '.'] :=
  fun heq => h.ne_up (String.toList_inj.1 heq)

theorem componentOf?_of_isFileName {name : String} (h : IsFileName name) :
    componentOf? name.toList = some (.name name) := by
  rcases not_or.1 h.not_silent with ⟨hempty, hhere⟩
  simp [componentOf?, hempty, hhere, h.toList_ne_up]

theorem filterMap_componentOf?_joinSegments {names : List String}
    (h : ∀ name ∈ names, IsFileName name) :
    (segmentsOf (joinSegments (names.map String.toList))).filterMap componentOf? =
      names.map .name := by
  have hone : ∀ s ∈ names.map String.toList, '/' ∉ s := by
    intro s hs
    rcases List.mem_map.1 hs with ⟨name, hname, rfl⟩
    exact (h name hname).one
  by_cases hnil : names = []
  · rw [hnil]
    rfl
  · calc
      (segmentsOf (joinSegments (names.map String.toList))).filterMap componentOf?
        = (names.map String.toList).filterMap componentOf? := by
          rw [segmentsOf_joinSegments (by simpa using hnil) hone]
      _ = names.filterMap (some ∘ Component.name) := by
          rw [List.filterMap_map]
          exact List.filterMap_congr fun name hname => componentOf?_of_isFileName (h name hname)
      _ = names.map .name := by rw [List.filterMap_eq_map]

/-- The components of an absolute spelling that is made of file names. -/
theorem components_ofNames {names : List String} (h : ∀ name ∈ names, IsFileName name) :
    components ⟨String.ofList ('/' :: joinSegments (names.map String.toList))⟩ =
      .root :: names.map .name := by
  simp [components, front, segmentsOf, isAbsolute, filterMap_componentOf?_joinSegments h]

theorem head?_ne_of_segmentsOf {cs s : List Char} {ss : List (List Char)}
    (h : segmentsOf cs = s :: ss) (hs : s ≠ []) : cs.head? ≠ some '/' := by
  intro hhead
  rcases List.head?_eq_some_iff.1 hhead with ⟨rest, rfl⟩
  rw [segmentsOf, if_pos rfl] at h
  exact hs (List.cons.inj h).1.symm

/-- The components of a relative spelling that is made of file names. -/
theorem components_ofRelativeNames {names : List String} (h : ∀ name ∈ names, IsFileName name) :
    components ⟨String.ofList (joinSegments (names.map String.toList))⟩ = names.map .name := by
  cases names with
  | nil => rfl
  | cons name names =>
      have hname : IsFileName name := h name List.mem_cons_self
      have hone : ∀ s ∈ (name :: names).map String.toList, '/' ∉ s := by
        intro s hs
        rcases List.mem_map.1 hs with ⟨n, hn, rfl⟩
        exact (h n hn).one
      have hsegments := filterMap_componentOf?_joinSegments h
      have hcut : segmentsOf (joinSegments ((name :: names).map String.toList)) =
          name.toList :: names.map String.toList := segmentsOf_joinSegments (by simp) hone
      -- The first name is no dot, and it does not begin with a separator.
      have hempty : name.toList ≠ [] := fun heq => hname.ne_empty (String.toList_eq_nil_iff.1 heq)
      have hhere : name.toList ≠ ['.'] := fun heq => hname.ne_here (String.toList_inj.1 heq)
      have hhead := head?_ne_of_segmentsOf hcut hempty
      generalize joinSegments ((name :: names).map String.toList) = spelling at *
      rw [hcut] at hsegments
      simpa [components, front, isAbsolute, hcut, hhere, hhead] using hsegments

end Path
end BuildTrace
