import BuildTrace.Path.Fold
import BuildTrace.Proofs.Path.Segments
import Mathlib.Data.List.Induction

/-!
# Folding — what a folded path is

Folding works off all dots, so a folded path is made of file names, and folding it again changes
nothing:

* `Path.isAbsolute_lexicalJoin` — a name as seen from an absolute directory is absolute;
* `Folded.isProper_ofComponents`, `Folded.components_toPath` — the names of a folded path are file
  names, and its spelling says them again;
* `Path.fold_fold`, `Path.lexicalJoin_lexicalJoin` — a folded path stays as it is.
-/

namespace BuildTrace

/-! ## Absolute paths -/

/-- A folded path that starts at the root stays there. -/
theorem Folded.absolute_foldl {f : Folded} (h : f.absolute = true) (cs : List Component) :
    (cs.foldl step f).absolute = true := by
  induction cs generalizing f with
  | nil => exact h
  | cons c cs ih =>
      refine ih ?_
      cases c with
      | root => rfl
      | here | up | name => exact h

theorem Folded.isAbsolute_toPath {f : Folded} (h : f.absolute = true) :
    f.toPath.isAbsolute = true := by
  simp [Path.isAbsolute, toPath, h]

namespace Path

theorem components_of_isAbsolute {p : Path} (h : p.isAbsolute = true) :
    ∃ cs, p.components = .root :: cs := by
  cases hsegments : segmentsOf p.spelling.toList with
  | nil => exact absurd hsegments (segmentsOf_ne_nil _)
  | cons s ss =>
      refine ⟨ss.filterMap componentOf?, ?_⟩
      simp [components, front, hsegments, h]

theorem isAbsolute_fold {p : Path} (h : p.isAbsolute = true) : p.fold.isAbsolute = true := by
  rcases components_of_isAbsolute h with ⟨cs, hcs⟩
  refine Folded.isAbsolute_toPath ?_
  rw [hcs]
  exact Folded.absolute_foldl rfl cs

theorem isAbsolute_join {base : Path} (h : base.isAbsolute = true) (p : Path) :
    (base.join p).isAbsolute = true := by
  rw [join]
  by_cases hp : p.isAbsolute = true
  · rw [if_pos hp]
    exact hp
  · rw [if_neg hp]
    -- The base is not empty, so the joined spelling begins as the base does.
    have hhead : base.spelling.toList.head? = some '/' := by simpa [isAbsolute] using h
    split
    · next hlast =>
        rw [List.getLast?_eq_none_iff] at hlast
        rw [hlast] at hhead
        cases hhead
    · simp [isAbsolute, List.head?_append, hhead]
    · simp [isAbsolute, List.head?_append, hhead]

/-- A name as seen from an absolute directory is absolute. -/
theorem isAbsolute_lexicalJoin {base : Path} (h : base.isAbsolute = true) (p : Path) :
    (base.lexicalJoin p).isAbsolute = true :=
  isAbsolute_fold (isAbsolute_join h p)

end Path

/-! ## Folded paths -/

namespace Path

theorem isFileName_of_componentOf? {segment : List Char} {name : String} (hone : '/' ∉ segment)
    (h : componentOf? segment = some (.name name)) : IsFileName name := by
  unfold componentOf? at h
  split_ifs at h with hword hup
  · cases h
  · have hname : String.ofList segment = name := by simpa using h
    exact hname ▸ isFileName_ofList hone hword hup

theorem isFileName_of_mem_components {p : Path} {name : String} (h : .name name ∈ p.components) :
    IsFileName name := by
  have hall : ∀ s ∈ segmentsOf p.spelling.toList, '/' ∉ s := fun s hs => not_mem_segmentsOf hs
  -- What stands behind the front are segments, and the front is no name.
  have hsegments : ∀ s ∈ p.front.2, '/' ∉ s := by
    intro s hs
    unfold front at hs
    split at hs
    · exact absurd hs List.not_mem_nil
    · next hcut =>
        rw [hcut] at hall
        split_ifs at hs
        · exact hall s (List.mem_cons_of_mem _ hs)
        · exact hall s (List.mem_cons_of_mem _ hs)
        · exact hall s hs
  have hfront : .name name ∉ p.front.1.toList := by
    unfold front
    split
    · simp
    · split_ifs
      all_goals simp
  rcases List.mem_append.1 h with h | h
  · exact absurd h hfront
  · rcases List.mem_filterMap.1 h with ⟨s, hs, hcomponent⟩
    exact isFileName_of_componentOf? (hsegments s hs) hcomponent

end Path

namespace Folded

/-- A folded path made of file names. -/
def IsProper (f : Folded) : Prop :=
  ∀ name ∈ f.reversedNames, Path.IsFileName name

variable {f : Folded}

theorem IsProper.step (h : f.IsProper) {c : Component}
    (hc : ∀ name, c = .name name → Path.IsFileName name) : (f.step c).IsProper := by
  cases c with
  | root => exact nofun
  | here => exact h
  | up => exact fun name hname => h name (List.mem_of_mem_tail hname)
  | name s =>
      intro name hname
      rcases List.mem_cons.1 hname with rfl | hname
      · exact hc name rfl
      · exact h name hname

theorem isProper_ofComponents {cs : List Component}
    (hcs : ∀ name, .name name ∈ cs → Path.IsFileName name) : (ofComponents cs).IsProper := by
  induction cs using List.reverseRecOn with
  | nil => exact nofun
  | append_singleton cs c ih =>
      have hfront : (ofComponents cs).IsProper := ih fun name hname => hcs name (by simp [hname])
      rw [ofComponents_append]
      exact hfront.step fun name hname => hcs name (by simp [hname])

/-- The spelling of a folded path says its names again. -/
theorem components_toPath (h : f.IsProper) :
    f.toPath.components =
      (if f.absolute then [.root] else []) ++ f.reversedNames.reverse.map .name := by
  have hnames : ∀ name ∈ f.reversedNames.reverse, Path.IsFileName name :=
    fun name hname => h name (List.mem_reverse.1 hname)
  cases habsolute : f.absolute with
  | true => simpa [toPath, habsolute] using Path.components_ofNames hnames
  | false => simpa [toPath, habsolute] using Path.components_ofRelativeNames hnames

theorem ofComponents_names (absolute : Bool) (names : List String) :
    ofComponents ((if absolute then [.root] else []) ++ names.map .name) =
      { absolute := absolute, reversedNames := names.reverse } := by
  have hnames : ∀ f : Folded, (names.map Component.name).foldl Folded.step f =
      { f with reversedNames := names.reverse ++ f.reversedNames } := by
    induction names with
    | nil => exact fun f => rfl
    | cons name names ih =>
        intro f
        simp [ih, Folded.step]
  cases absolute with
  | true => simp [ofComponents, Folded.step, hnames]
  | false => simp [ofComponents, hnames]

end Folded

namespace Path

theorem isProper_ofComponents_components (p : Path) :
    (Folded.ofComponents p.components).IsProper :=
  Folded.isProper_ofComponents fun _ hname => isFileName_of_mem_components hname

/-- Folding a folded path changes nothing. -/
theorem fold_fold (p : Path) : p.fold.fold = p.fold := by
  have hproper := isProper_ofComponents_components p
  calc
    p.fold.fold
        = (Folded.ofComponents (Folded.ofComponents p.components).toPath.components).toPath := rfl
    _ = (Folded.ofComponents p.components).toPath := by
          rw [Folded.components_toPath hproper, Folded.ofComponents_names, List.reverse_reverse]
    _ = p.fold := rfl

theorem lexicalJoin_of_isAbsolute {p : Path} (h : p.isAbsolute = true) (base : Path) :
    base.lexicalJoin p = p.fold := by
  simp [lexicalJoin, join, h]

/-- A name that was made absolute stays as it is. -/
theorem lexicalJoin_lexicalJoin {base : Path} (h : base.isAbsolute = true) (p : Path) :
    base.lexicalJoin (base.lexicalJoin p) = base.lexicalJoin p := by
  calc
    base.lexicalJoin (base.lexicalJoin p) = (base.lexicalJoin p).fold :=
          lexicalJoin_of_isAbsolute (isAbsolute_lexicalJoin h p) base
    _ = base.lexicalJoin p := fold_fold (base.join p)

end Path
end BuildTrace
