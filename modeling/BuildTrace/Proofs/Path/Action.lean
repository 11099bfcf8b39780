import BuildTrace.Proofs.Path.Folding

/-!
# Action — names seen from a directory, one after the other

Going to a directory and from there to a name is going to the joined name at once. Folding works
off the components one by one, and joining puts those of the name behind those of the directory:

* `segmentsOf_append_cons`, `said_append_cons` — a spelling with a separator in the middle;
* `Folded.ofComponents_join` — what is folded from a joined path;
* `Path.lexicalJoin_join` — two names in a row are one;
* `Path.lexicalJoin_canonical` — what becomes of a name, all in all.
-/

namespace BuildTrace
namespace Path

variable {base p q : Path} {cs : List Char}

/-! ## Joined spellings -/

theorem segmentsOf_append_cons (cs ds : List Char) :
    segmentsOf (cs ++ '/' :: ds) = segmentsOf cs ++ segmentsOf ds := by
  induction cs with
  | nil => simp [segmentsOf]
  | cons c cs ih =>
      cases hcs : segmentsOf cs with
      | nil => exact absurd hcs (segmentsOf_ne_nil cs)
      | cons s ss => by_cases hc : c = '/' <;> simp [segmentsOf, hc, ih, hcs]

/-- What the segments of a spelling say. A separator or a `.` in front says nothing here. -/
def said (cs : List Char) : List Component :=
  (segmentsOf cs).filterMap componentOf?

theorem said_append_cons (cs ds : List Char) : said (cs ++ '/' :: ds) = said cs ++ said ds := by
  simp only [said, segmentsOf_append_cons, List.filterMap_append]

/-- A separator at the end says nothing. -/
theorem said_concat (cs : List Char) : said (cs ++ ['/']) = said cs := by
  simpa [said, segmentsOf, componentOf?] using said_append_cons cs []

theorem isAbsolute_join_of_relative (hp : p.isAbsolute = false) :
    (base.join p).isAbsolute = base.isAbsolute := by
  cases hbase : base.isAbsolute with
  | true => exact isAbsolute_join hbase p
  | false =>
      cases hcs : base.spelling.toList with
      | nil => simp [join, hp, hcs]
      | cons c cs =>
          have hc : c ≠ '/' := by simpa [isAbsolute, hcs] using hbase
          unfold join
          rw [if_neg (by simp [hp])]
          split
          · simp_all
          · simp [isAbsolute, hcs, hc]
          · simp [isAbsolute, hcs, hc]

theorem said_join (hp : p.isAbsolute = false) :
    said (base.join p).spelling.toList = said base.spelling.toList ++ said p.spelling.toList := by
  rcases List.eq_nil_or_concat base.spelling.toList with hbase | ⟨cs, c, hbase⟩
  · simp [join, hp, hbase, said, segmentsOf, componentOf?]
  · by_cases hc : c = '/'
    · -- The separator at the end of the base is the one in the middle.
      subst hc
      have hjoin : (base.join p).spelling.toList = cs ++ '/' :: p.spelling.toList := by
        simp [join, hp, hbase]
      rw [hjoin, hbase, said_append_cons, List.concat_eq_append, said_concat]
    · have hjoin : (base.join p).spelling.toList =
          base.spelling.toList ++ '/' :: p.spelling.toList := by
        simp [join, hp, hbase]
      simp only [hjoin, said_append_cons]

end Path

/-! ## Folding what was joined -/

namespace Folded

open BuildTrace.Path

variable {base p q : Path}

/-- Only whether a path is absolute and what its segments say counts for folding. -/
theorem foldl_components (f : Folded) (p : Path) :
    p.components.foldl step f =
      (said p.spelling.toList).foldl step (if p.isAbsolute then { absolute := true } else f) := by
  cases hsegments : segmentsOf p.spelling.toList with
  | nil => exact absurd hsegments (segmentsOf_ne_nil _)
  | cons s ss =>
      by_cases hp : p.isAbsolute = true
      · -- The segment in front of the first separator is empty.
        rcases toList_of_isAbsolute hp with ⟨cs, hcs⟩
        have hs : s = [] := by
          rw [hcs, segmentsOf, if_pos rfl] at hsegments
          exact (List.cons.inj hsegments).1.symm
        simp [components, front, said, hsegments, hp, hs, componentOf?, step]
      · by_cases hs : s = ['.']
        · simp [components, front, said, hsegments, hp, hs, componentOf?, step]
        · simp [components, front, said, hsegments, hp, hs]

/-- A relative name goes on where its directory ends, and an absolute one begins anew. -/
theorem foldl_components_join (f : Folded) (p q : Path) :
    (p.join q).components.foldl step f =
      q.components.foldl step (p.components.foldl step f) := by
  cases hq : q.isAbsolute with
  | true => simp [join, foldl_components _ q, hq]
  | false =>
      have hjoin : (p.join q).isAbsolute = p.isAbsolute := isAbsolute_join_of_relative hq
      simp only [foldl_components, said_join hq, hjoin, hq, List.foldl_append, Bool.false_eq_true,
        if_false]

/-- The components of a folded path fold to it. -/
theorem ofComponents_fold (p : Path) :
    ofComponents p.fold.components = ofComponents p.components := by
  have hproper := isProper_ofComponents_components p
  rw [Path.fold, components_toPath hproper, ofComponents_names, List.reverse_reverse]

end Folded

namespace Path

variable {base p p' q : Path}

theorem lexicalJoin_eq (base p : Path) :
    base.lexicalJoin p =
      (p.components.foldl Folded.step (Folded.ofComponents base.components)).toPath := by
  simp only [lexicalJoin, fold, Folded.ofComponents, Folded.foldl_components_join]

/-- Two names in a row are one. -/
theorem lexicalJoin_join (base p q : Path) :
    (base.lexicalJoin p).lexicalJoin q = base.lexicalJoin (p.join q) := by
  have hfirst : Folded.ofComponents (base.lexicalJoin p).components =
      p.components.foldl Folded.step (Folded.ofComponents base.components) := by
    rw [lexicalJoin, Folded.ofComponents_fold]
    exact Folded.foldl_components_join {} base p
  calc
    (base.lexicalJoin p).lexicalJoin q
        = (q.components.foldl Folded.step
            (Folded.ofComponents (base.lexicalJoin p).components)).toPath := lexicalJoin_eq _ q
    _ = ((p.join q).components.foldl Folded.step
            (Folded.ofComponents base.components)).toPath := by
          rw [hfirst, Folded.foldl_components_join]
    _ = base.lexicalJoin (p.join q) := (lexicalJoin_eq base (p.join q)).symm

/-- The spellings of directory and name do not count. -/
theorem lexicalJoin_of_same {base' : Path} (hbase : base.Same base') (hp : p.Same p') :
    base.lexicalJoin p = base'.lexicalJoin p' := by
  have hcomponents : base.components = base'.components := hbase
  have hnames : p.components = p'.components := hp
  simp only [lexicalJoin_eq, hcomponents, hnames]

/-! ## What becomes of a name -/

theorem isAbsolute_iff_root_mem : p.isAbsolute = true ↔ .root ∈ p.components := by
  constructor
  · intro h
    rcases components_of_isAbsolute h with ⟨cs, hcs⟩
    simp [hcs]
  · intro hroot
    by_contra hp
    -- A segment is never the root, and neither is the front of a relative path.
    have hsegment : ∀ s : List Char, componentOf? s ≠ some .root := by
      intro s
      unfold componentOf?
      split_ifs <;> simp
    unfold components front at hroot
    split at hroot
    · simp at hroot
    · split_ifs at hroot <;> simp [hsegment] at hroot

theorem isAbsolute_join_iff :
    (base.join p).isAbsolute = true ↔ base.isAbsolute = true ∨ p.isAbsolute = true := by
  cases hp : p.isAbsolute with
  | true => simp [join, hp]
  | false => simp [isAbsolute_join_of_relative hp]

end Path

namespace Folded

theorem absolute_foldl_iff {f : Folded} {cs : List Component} :
    (cs.foldl step f).absolute = true ↔ f.absolute = true ∨ .root ∈ cs := by
  induction cs generalizing f with
  | nil => simp
  | cons c cs ih => cases c <;> simp [ih, step]

theorem IsProper.isAbsolute_toPath_iff {f : Folded} (h : f.IsProper) :
    f.toPath.isAbsolute = true ↔ f.absolute = true := by
  cases hf : f.absolute <;> simp [Path.isAbsolute_iff_root_mem, components_toPath h, hf]

end Folded

namespace Path

variable {base p : Path}

theorem isAbsolute_fold_iff : p.fold.isAbsolute = true ↔ p.isAbsolute = true := by
  have hproper := isProper_ofComponents_components p
  calc
    p.fold.isAbsolute = true
        ↔ (Folded.ofComponents p.components).absolute = true := hproper.isAbsolute_toPath_iff
    _ ↔ .root ∈ p.components := by simp [Folded.ofComponents, Folded.absolute_foldl_iff]
    _ ↔ p.isAbsolute = true := isAbsolute_iff_root_mem.symm

/-- A folded path is a row of file names, behind the root if it is absolute. -/
theorem components_fold (p : Path) :
    ∃ names : List String, (∀ name ∈ names, IsFileName name) ∧
      p.fold.components = (if p.fold.isAbsolute then [.root] else []) ++ names.map .name := by
  have hproper := isProper_ofComponents_components p
  refine ⟨(Folded.ofComponents p.components).reversedNames.reverse, ?_, ?_⟩
  · intro name hname
    exact hproper name (List.mem_reverse.1 hname)
  · have habsolute : p.fold.isAbsolute = (Folded.ofComponents p.components).absolute :=
      Bool.eq_iff_iff.2 hproper.isAbsolute_toPath_iff
    rw [habsolute]
    exact Folded.components_toPath hproper

/-- The root is as far up as `..` leads. -/
theorem lexicalJoin_up_of_root (h : base.lexicalJoin p = ⟨"/"⟩) :
    base.lexicalJoin (p.join ⟨".."⟩) = ⟨"/"⟩ := by
  rw [← lexicalJoin_join, h]
  decide +kernel

/-- A folded path is its own fold, from nowhere and with nothing behind it. -/
theorem lexicalJoin_empty (p : Path) :
    p.fold.lexicalJoin ⟨""⟩ = p.fold ∧ lexicalJoin ⟨""⟩ p.fold = p.fold := by
  have hempty : ∀ q : Path, Path.join ⟨""⟩ q = q := by
    intro q
    simp [join]
  have hnothing : Path.components ⟨""⟩ = [] := by decide
  constructor
  · rw [lexicalJoin_eq, Folded.ofComponents_fold, hnothing]
    rfl
  · rw [lexicalJoin, hempty, fold_fold]

/-- **Names as seen from a directory.** What becomes of a name is a row of file names without `.`
and `..`, behind the root just if the directory or the name is absolute, and `..` leads no further
up than the root. A name behind a name is seen from the directory as the joined name is. What was
folded stays as it is, with nothing behind it, seen from nowhere, and seen from anywhere if it is
absolute. How directory and name are spelled does not count. -/
theorem lexicalJoin_canonical (base p q : Path) :
    (∃ names : List String, (∀ name ∈ names, IsFileName name) ∧
        (base.lexicalJoin p).components =
          (if (base.lexicalJoin p).isAbsolute then [.root] else []) ++ names.map .name) ∧
      (∀ c ∈ (base.lexicalJoin p).components, c ≠ .here ∧ c ≠ .up) ∧
      ((base.lexicalJoin p).isAbsolute = true ↔ base.isAbsolute = true ∨ p.isAbsolute = true) ∧
      (base.lexicalJoin p = ⟨"/"⟩ → base.lexicalJoin (p.join ⟨".."⟩) = ⟨"/"⟩) ∧
      (base.lexicalJoin p).lexicalJoin q = base.lexicalJoin (p.join q) ∧
      ((base.lexicalJoin p).lexicalJoin ⟨""⟩ = base.lexicalJoin p ∧
        lexicalJoin ⟨""⟩ (base.lexicalJoin p) = base.lexicalJoin p ∧
        ((base.lexicalJoin p).isAbsolute = true →
          ∀ base' : Path, base'.lexicalJoin (base.lexicalJoin p) = base.lexicalJoin p)) ∧
      ∀ base' p' : Path, base.Same base' → p.Same p' →
        base.lexicalJoin p = base'.lexicalJoin p' := by
  have hcomponents := components_fold (base.join p)
  refine ⟨hcomponents, ?_, isAbsolute_fold_iff.trans isAbsolute_join_iff, lexicalJoin_up_of_root,
    lexicalJoin_join base p q, ⟨(lexicalJoin_empty _).1, (lexicalJoin_empty _).2, ?_⟩,
    fun _ _ => lexicalJoin_of_same⟩
  · rcases hcomponents with ⟨names, -, hnames⟩
    intro c hc
    rw [lexicalJoin, hnames] at hc
    rcases List.mem_append.1 hc with hroot | hname
    · have hc : c = .root := by
        split_ifs at hroot
        · exact List.mem_singleton.1 hroot
        · exact absurd hroot List.not_mem_nil
      simp [hc]
    · rcases List.mem_map.1 hname with ⟨name, -, rfl⟩
      simp
  · intro habsolute base'
    rw [lexicalJoin_of_isAbsolute habsolute, lexicalJoin, fold_fold]

end Path
end BuildTrace
