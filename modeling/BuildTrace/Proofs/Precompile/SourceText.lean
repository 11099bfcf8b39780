import BuildTrace.Proofs.Precompile.Reach
import Mathlib.Data.List.Chain

/-!
# SourceText — the text of an expansion, byte for byte

The expansion of a text is laid out like the tree of its includes. Each line either stays, or leads
to a file: the first time the lines of this file stand in its place, and later nothing does.

* `IncludeTree` — a text, line by line, with the trees of the files that are put in;
* `IncludeTree.source`, `IncludeTree.owned` — the text it comes to, and whose every byte is;
* `IncludeTree.Stretch` — where the text of a file stands;
* `IncludeTree.Follows` — the tree of a text on given files;
* `Expansion.exists_tree` — the work on a text follows its tree;
* `SearchPath.layout_of_expand` — the text of an expansion is that of its tree, in which texts of
  different files share no line.
-/

namespace BuildTrace

/-! ## Trees of includes -/

/-- A text, line by line. -/
inductive IncludeTree where
  | nil
  /-- A line that stays. -/
  | kept (line : List UInt8) (rest : IncludeTree)
  /-- A directive for a file that is known. -/
  | again (line : List UInt8) (rest : IncludeTree)
  /-- A directive for a new file, with the text of that file and its tree. -/
  | file (line : List UInt8) (path : Path) (text : List UInt8) (inner rest : IncludeTree)

namespace IncludeTree

/-- The line feed that is put behind a text without one. -/
def lineEnd (text : List UInt8) : List UInt8 :=
  if text.getLast? = some 10 then [] else [10]

/-- The lines of the text itself. -/
def lines : IncludeTree → List (List UInt8)
  | nil => []
  | kept line rest | again line rest | file line _ _ _ rest => line :: rest.lines

/-- The files that are put in, in the order in which they are met. -/
def files : IncludeTree → List Path
  | nil => []
  | kept _ rest | again _ rest => rest.files
  | file _ path _ inner rest => path :: inner.files ++ rest.files

/-- The text with the files in place: directives that lead to a file are left out, and a file that
does not end in a line feed is given one. -/
def source : IncludeTree → List UInt8
  | nil => []
  | kept line rest => line ++ rest.source
  | again _ rest => rest.source
  | file _ _ text inner rest => inner.source ++ lineEnd text ++ rest.source

/-- The bytes of the source, each with the file it is from. -/
def owned (origin : Path) : IncludeTree → List (Path × UInt8)
  | nil => []
  | kept line rest => line.map (origin, ·) ++ rest.owned origin
  | again _ rest => rest.owned origin
  | file _ path text inner rest =>
    inner.owned path ++ (lineEnd text).map (path, ·) ++ rest.owned origin

/-- The text of the file `path`, all that is put in with it included, stands in the source between
`before` and `behind`. -/
inductive Stretch (path : Path) : (tree : IncludeTree) → (before bytes behind : List UInt8) → Prop
  where
  | here (line text : List UInt8) (inner rest : IncludeTree) :
      Stretch path (file line path text inner rest) [] (inner.source ++ lineEnd text) rest.source
  | inside {inner : IncludeTree} {before bytes behind : List UInt8} (line : List UInt8)
      (other : Path) (text : List UInt8) (rest : IncludeTree) :
      Stretch path inner before bytes behind →
        Stretch path (file line other text inner rest) before bytes
          (behind ++ lineEnd text ++ rest.source)
  | behind {rest : IncludeTree} {before bytes behind : List UInt8} (line : List UInt8)
      (other : Path) (text : List UInt8) (inner : IncludeTree) :
      Stretch path rest before bytes behind →
        Stretch path (file line other text inner rest) (inner.source ++ lineEnd text ++ before)
          bytes behind
  | kept {rest : IncludeTree} {before bytes behind : List UInt8} (line : List UInt8) :
      Stretch path rest before bytes behind →
        Stretch path (kept line rest) (line ++ before) bytes behind
  | again {rest : IncludeTree} {before bytes behind : List UInt8} (line : List UInt8) :
      Stretch path rest before bytes behind →
        Stretch path (again line rest) before bytes behind

/-- The tree of the lines of `origin`, when the files `known` have been met: where its lines lead,
and what the files have in them. -/
inductive Follows (fs : FileSystem) (s : SearchPath) :
    (known : List Path) → (origin : Path) → IncludeTree → Prop where
  | nil (known : List Path) (origin : Path) : Follows fs s known origin nil
  | kept {known : List Path} {origin : Path} {line : List UInt8} {rest : IncludeTree} :
      (IncludeDirective.ofLine? line).bind (s.resolve? fs origin) = none →
        Follows fs s known origin rest → Follows fs s known origin (kept line rest)
  | again {known : List Path} {origin path : Path} {line : List UInt8} {rest : IncludeTree} :
      (IncludeDirective.ofLine? line).bind (s.resolve? fs origin) = some path →
        (∃ q ∈ known, path.Same q) → Follows fs s known origin rest →
          Follows fs s known origin (again line rest)
  | file {known : List Path} {origin path : Path} {line text : List UInt8}
      {inner rest : IncludeTree} :
      (IncludeDirective.ofLine? line).bind (s.resolve? fs origin) = some path →
        (∀ q ∈ known, ¬ path.Same q) → fs.readFile path = .ok text →
          inner.lines = physicalLines text → Follows fs s (path :: known) path inner →
            Follows fs s (inner.files.reverse ++ path :: known) origin rest →
              Follows fs s known origin (file line path text inner rest)

/-! ### Lines -/

/-- A text that ends where a line does. -/
def EndsLine (bytes : List UInt8) : Prop :=
  bytes = [] ∨ bytes.getLast? = some 10

theorem EndsLine.append {front back : List UInt8} (hfront : EndsLine front)
    (hback : EndsLine back) : EndsLine (front ++ back) := by
  rcases hback with rfl | hback
  · rwa [List.append_nil]
  · exact Or.inr (by simp [List.getLast?_append, hback])

/-- A line feed is put where it is missing. -/
theorem endsLine_append_lineEnd {bytes text : List UInt8}
    (h : text.getLast? = some 10 → EndsLine bytes) : EndsLine (bytes ++ lineEnd text) := by
  by_cases hfeed : text.getLast? = some 10
  · simpa [lineEnd, hfeed] using h hfeed
  · exact Or.inr (by simp [lineEnd, hfeed])

/-- Only the last of the lines may be without a line feed. -/
def IsCut : List (List UInt8) → Prop
  | [] => True
  | line :: lines => (lines ≠ [] → line.getLast? = some 10) ∧ IsCut lines

theorem isCut_physicalLines (data : List UInt8) : IsCut (physicalLines data) := by
  induction data with
  | nil => trivial
  | cons b data ih =>
      rw [physicalLines]
      split
      · next hfeed => exact ⟨fun _ => by rw [hfeed]; rfl, ih⟩
      · cases hlines : physicalLines data with
        | nil => exact ⟨fun hne => absurd rfl hne, trivial⟩
        | cons line lines =>
            rw [hlines] at ih
            exact ⟨fun hne => by simp [List.getLast?_cons, ih.1 hne], ih.2⟩

/-- In a text that ends in a line feed all lines do. -/
theorem getLast?_of_mem_physicalLines {data : List UInt8} (h : data.getLast? = some 10) :
    ∀ line ∈ physicalLines data, line.getLast? = some 10 := by
  induction data with
  | nil => exact nofun
  | cons b data ih =>
      have hrest : data ≠ [] → ∀ line ∈ physicalLines data, line.getLast? = some 10 := by
        intro hne
        rcases List.exists_cons_of_ne_nil hne with ⟨c, rest, rfl⟩
        exact ih (by rwa [List.getLast?_cons_cons] at h)
      intro line hline
      rw [physicalLines] at hline
      split at hline
      · next hfeed =>
        rcases List.mem_cons.1 hline with rfl | hline
        · rw [hfeed]
          rfl
        · refine hrest ?_ line hline
          rintro rfl
          exact absurd hline List.not_mem_nil
      · next hother =>
        -- A byte other than a line feed is followed by the rest of its line.
        have hne : data ≠ [] := by
          rintro rfl
          exact hother (by simpa using h)
        cases hlines : physicalLines data with
        | nil => exact absurd (by rw [← flatten_physicalLines data, hlines]; rfl) hne
        | cons first lines =>
            rw [hlines] at hline hrest
            rcases List.mem_cons.1 hline with rfl | hline
            · simp [List.getLast?_cons, hrest hne first List.mem_cons_self]
            · exact hrest hne line (List.mem_cons_of_mem first hline)

/-! ### Where texts begin and end -/

variable {fs : FileSystem} {s : SearchPath} {known : List Path} {origin path : Path}
  {tree : IncludeTree}

/-- A text whose lines all have a line feed comes to one that ends in a line feed, or to nothing. -/
theorem Follows.endsLine_source (h : Follows fs s known origin tree)
    (hlines : ∀ line ∈ tree.lines, line.getLast? = some 10) : EndsLine tree.source := by
  induction h with
  | nil => exact Or.inl rfl
  | kept _ _ ih =>
      rcases List.forall_mem_cons.1 hlines with ⟨hline, hrest⟩
      exact EndsLine.append (Or.inr hline) (ih hrest)
  | again _ _ _ ih => exact ih (List.forall_mem_cons.1 hlines).2
  | @file known origin path line text inner rest _ _ _ hinner _ _ ihInner ihRest =>
      rw [hinner] at ihInner
      have hfile : EndsLine (inner.source ++ lineEnd text) :=
        endsLine_append_lineEnd fun hfeed => ihInner (getLast?_of_mem_physicalLines hfeed)
      exact hfile.append (ihRest (List.forall_mem_cons.1 hlines).2)

/-- What a file comes to ends in a line feed, or is nothing. -/
theorem Follows.endsLine_inlined (h : Follows fs s known origin tree) {text : List UInt8}
    (hlines : tree.lines = physicalLines text) : EndsLine (tree.source ++ lineEnd text) := by
  apply endsLine_append_lineEnd
  intro hfeed
  apply h.endsLine_source
  rw [hlines]
  exact getLast?_of_mem_physicalLines hfeed

theorem Stretch.lines_ne_nil {before bytes behind : List UInt8}
    (h : Stretch path tree before bytes behind) : tree.lines ≠ [] := by
  cases h with
  | here | inside | behind | kept | again => exact List.cons_ne_nil _ _

theorem Stretch.source_eq {before bytes behind : List UInt8}
    (h : Stretch path tree before bytes behind) : tree.source = before ++ bytes ++ behind := by
  induction h with
  | here => rfl
  | inside _ _ _ _ _ ih => simp [source, ih]
  | behind _ _ _ _ _ ih => simp [source, ih]
  | kept _ _ ih => simp [source, ih]
  | again _ _ ih => exact ih

/-- The text of a file begins where a line does, and ends where one does. -/
theorem Stretch.endsLine {before bytes behind : List UInt8}
    (h : Stretch path tree before bytes behind) :
    ∀ {known origin}, Follows fs s known origin tree → IsCut tree.lines →
      EndsLine before ∧ EndsLine bytes := by
  induction h with
  | here line text inner rest =>
      intro known origin htree _
      cases htree with
      | file _ _ _ hlines hinner => exact ⟨Or.inl rfl, hinner.endsLine_inlined hlines⟩
  | inside line other text rest _ ih =>
      intro known origin htree _
      cases htree with
      | file _ _ _ hlines hinner =>
          exact ih hinner (by rw [hlines]; exact isCut_physicalLines text)
  | behind line other text inner _ ih =>
      intro known origin htree hcut
      cases htree with
      | file _ _ _ hlines hinner hrest =>
          rcases ih hrest hcut.2 with ⟨hbefore, hbytes⟩
          exact ⟨(hinner.endsLine_inlined hlines).append hbefore, hbytes⟩
  | kept line hstretch ih =>
      intro known origin htree hcut
      cases htree with
      | kept _ hrest =>
          -- The line is not the last, so it has a line feed.
          rcases ih hrest hcut.2 with ⟨hbefore, hbytes⟩
          exact ⟨EndsLine.append (Or.inr (hcut.1 hstretch.lines_ne_nil)) hbefore, hbytes⟩
  | again line _ ih =>
      intro known origin htree hcut
      cases htree with
      | again _ _ hrest => exact ih hrest hcut.2

/-! ### Whose the lines are -/

theorem map_snd_map (origin : Path) (bytes : List UInt8) :
    (bytes.map (origin, ·)).map Prod.snd = bytes := by
  simp [Function.comp_def]

/-- The bytes of the source are those of its files. -/
theorem map_snd_owned (tree : IncludeTree) (origin : Path) :
    (tree.owned origin).map Prod.snd = tree.source := by
  induction tree generalizing origin with
  | nil => rfl
  | kept line rest ih => rw [owned, List.map_append, map_snd_map, ih, source]
  | again line rest ih => exact ih origin
  | file line path text inner rest ihInner ihRest =>
      rw [owned, List.map_append, List.map_append, map_snd_map, ihInner, ihRest, source]

/-- Bytes of different files stand side by side only where a line begins. -/
def KeepsLine (a b : Path × UInt8) : Prop :=
  a.1 = b.1 ∨ a.2 = 10

/-- Bytes that may be followed by others of the file `origin`. -/
structure Owns (origin : Path) (bytes : List (Path × UInt8)) : Prop where
  chain : bytes.IsChain KeepsLine
  last : ∀ a ∈ bytes.getLast?, a.1 = origin ∨ a.2 = 10

theorem owns_map (origin : Path) (bytes : List UInt8) : Owns origin (bytes.map (origin, ·)) := by
  refine ⟨(List.isChain_map _).2 ?_, ?_⟩
  · exact (List.pairwise_of_forall fun _ _ => Or.inl rfl).isChain
  · intro a ha
    rw [List.getLast?_map] at ha
    rcases Option.map_eq_some_iff.1 ha with ⟨b, -, rfl⟩
    exact Or.inl rfl

theorem snd_of_endsLine {bytes : List (Path × UInt8)} (h : EndsLine (bytes.map Prod.snd)) :
    ∀ a ∈ bytes.getLast?, a.2 = 10 := by
  intro a ha
  have hlast : (bytes.map Prod.snd).getLast? = some a.2 := by
    rw [List.getLast?_map, Option.mem_def.1 ha]
    rfl
  rcases h with hnil | hfeed
  · rw [hnil] at hlast
    cases hlast
  · exact Option.some.inj (hlast.symm.trans hfeed)

/-- Behind a line feed another file may begin. -/
theorem Owns.append {front back : List (Path × UInt8)} (hfront : front.IsChain KeepsLine)
    (hlast : back = [] → ∀ a ∈ front.getLast?, a.1 = origin ∨ a.2 = 10) (hback : Owns origin back)
    (h : back ≠ [] → EndsLine (front.map Prod.snd)) : Owns origin (front ++ back) := by
  by_cases hnil : back = []
  · subst hnil
    rw [List.append_nil]
    exact ⟨hfront, hlast rfl⟩
  · refine ⟨hfront.append hback.chain fun a ha b _ => Or.inr (snd_of_endsLine (h hnil) a ha), ?_⟩
    rw [List.getLast?_append_of_ne_nil _ hnil]
    exact hback.last

/-- Texts of different files share no line. -/
theorem Follows.owns (h : Follows fs s known origin tree) (hcut : IsCut tree.lines) :
    Owns origin (tree.owned origin) := by
  induction h with
  | nil => exact ⟨.nil, nofun⟩
  | @kept known origin line rest _ _ ih =>
      refine Owns.append (owns_map origin line).chain (fun _ => (owns_map origin line).last)
        (ih hcut.2) ?_
      -- The line is not the last, so it has a line feed.
      intro hne
      rw [map_snd_map]
      refine Or.inr (hcut.1 ?_)
      intro hnil
      cases rest with
      | nil => exact hne rfl
      | kept | again | file => cases hnil
  | again _ _ _ ih => exact ih hcut.2
  | @file known origin path line text inner rest _ _ _ hlines hinner _ ihInner ihRest =>
      have hfile : Owns path (inner.owned path) :=
        ihInner (by rw [hlines]; exact isCut_physicalLines text)
      -- The line feed that is added belongs to the file in front of it.
      have hchain : (inner.owned path ++ (lineEnd text).map (path, ·)).IsChain KeepsLine := by
        refine hfile.chain.append (owns_map path _).chain ?_
        intro a ha b hb
        rw [List.head?_map] at hb
        rcases Option.map_eq_some_iff.1 hb with ⟨c, -, rfl⟩
        exact hfile.last a ha
      have hends : EndsLine ((inner.owned path ++ (lineEnd text).map (path, ·)).map Prod.snd) := by
        rw [List.map_append, map_snd_owned, map_snd_map]
        exact hinner.endsLine_inlined hlines
      exact Owns.append hchain (fun _ a ha => Or.inr (snd_of_endsLine hends a ha)) (ihRest hcut.2)
        fun _ => hends

/-- All files that are put in stand somewhere. -/
theorem exists_stretch (tree : IncludeTree) :
    path ∈ tree.files → ∃ before bytes behind, Stretch path tree before bytes behind := by
  induction tree with
  | nil => exact fun hpath => absurd hpath List.not_mem_nil
  | kept line rest ih =>
      intro hpath
      rcases ih hpath with ⟨before, bytes, behind, hstretch⟩
      exact ⟨_, bytes, behind, .kept line hstretch⟩
  | again line rest ih =>
      intro hpath
      rcases ih hpath with ⟨before, bytes, behind, hstretch⟩
      exact ⟨before, bytes, behind, .again line hstretch⟩
  | file line other text inner rest ihInner ihRest =>
      intro hpath
      rcases List.mem_append.1 hpath with hpath | hpath
      · rcases List.mem_cons.1 hpath with rfl | hpath
        · exact ⟨[], _, _, .here line text inner rest⟩
        · rcases ihInner hpath with ⟨before, bytes, behind, hstretch⟩
          exact ⟨before, bytes, _, .inside line other text rest hstretch⟩
      · rcases ihRest hpath with ⟨before, bytes, behind, hstretch⟩
        exact ⟨_, bytes, behind, .behind line other text inner hstretch⟩

end IncludeTree

/-! ## The work on a text -/

namespace Expansion

open IncludeTree (lineEnd)

variable {fs : FileSystem} {s : SearchPath} {seen : List Path} {origin : Path} {e : Expansion}

/-- When more is known, less is left to be met. -/
theorem unseen_le_of_subset {seen' : List Path} (hsub : seen ⊆ seen') :
    unseen fs seen' ≤ unseen fs seen := by
  apply List.countP_mono_left
  intro n _ hn
  have hnew : isSeen seen' n.1.toPath = false := by simpa using hn
  simp [isSeen_eq_false_of_subset hsub hnew]

/-- What is met was among the nodes. -/
theorem unseen_cons_lt_of_target? {task : Task} {p : Path} (h : task.target? fs s = some p)
    (hnew : isSeen seen p = false) : unseen fs (p :: seen) < unseen fs seen := by
  cases task with
  | endLine => cases h
  | line origin bytes =>
      cases hd : IncludeDirective.ofLine? bytes with
      | none => simp [Task.target?, hd] at h
      | some d =>
          rw [target?_line hd, Option.map_eq_some_iff] at h
          rcases h with ⟨place, hfind, rfl⟩
          rcases SearchPath.mem_of_find? hfind with ⟨n, hn⟩
          exact unseen_cons_lt hn hnew

theorem of_map_eq_ok {f : Expansion → Expansion} {r : Except ReadError Expansion}
    (h : r.map f = .ok e) : ∃ e', r = .ok e' ∧ e = f e' := by
  cases r with
  | error => cases h
  | ok e' =>
      cases h
      exact ⟨e', rfl, rfl⟩

/-- The end of a file leaves the line feed that is missing. -/
theorem of_endLine {text : List UInt8} {rest : List Task}
    (h : ofTasks fs s seen ((if text.getLast? = some 10 then [] else [.endLine]) ++ rest) = .ok e) :
    ∃ e', ofTasks fs s seen rest = .ok e' ∧ e.source = lineEnd text ++ e'.source ∧
      e.dependencies = e'.dependencies := by
  rw [lineEnd]
  split at h
  · next hfeed => exact ⟨e, h, by simp [hfeed], rfl⟩
  · next hfeed =>
    rw [List.singleton_append, ofTasks] at h
    rcases of_map_eq_ok h with ⟨e', hrest, rfl⟩
    exact ⟨e', hrest, by simp [hfeed, withSource], rfl⟩

/-- What comes of the lines of a file: a tree, and the work that is left with all that is known by
then. -/
def Grows (fs : FileSystem) (s : SearchPath) (seen : List Path) (origin : Path)
    (lines : List (List UInt8)) (back : List Task) (e : Expansion) : Prop :=
  ∃ tree : IncludeTree, ∃ e', tree.lines = lines ∧ tree.Follows fs s seen origin ∧
    ofTasks fs s (tree.files.reverse ++ seen) back = .ok e' ∧
    e.source = tree.source ++ e'.source ∧ e.dependencies = tree.files ++ e'.dependencies

namespace Grows

variable {lines : List (List UInt8)} {back : List Task} {line text : List UInt8} {p : Path}

theorem kept (htarget : Task.target? fs s (.line origin line) = none)
    (h : Grows fs s seen origin lines back e) :
    Grows fs s seen origin (line :: lines) back (withSource line e) := by
  rcases h with ⟨tree, e', hlines, htree, hback, hsource, hfiles⟩
  refine ⟨.kept line tree, e', by rw [IncludeTree.lines, hlines], .kept htarget htree, hback, ?_,
    hfiles⟩
  simp [withSource, hsource, IncludeTree.source]

theorem again (htarget : Task.target? fs s (.line origin line) = some p)
    (hseen : isSeen seen p = true) (h : Grows fs s seen origin lines back e) :
    Grows fs s seen origin (line :: lines) back e := by
  rcases h with ⟨tree, e', hlines, htree, hback, hsource, hfiles⟩
  exact ⟨.again line tree, e', by rw [IncludeTree.lines, hlines],
    .again htarget (isSeen_iff.1 hseen) htree, hback, hsource, hfiles⟩

/-- A new file has all that is met in it, and the rest of the lines comes behind. -/
theorem file {stamp : FileStamp} (htarget : Task.target? fs s (.line origin line) = some p)
    (hnew : isSeen seen p = false) (hread : fs.readFile p = .ok text)
    (hinner : Grows fs s (p :: seen) p (physicalLines text)
      ((if text.getLast? = some 10 then [] else [.endLine]) ++
        (lines.map (Task.line origin) ++ back)) e)
    (hrest : ∀ known e', p :: seen ⊆ known →
      ofTasks fs s known (lines.map (Task.line origin) ++ back) = .ok e' →
        Grows fs s known origin lines back e') :
    Grows fs s seen origin (line :: lines) back (withFile (p, stamp) e) := by
  rcases hinner with ⟨inner, e₁, hinnerLines, hinnerTree, hend, hinnerSource, hinnerFiles⟩
  rcases of_endLine hend with ⟨e₂, hlater, hendSource, hendFiles⟩
  -- All that was met in the file is known when the rest of the lines is read.
  have hsub : p :: seen ⊆ inner.files.reverse ++ p :: seen := List.subset_append_right _ _
  rcases hrest _ e₂ hsub hlater with ⟨rest, e', hlines, htree, hback, hsource, hfiles⟩
  have hunknown : ∀ q ∈ seen, ¬ p.Same q := fun q => not_same_of_isSeen_eq_false hnew
  refine ⟨.file line p text inner rest, e', by rw [IncludeTree.lines, hlines],
    .file htarget hunknown hread hinnerLines hinnerTree htree, ?_, ?_, ?_⟩
  · simpa [IncludeTree.files] using hback
  · simp [withFile, hinnerSource, hendSource, hsource, IncludeTree.source]
  · have hall : e.dependencies = inner.files ++ (rest.files ++ e'.dependencies) := by
      rw [hinnerFiles, hendFiles, hfiles]
    calc
      (withFile (p, stamp) e).dependencies = p :: e.dependencies := rfl
      _ = p :: inner.files ++ rest.files ++ e'.dependencies := by simp [hall]

end Grows

/-- The work on the lines of a file follows a tree; what comes behind them starts with all that is
known by then. -/
theorem grows : ∀ {seen : List Path} {lines : List (List UInt8)} {origin : Path} {back : List Task}
    {e : Expansion}, ofTasks fs s seen (lines.map (Task.line origin) ++ back) = .ok e →
      Grows fs s seen origin lines back e := by
  intro seen
  -- On the files that are left to be met, and then line by line.
  induction hleft : unseen fs seen using Nat.strong_induction_on generalizing seen with
  | _ left ihLeft =>
    intro lines
    induction lines with
    | nil =>
        intro origin back e h
        exact ⟨.nil, e, rfl, .nil seen origin, h, rfl, rfl⟩
    | cons line lines ihLines =>
        intro origin back e h
        rw [List.map_cons, List.cons_append] at h
        cases htarget : Task.target? fs s (.line origin line) with
        | none =>
            rw [ofTasks_of_target?_eq_none htarget] at h
            rcases of_map_eq_ok h with ⟨e', hrest, rfl⟩
            exact (ihLines hrest).kept htarget
        | some p =>
            rw [ofTasks_of_target? htarget] at h
            split at h
            · next hseen => exact (ihLines h).again htarget hseen
            · next hseen =>
              have hnew : isSeen seen p = false := Bool.eq_false_iff.2 hseen
              have hlater : ∀ {known}, p :: seen ⊆ known → unseen fs known < left := by
                intro known hsub
                rw [← hleft]
                exact Nat.lt_of_le_of_lt (unseen_le_of_subset hsub)
                  (unseen_cons_lt_of_target? htarget hnew)
              split at h
              · cases h
              · next text stamp hread =>
                rcases of_map_eq_ok h with ⟨e', hwork, rfl⟩
                rw [tasksOf, List.append_assoc] at hwork
                exact Grows.file htarget hnew (readFile_of_read hread)
                  (ihLeft _ (hlater (List.Subset.refl _)) rfl hwork)
                  fun known e'' hsub hrest => ihLeft _ (hlater hsub) rfl hrest

/-- Where no line leads to a file the work keeps all lines. -/
theorem ofTasks_of_targets_eq_nil (seen : List Path) {tasks : List Task}
    (h : tasks.filterMap (Task.target? fs s) = []) :
    ofTasks fs s seen tasks = .ok { source := tasks.flatMap Task.bytes } := by
  induction tasks with
  | nil => rw [ofTasks]; rfl
  | cons task tasks ih =>
      rcases List.forall_mem_cons.1 (List.filterMap_eq_nil_iff.1 h) with ⟨hnone, hrest⟩
      rw [ofTasks_of_target?_eq_none hnone, ih (List.filterMap_eq_nil_iff.2 hrest)]
      rfl

end Expansion

/-! ## The text of an expansion -/

namespace SearchPath

open IncludeTree

variable {fs : FileSystem} {s : SearchPath} {origin : Path} {data : List UInt8}
  {x : ExpandedHeader} {tree : IncludeTree}

/-- An expansion is laid out like a tree of includes. -/
structure Layout (fs : FileSystem) (s : SearchPath) (origin : Path) (data : List UInt8)
    (x : ExpandedHeader) (tree : IncludeTree) : Prop where
  /-- The tree has all lines of the text and of the files that are put in, and in it lines stay or
  are left out by where they lead. -/
  lines : tree.lines = physicalLines data
  follows : tree.Follows fs s [origin] origin
  source : x.source = tree.source
  /-- Each file is put in once. -/
  files : tree.files = x.dependencies
  distinct : (origin :: x.dependencies).Pairwise fun p q => ¬ p.Same q
  /-- What a file comes to begins where a line does, and is nothing or ends in a line feed. -/
  stands : ∀ p ∈ x.dependencies, ∃ before bytes behind, Stretch p tree before bytes behind
  stretches : ∀ p before bytes behind, Stretch p tree before bytes behind →
    x.source = before ++ bytes ++ behind ∧ EndsLine before ∧ EndsLine bytes
  /-- Texts of different files share no line: bytes of two files stand side by side only behind a
  line feed. -/
  owned : (tree.owned origin).map Prod.snd = x.source
  apart : ∀ front a b back, tree.owned origin = front ++ a :: b :: back → a.1 = b.1 ∨ a.2 = 10

theorem exists_layout (hx : s.expand fs origin data = .ok x) :
    ∃ tree, Layout fs s origin data x tree := by
  have hwork : ∃ e, Expansion.ofTasks fs s [origin]
      ((physicalLines data).map (.line origin) ++ []) = .ok e ∧ x.source = e.source ∧
        x.dependencies = e.dependencies := by
    unfold expand at hx
    rw [List.append_nil]
    cases hwork : Expansion.ofTasks fs s [origin] ((physicalLines data).map (.line origin)) with
    | error f =>
        rw [hwork] at hx
        cases hx
    | ok e =>
        rw [hwork] at hx
        cases hx
        exact ⟨e, rfl, rfl, rfl⟩
  rcases hwork with ⟨e, hwork, hxsource, hxfiles⟩
  rcases Expansion.grows hwork with ⟨tree, e', hlines, htree, hend, hsource, hfiles⟩
  rw [Expansion.ofTasks] at hend
  cases hend
  rw [List.append_nil] at hwork hsource
  replace hfiles : e.dependencies = tree.files := hfiles.trans (List.append_nil _)
  -- The walk itself has the files apart, and the tree has them as they are found.
  have hvisits := (Expansion.visits_ofTasks _ _ _ hwork).distinct
  have hcut : IsCut tree.lines := by
    rw [hlines]
    exact isCut_physicalLines data
  refine ⟨tree, hlines, htree, hxsource.trans hsource, ?_, ?_, ?_, ?_, ?_, ?_⟩
  · rw [hxfiles, hfiles]
  · rw [hxfiles]
    refine List.pairwise_cons.2 ⟨?_, hvisits.1⟩
    intro p hp hsame
    exact not_same_of_isSeen_eq_false (hvisits.2 p hp) List.mem_cons_self hsame.symm
  · intro p hp
    rw [hxfiles, hfiles] at hp
    exact tree.exists_stretch hp
  · intro p before bytes behind hstretch
    refine ⟨?_, hstretch.endsLine htree hcut⟩
    rw [hxsource, hsource]
    exact hstretch.source_eq
  · rw [map_snd_owned, hxsource, hsource]
  · intro front a b back hbytes
    have hchain := (htree.owns hcut).chain
    rw [hbytes] at hchain
    exact (List.isChain_append_cons_cons.1 hchain).2.1

/-- A text without a directive that leads to a file is its own expansion. -/
theorem expand_of_targets_eq_nil (h : s.targets fs origin data = []) :
    ∃ x, s.expand fs origin data = .ok x ∧ x.source = data ∧ x.dependencies = [] := by
  have htargets : ((physicalLines data).map (Expansion.Task.line origin)).filterMap
      (Expansion.Task.target? fs s) = [] := by
    rw [Expansion.filterMap_target?_lines, h]
  have hbytes : ((physicalLines data).map (Expansion.Task.line origin)).flatMap
      Expansion.Task.bytes = data := by
    calc
      ((physicalLines data).map (Expansion.Task.line origin)).flatMap Expansion.Task.bytes
          = (physicalLines data).flatten := by
            rw [List.flatMap_map]
            exact List.flatMap_id
      _ = data := flatten_physicalLines data
  rw [expand, Expansion.ofTasks_of_targets_eq_nil [origin] htargets]
  exact ⟨_, rfl, hbytes, rfl⟩

/-- **The text of an expansion.** On every tree of files, whenever a text has an expansion, this is
laid out like the tree of its includes, byte for byte: no line is lost, put in twice or glued to one
of another file. A text that leads to no file is left as it is. -/
theorem layout_of_expand (fs : FileSystem) (s : SearchPath) (origin : Path) (data : List UInt8) :
    (∀ x, s.expand fs origin data = .ok x → ∃ tree, Layout fs s origin data x tree) ∧
      (s.targets fs origin data = [] →
        ∃ x, s.expand fs origin data = .ok x ∧ x.source = data ∧ x.dependencies = []) :=
  ⟨fun _ => exists_layout, expand_of_targets_eq_nil⟩

/-! ### A file that comes to nothing -/

/-- Bytes that are no text, with both kinds of line ends and none behind the last line. -/
def strangeBytes : List UInt8 :=
  [0xFF, 13, 10, 0xFE, 10, 0xFD]

theorem layout_cycleTree :
    (∃ x tree, expand cycleTree {} (Place.toPath ["a.h"]) (includeOf "b.h") = .ok x ∧
      Layout cycleTree {} (Place.toPath ["a.h"]) (includeOf "b.h") x tree) ∧
    ∃ x, expand cycleTree {} (Place.toPath ["a.h"]) strangeBytes = .ok x ∧
      x.source = strangeBytes := by
  have hexpand : ∃ x, expand cycleTree {} (Place.toPath ["a.h"]) (includeOf "b.h") = .ok x := by
    rw [expand, ofTasks_cycleTree]
    exact ⟨_, rfl⟩
  have hnowhere : targets cycleTree {} (Place.toPath ["a.h"]) strangeBytes = [] := by
    have hlines : ∀ line ∈ physicalLines strangeBytes, IncludeDirective.ofLine? line = none := by
      decide +kernel
    rw [targets, List.filterMap_eq_nil_iff.2 hlines]
    rfl
  rcases hexpand with ⟨x, hx⟩
  rcases (layout_of_expand cycleTree {} (Place.toPath ["a.h"]) (includeOf "b.h")).1 x hx with
    ⟨tree, hlayout⟩
  rcases (layout_of_expand cycleTree {} (Place.toPath ["a.h"]) strangeBytes).2 hnowhere with
    ⟨y, hy, hsource, -⟩
  exact ⟨⟨x, tree, hx, hlayout⟩, y, hy, hsource⟩

/-- The tree of two files that include each other, from the first. -/
def cycleIncludes : IncludeTree :=
  .file (includeOf "b.h") (Place.toPath ["b.h"]) (includeOf "a.h")
    (.again (includeOf "a.h") .nil) .nil

/-- Each of the two files has one line, which leads to the other. -/
theorem line_cycleTree {name text : String} (h : (name, text) ∈ cycleFiles) :
    [includeOf text] = physicalLines (includeOf text) ∧
      (IncludeDirective.ofLine? (includeOf text)).bind
        (resolve? cycleTree {} (Place.toPath [name])) = some (Place.toPath [text]) := by
  have hlines : ∀ l ∈ cycleFiles, [includeOf l.2] = physicalLines (includeOf l.2) ∧
      IncludeDirective.ofLine? (includeOf l.2) = some { quoted := true, name := l.2 } := by
    decide +kernel
  refine ⟨(hlines _ h).1, ?_⟩
  calc
    (IncludeDirective.ofLine? (includeOf text)).bind (resolve? cycleTree {} (Place.toPath [name]))
        = (SearchPath.find? cycleTree {} (Place.toPath [name])
            { quoted := true, name := text }).map Place.toPath :=
          Expansion.target?_line (hlines _ h).2
    _ = some (Place.toPath [text]) := by rw [hasCycle_cycleTree.find? h, Option.map_some]

theorem follows_cycleIncludes :
    cycleIncludes.Follows cycleTree {} [Place.toPath ["a.h"]] (Place.toPath ["a.h"]) := by
  have hback : ("b.h", "a.h") ∈ cycleFiles := by decide
  have hnew : Expansion.isSeen [Place.toPath ["a.h"]] (Place.toPath ["b.h"]) = false := by decide
  have hknown : ∃ q ∈ [Place.toPath ["b.h"], Place.toPath ["a.h"]],
      (Place.toPath ["a.h"]).Same q := ⟨Place.toPath ["a.h"], by simp, .refl _⟩
  rcases line_cycleTree (by decide : ("a.h", "b.h") ∈ cycleFiles) with ⟨-, hleads⟩
  rcases line_cycleTree hback with ⟨hlines, hleads'⟩
  have hread := hasCycle_cycleTree.readFile hback
  rw [cycleIncludes]
  -- What the two texts are is of no matter from here on.
  generalize includeOf "a.h" = text at *
  generalize includeOf "b.h" = line at *
  exact .file hleads (fun q => not_same_of_isSeen_eq_false hnew) hread hlines
    (.again hleads' hknown (.nil _ _)) (.nil _ _)

/-- The second of two files that include each other is put in, and comes to nothing: what stands for
it does not end in a line feed. -/
theorem stretch_cycleTree : ∃ x tree bytes behind,
    expand cycleTree {} (Place.toPath ["a.h"]) (includeOf "b.h") = .ok x ∧
    x.dependencies = [Place.toPath ["b.h"]] ∧ tree.lines = physicalLines (includeOf "b.h") ∧
    tree.Follows cycleTree {} [Place.toPath ["a.h"]] (Place.toPath ["a.h"]) ∧
    x.source = tree.source ∧ Stretch (Place.toPath ["b.h"]) tree [] bytes behind ∧
    bytes.getLast? ≠ some 10 := by
  have hend : lineEnd (includeOf "a.h") = [] := by decide +kernel
  have hsource : cycleIncludes.source = [] := by
    simp [cycleIncludes, source, hend]
  have hlines := (line_cycleTree (by decide : ("a.h", "b.h") ∈ cycleFiles)).1
  rw [expand, ofTasks_cycleTree]
  refine ⟨_, cycleIncludes, _, _, rfl, rfl, hlines, follows_cycleIncludes, hsource.symm,
    .here _ _ _ _, ?_⟩
  rw [hend]
  intro hfeed
  cases hfeed

end SearchPath
end BuildTrace
