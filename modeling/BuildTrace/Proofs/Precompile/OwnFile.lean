import BuildTrace.Proofs.FileSystem.RealPath
import BuildTrace.Proofs.Precompile.Verdict

/-!
# OwnFile — a header that includes itself

Includes may lead back to the file they started from. A file that is put in is named by its path
without links, and the origin by whatever path it was given, so the origin is known again only if
the two are the same:

* `SearchPath.mem_found_iff` — which files are put in;
* `realPath_of_mem_targets` — they are named by their paths without links;
* `expand_ownFile` — no file is put in twice, and the file of the origin is put in if includes lead
  back to it and the origin was given by another path;
* `mem_dependencies_linkedTree` — a header given through a link is put into itself.
-/

namespace BuildTrace
namespace SearchPath

variable {fs : FileSystem} {s : SearchPath} {origin p : Path} {data text : List UInt8}
  {x : ExpandedHeader}

/-! ## Which files are put in -/

theorem mem_found_iff {found : List Path} (hcwd : fs.cwd.IsProper)
    (h : FirstVisits (s.includes fs) [origin] (s.targets fs origin data) found) :
    p ∈ found ↔ s.Reaches fs origin data p ∧ ¬ p.Same origin := by
  constructor
  · intro hp
    have hreaches := h.forall_found (fun _ hq hnew _ hr => reaches_of_mem_includes hq hnew hr)
      fun _ hq => reaches_of_mem_targets hq
    exact ⟨hreaches p hp, not_same_of_isSeen_eq_false (h.distinct.2 p hp) List.mem_cons_self⟩
  · rintro ⟨hp, hother⟩
    exact (mem_of_reaches hcwd h hp).resolve_left hother

theorem realPath_of_mem_targets (hfs : fs.WellPlaced) (h : p ∈ s.targets fs origin text) :
    fs.realPath p = .ok p := by
  rcases List.mem_filterMap.1 h with ⟨d, -, hd⟩
  rcases Option.bind_eq_some_iff.1 hd with ⟨named, -, hreal⟩
  -- A directive leads to the path without links of a name, which is its own.
  cases hnamed : fs.realPath named with
  | error cause => simp [hnamed, Except.toOption] at hreal
  | ok q =>
      simp only [hnamed, Except.toOption, Option.some.injEq] at hreal
      exact hreal ▸ hfs.realPath_realPath hnamed

/-- **Own files.** The files that are put in are named by their paths without links, and no two of
them are one file. The file of the origin is among them just if includes lead to its path without
links, and the origin was not given by that path. -/
theorem expand_ownFile (hfs : fs.WellPlaced) (hown : fs.realPath origin = .ok p)
    (hx : s.expand fs origin data = .ok x) :
    (∀ q ∈ x.dependencies, fs.realPath q = .ok q) ∧
      (x.dependencies.Pairwise fun q r => fs.realPath q ≠ fs.realPath r) ∧
      ((∃ q ∈ x.dependencies, fs.realPath q = fs.realPath origin) ↔
        s.Reaches fs origin data p ∧ ¬ p.Same origin) := by
  rcases of_expand_eq_ok hx with ⟨e, hwork, hdependencies, -⟩
  have hvisits := Expansion.visits_ofTasks _ _ _ hwork
  rw [Expansion.filterMap_target?_lines, ← hdependencies] at hvisits
  have hreal : ∀ q ∈ x.dependencies, fs.realPath q = .ok q :=
    forall_found_of_targets hvisits fun hq => realPath_of_mem_targets hfs hq
  refine ⟨hreal, ?_, ?_⟩
  · -- Paths without links tell files apart as they tell spellings apart.
    apply hvisits.distinct.1.imp_of_mem
    intro q r hq hr hother hsame
    rw [hreal q hq, hreal r hr, Except.ok.injEq] at hsame
    exact hother (hsame ▸ .refl q)
  · rw [← mem_found_iff hfs.cwd_isProper hvisits]
    constructor
    · rintro ⟨q, hq, hsame⟩
      rw [hreal q hq, hown, Except.ok.injEq] at hsame
      exact hsame ▸ hq
    · intro hp
      exact ⟨p, hp, (hreal p hp).trans hown.symm⟩

/-! ### A header with two paths -/

/-- The node of a header that includes itself. -/
def selfIncluding : Node :=
  ⟨.file (includeOf "a.h") false, 0⟩

/-- The header, in a directory that a link leads to. -/
def linkedTree : FileSystem :=
  { nodes := [(["v1"], ⟨.directory, 0⟩), (["v1", "a.h"], selfIncluding),
      (["inc"], ⟨.link ⟨"v1"⟩, 0⟩)] }

/-- The two paths of the header, through the link and without it. -/
def headerPaths : List Path :=
  [⟨"/inc/a.h"⟩, Place.toPath ["v1", "a.h"]]

theorem wellPlaced_linkedTree : linkedTree.WellPlaced := by
  decide +kernel

/-- Both paths lead to the header. -/
theorem follow_linkedTree (hp : p ∈ headerPaths) : linkedTree.follow p = .ok ["v1", "a.h"] := by
  have hstraight : linkedTree.isStraight [] ["v1", "a.h"] = true := by decide +kernel
  simp only [headerPaths, List.mem_cons, List.not_mem_nil, or_false] at hp
  rcases hp with rfl | rfl
  · have hstart : FileSystem.startOf [] ⟨"/inc/a.h"⟩ = ([], ["inc".toList, "a.h".toList]) := by
      decide +kernel
    have hlink : linkedTree.node? ([] ++ ["inc"]) = some ⟨.link ⟨"v1"⟩, 0⟩ := by decide +kernel
    have htarget : FileSystem.startOf [] ⟨"v1"⟩ = ([], ["v1".toList]) := by decide +kernel
    -- The way through the link goes on behind its target.
    calc
      linkedTree.follow ⟨"/inc/a.h"⟩
          = linkedTree.walk (39 + 1) [] ["inc".toList, "a.h".toList] := by
            rw [FileSystem.follow, if_neg (by decide +kernel), if_neg (by decide +kernel)]
            exact congrArg (fun way => linkedTree.walk 40 way.1 way.2) hstart
      _ = linkedTree.walk 39 [] ["v1".toList, "a.h".toList] := by
            rw [FileSystem.walk_link (by decide) (by decide +kernel) (by decide +kernel) hlink,
              htarget]
            rfl
      _ = .ok ["v1", "a.h"] :=
            FileSystem.walk_of_isStraight 39 _ [] (by decide +kernel) hstraight
  · exact FileSystem.follow_toPath (by decide +kernel) hstraight (by decide +kernel)

theorem find_linkedTree (hp : p ∈ headerPaths) :
    linkedTree.find p = .ok (["v1", "a.h"], selfIncluding) := by
  have hall : ∀ q ∈ headerPaths,
      ¬ FileSystem.pathLimit < (Text.bytes q.spelling).length := by decide +kernel
  have hnode : linkedTree.node? ["v1", "a.h"] = some selfIncluding := by decide +kernel
  rw [FileSystem.find, if_neg (by simp [hall p hp]), FileSystem.locate, follow_linkedTree hp]
  simp only [bind, Except.bind, hnode]

theorem realPath_linkedTree (hp : p ∈ headerPaths) :
    linkedTree.realPath p = .ok (Place.toPath ["v1", "a.h"]) := by
  rw [FileSystem.realPath, FileSystem.find_eq_locate (find_linkedTree hp)]
  rfl

/-- Seen from either path, the header includes itself. -/
theorem find?_linkedTree (hp : p ∈ headerPaths) :
    SearchPath.find? linkedTree {} p { quoted := true, name := "a.h" } = some ["v1", "a.h"] := by
  have hall : ∀ q ∈ headerPaths,
      candidates {} q { quoted := true, name := "a.h" } = [q] := by
    decide +kernel
  have hplace : linkedTree.filePlace? p = some ["v1", "a.h"] := by
    simp only [FileSystem.filePlace?, find_linkedTree hp]
    rfl
  exact find?_of_candidates (hall p hp) hplace

theorem read_linkedTree (hp : p ∈ headerPaths) :
    FileStamp.read linkedTree .mtime p = .ok (includeOf "a.h", .modified 0) := by
  have hstamp : FileStamp.ofTime 0 = .modified 0 := by decide
  simp only [FileStamp.read, FileStamp.now, FileSystem.modified, FileSystem.readFile,
    find_linkedTree hp, selfIncluding, Except.map, bind, Except.bind, hstamp]
  rfl

/-- The header is put in if it is not known by the path it was given. -/
theorem ofTasks_linkedTree (hp : p ∈ headerPaths) :
    Expansion.ofTasks linkedTree {} [p] ((physicalLines (includeOf "a.h")).map (.line p)) =
      if Expansion.isSeen [p] (Place.toPath ["v1", "a.h"]) then .ok {}
      else .ok { inlined := [(Place.toPath ["v1", "a.h"], .modified 0)] } := by
  have hreal : Place.toPath ["v1", "a.h"] ∈ headerPaths := by decide +kernel
  have hline : physicalLines (includeOf "a.h") = [includeOf "a.h"] := by decide +kernel
  have hdirective : IncludeDirective.ofLine? (includeOf "a.h") =
      some { quoted := true, name := "a.h" } := by decide +kernel
  have htasks : Expansion.tasksOf (Place.toPath ["v1", "a.h"]) (includeOf "a.h") =
      [.line (Place.toPath ["v1", "a.h"]) (includeOf "a.h")] := by decide +kernel
  have hseen : Expansion.isSeen [Place.toPath ["v1", "a.h"], p] (Place.toPath ["v1", "a.h"]) :=
    isSeen_of_mem List.mem_cons_self
  rw [hline, List.map_cons, List.map_nil,
    Expansion.ofTasks_of_find? hdirective (find?_linkedTree hp), read_linkedTree hreal]
  split
  · rw [Expansion.ofTasks]
  · simp only
    rw [htasks, List.append_nil, Expansion.ofTasks_of_find? hdirective (find?_linkedTree hreal),
      if_pos hseen, Expansion.ofTasks]
    rfl

/-- Given by its path without links, it is not put into itself. -/
theorem expand_ownFile_linkedTree :
    linkedTree.WellPlaced ∧
      linkedTree.realPath (Place.toPath ["v1", "a.h"]) = .ok (Place.toPath ["v1", "a.h"]) ∧
      ∃ x, expand linkedTree {} (Place.toPath ["v1", "a.h"]) (includeOf "a.h") = .ok x ∧
        ∀ q ∈ x.dependencies,
          linkedTree.realPath q ≠ linkedTree.realPath (Place.toPath ["v1", "a.h"]) := by
  have hreal := realPath_linkedTree (show Place.toPath ["v1", "a.h"] ∈ headerPaths by decide +kernel)
  have hwork := ofTasks_linkedTree (show Place.toPath ["v1", "a.h"] ∈ headerPaths by decide +kernel)
  rw [if_pos (isSeen_of_mem List.mem_cons_self)] at hwork
  refine ⟨wellPlaced_linkedTree, hreal, _, by rw [expand, hwork]; rfl, ?_⟩
  intro q hq hsame
  rcases expand_ownFile wellPlaced_linkedTree hreal (by rw [expand, hwork]; rfl) with
    ⟨-, -, hown⟩
  exact (hown.1 ⟨q, hq, hsame⟩).2 (.refl _)

/-- Given by the path through the link, it is. -/
theorem mem_dependencies_linkedTree :
    ∃ x, expand linkedTree {} ⟨"/inc/a.h"⟩ (includeOf "a.h") = .ok x ∧
      linkedTree.realPath ⟨"/inc/a.h"⟩ = .ok (Place.toPath ["v1", "a.h"]) ∧
      Place.toPath ["v1", "a.h"] ∈ x.dependencies := by
  have hwork := ofTasks_linkedTree (show ⟨"/inc/a.h"⟩ ∈ headerPaths from List.mem_cons_self)
  rw [if_neg (by decide +kernel)] at hwork
  exact ⟨_, by rw [expand, hwork]; rfl, realPath_linkedTree List.mem_cons_self, by decide +kernel⟩

end SearchPath
end BuildTrace
