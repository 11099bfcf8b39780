import BuildTrace.Precompile.Expand
import BuildTrace.Proofs.FileSystem.Places

/-!
# IncludeGraph — where includes lead

The files of a tree and their include directives make a graph:

* `SearchPath.resolve?` — where a directive leads; `map_toPath_find?` says that this is the file
  that is searched for;
* `SearchPath.targets`, `includes` — where the directives of a text and of a file lead, in order;
* `SearchPath.Reaches` — the files that includes lead to from an origin;
* `IsRegular` — the files there are; two of them are the same only if they are spelled alike.
-/

namespace BuildTrace

/-! ## Regular files -/

namespace FileSystem

variable {fs : FileSystem} {p : Path} {place : Place}

/-- A regular file at the end of a path is found at its one path without links. -/
theorem of_filePlace?_eq_some (h : fs.filePlace? p = some place) :
    fs.isFile p ∧ fs.realPath p = .ok place.toPath ∧ fs.follow p = .ok place ∧
      ∃ data executable modified,
        fs.node? place = some { content := .file data executable, modified := modified } := by
  unfold filePlace? at h
  split at h
  · next there data executable modified hfind =>
      cases h
      have hlocate := find_eq_locate hfind
      rcases of_locate_eq_ok hlocate with ⟨hfollow, hnode⟩
      refine ⟨?_, ?_, hfollow, data, executable, modified, hnode⟩
      · simp only [isFile, hfind]
      · rw [realPath, hlocate]
        rfl
  · cases h

theorem isFile_eq_false_of_filePlace? (h : fs.filePlace? p = none) : fs.isFile p = false := by
  cases hfind : fs.find p with
  | error e => simp only [isFile, hfind]
  | ok found =>
      rcases found with ⟨place, content, modified⟩
      cases content with
      | file data executable => simp [filePlace?, hfind] at h
      | directory => simp only [isFile, hfind]
      | link target => simp only [isFile, hfind]
      | device => simp only [isFile, hfind]

end FileSystem

/-! ## The include graph -/

namespace SearchPath

/-- What a directive in the file `origin` may name, in the order in which it is tried: for a quoted
name what lies beside the file, then what lies in the directories searched, those of the system
last. -/
def candidates (s : SearchPath) (origin : Path) (d : IncludeDirective) : List Path :=
  let beside := if d.quoted then origin.parent?.toList else []
  (beside ++ s.directories ++ s.systemDirectories).map fun dir => dir.join ⟨d.name⟩

/-- Where a directive leads: to the first regular file it may name, by the one path without links
to it. -/
def resolve? (fs : FileSystem) (s : SearchPath) (origin : Path) (d : IncludeDirective) :
    Option Path :=
  ((s.candidates origin d).find? fs.isFile).bind fun found => (fs.realPath found).toOption

/-- Where the directives of a text lead that stands in the file `origin`, in order. -/
def targets (fs : FileSystem) (s : SearchPath) (origin : Path) (text : List UInt8) : List Path :=
  ((physicalLines text).filterMap IncludeDirective.ofLine?).filterMap (s.resolve? fs origin)

/-- Where the directives of a file lead; nowhere, if it cannot be read. -/
def includes (fs : FileSystem) (s : SearchPath) (p : Path) : List Path :=
  s.targets fs p ((fs.readFile p).toOption.getD [])

/-- What a file says, if `data` stands for the content of `origin`, which is known by the name it
was given. -/
def Says (fs : FileSystem) (origin : Path) (data : List UInt8) (p : Path) (text : List UInt8) :
    Prop :=
  (p = origin ∧ text = data) ∨ (¬ p.Same origin ∧ fs.readFile p = .ok text)

/-- A regular file is at the place that the path spells. -/
def IsRegular (fs : FileSystem) (p : Path) : Prop :=
  ∃ place data executable modified, Place.IsProper place ∧ p = place.toPath ∧
    fs.node? place = some { content := .file data executable, modified := modified }

/-- The files that includes lead to from `origin`. -/
inductive Reaches (fs : FileSystem) (s : SearchPath) (origin : Path) (data : List UInt8) :
    Path → Prop where
  | origin : Reaches fs s origin data origin
  | step {p q : Path} {text : List UInt8} :
      Reaches fs s origin data p → Says fs origin data p text → q ∈ s.targets fs p text →
        Reaches fs s origin data q

variable {fs : FileSystem} {s : SearchPath} {origin : Path} {d : IncludeDirective}

/-- The place that is searched for has the path a directive leads to. -/
theorem map_toPath_find? (fs : FileSystem) (s : SearchPath) (origin : Path) (d : IncludeDirective) :
    (s.find? fs origin d).map Place.toPath = s.resolve? fs origin d := by
  have hcandidates : s.candidates origin d =
      (s.searched origin d).map fun dir => dir.join ⟨d.name⟩ := rfl
  rw [find?, resolve?, hcandidates]
  -- Both go through the directories until one has the file; in it they agree.
  induction s.searched origin d with
  | nil => rfl
  | cons dir dirs ih =>
      rw [List.findSome?_cons, List.map_cons, List.find?_cons]
      cases hplace : fs.filePlace? (dir.join ⟨d.name⟩) with
      | none =>
          rw [FileSystem.isFile_eq_false_of_filePlace? hplace]
          exact ih
      | some place =>
          rcases FileSystem.of_filePlace?_eq_some hplace with ⟨hfile, hreal, -⟩
          simp [hfile, hreal, Except.toOption]

/-- A directive leads to the first file it may name, if that is there. -/
theorem find?_of_candidates {p : Path} {rest : List Path} {place : Place}
    (h : s.candidates origin d = p :: rest) (hp : fs.filePlace? p = some place) :
    s.find? fs origin d = some place := by
  calc
    s.find? fs origin d = (s.candidates origin d).findSome? fs.filePlace? := by
          rw [find?, candidates, List.findSome?_map]
          rfl
    _ = some place := by rw [h, List.findSome?_cons, hp]

/-- Directives lead to regular files. -/
theorem isRegular_of_resolve? {p : Path} (hcwd : fs.cwd.IsProper)
    (h : s.resolve? fs origin d = some p) : IsRegular fs p := by
  rw [← map_toPath_find?, Option.map_eq_some_iff] at h
  rcases h with ⟨place, hfind, rfl⟩
  rcases List.exists_of_findSome?_eq_some hfind with ⟨dir, -, hplace⟩
  rcases FileSystem.of_filePlace?_eq_some hplace with ⟨-, -, hfollow, data, executable, modified,
    hnode⟩
  exact ⟨place, data, executable, modified, FileSystem.follow_isProper hcwd hfollow, rfl, hnode⟩

theorem isRegular_of_mem_targets {text : List UInt8} {p : Path} (hcwd : fs.cwd.IsProper)
    (h : p ∈ s.targets fs origin text) : IsRegular fs p := by
  rcases List.mem_filterMap.1 h with ⟨d, -, hd⟩
  exact isRegular_of_resolve? hcwd hd

/-- Regular files are the same only if they are spelled alike. -/
theorem IsRegular.eq_of_same {p q : Path} (hp : IsRegular fs p) (hq : IsRegular fs q)
    (hsame : p.Same q) : p = q := by
  rcases hp with ⟨place, _, _, _, hproper, rfl, _⟩
  rcases hq with ⟨place', _, _, _, hproper', rfl, _⟩
  rw [Place.eq_of_same hproper hproper' hsame]

theorem of_mem_includes {p q : Path} (h : q ∈ s.includes fs p) :
    ∃ text, fs.readFile p = .ok text ∧ q ∈ s.targets fs p text := by
  unfold includes at h
  cases hread : fs.readFile p with
  | ok text =>
      rw [hread] at h
      exact ⟨text, rfl, h⟩
  | error e =>
      rw [hread] at h
      exact absurd h List.not_mem_nil

theorem includes_of_readFile {p : Path} {text : List UInt8} (h : fs.readFile p = .ok text) :
    s.includes fs p = s.targets fs p text := by
  rw [includes, h]
  rfl

end SearchPath
end BuildTrace
