import BuildTrace.Precompile.Stamp
import BuildTrace.Precompile.Include

/-!
# Expand — header text with its includes in place

Every directive that leads to a file is replaced by the text of that file, the first time; a further
directive for the same file is dropped. A directive that leads nowhere stays as it is, and so does
everything else, conditionals included.

* `SearchPath` — where named files are looked for;
* `SearchPath.find?` — the file a directive leads to;
* `Expansion.ofTasks` — the text, and the files that went into it;
* `SearchPath.expand` — a text with its includes in place, as if it were the content of a given
  file.

The work that is left is a list of tasks: lines to be read, and files to be ended. A directive that
leads to a new file puts the lines of this file in front. The files not yet seen get fewer with each
of them, so the work comes to an end on every tree, cycles and all.
-/

namespace BuildTrace

/-- Where named files are looked for, and how their changes are noticed. -/
structure SearchPath where
  directories : List Path := []
  systemDirectories : List Path := []
  kind : StampKind := .mtime
deriving DecidableEq, Repr

/-- A file that could not be read. -/
structure ReadError where
  path : Path
  cause : SystemError
deriving DecidableEq, Repr

/-- The text of an error. -/
def ReadError.message (e : ReadError) : String :=
  "Failed to read " ++ e.path.spelling ++ ": " ++ e.cause.message

/-! ## Finding files -/

/-- The place of the regular file at the end of a path. -/
def FileSystem.filePlace? (fs : FileSystem) (p : Path) : Option Place :=
  match fs.find p with
  | .ok (place, ⟨.file .., _⟩) => some place
  | _ => none

namespace SearchPath

/-- The directories searched for a directive in the file `origin`: for a quoted name the one beside
it comes first. -/
def searched (s : SearchPath) (origin : Path) (d : IncludeDirective) : List Path :=
  (if d.quoted then origin.parent?.toList else []) ++ s.directories ++ s.systemDirectories

/-- The place of the file a directive leads to. -/
def find? (fs : FileSystem) (s : SearchPath) (origin : Path) (d : IncludeDirective) :
    Option Place :=
  (s.searched origin d).findSome? fun dir => fs.filePlace? (dir.join ⟨d.name⟩)

end SearchPath

/-! ## The expansion -/

/-- A text with its includes in place. -/
structure Expansion where
  source : List UInt8 := []
  /-- The files that were put in, in the order of their first directive, and their stamps. -/
  inlined : List (Path × FileStamp) := []
deriving DecidableEq, Repr

namespace Expansion

/-- The files that were put in. -/
def dependencies (e : Expansion) : List Path :=
  e.inlined.map Prod.fst

/-- The expansion with bytes in front. -/
def withSource (bs : List UInt8) (e : Expansion) : Expansion :=
  { e with source := bs ++ e.source }

/-- The expansion with a file in front. -/
def withFile (file : Path × FileStamp) (e : Expansion) : Expansion :=
  { e with inlined := file :: e.inlined }

/-- A piece of work. -/
inductive Task where
  /-- A line of the file `origin`. -/
  | line (origin : Path) (bytes : List UInt8)
  /-- The end of a file whose last line has no line feed. -/
  | endLine
deriving DecidableEq, Repr

/-- The work that a file makes. Its text ends in a line feed even if it has none itself. -/
def tasksOf (origin : Path) (data : List UInt8) : List Task :=
  (physicalLines data).map (Task.line origin) ++
    if data.getLast? = some 10 then [] else [.endLine]

/-- Whether a path is among those seen. -/
def isSeen (seen : List Path) (p : Path) : Bool :=
  seen.any fun q => decide (p.Same q)

/-- How many nodes have not been seen. -/
def unseen (fs : FileSystem) (seen : List Path) : Nat :=
  fs.nodes.countP fun n => !isSeen seen n.1.toPath

end Expansion

/-! ### Why the work ends -/

/-- The file at the end of a path is among the nodes. -/
theorem FileSystem.mem_of_filePlace? {fs : FileSystem} {p : Path} {place : Place}
    (h : fs.filePlace? p = some place) : ∃ n, (place, n) ∈ fs.nodes := by
  have key : ∀ n, fs.locate p = .ok (place, n) → fs.node? place = some n := by
    intro n hn
    unfold FileSystem.locate at hn
    cases hf : fs.follow p with
    | error e => simp [hf, bind, Except.bind] at hn
    | ok q =>
        simp only [hf, bind, Except.bind] at hn
        split at hn
        · exact absurd hn (by simp)
        · next m hm =>
            simp only [Except.ok.injEq, Prod.mk.injEq] at hn
            obtain ⟨rfl, rfl⟩ := hn
            exact hm
  unfold FileSystem.filePlace? FileSystem.find at h
  split at h
  · next q data x t hq =>
      simp only [Option.some.injEq] at h
      subst h
      split at hq
      · exact absurd hq (by simp)
      · have hn := key _ hq
        unfold FileSystem.node? at hn
        split at hn
        · exact absurd hn (by simp)
        · obtain ⟨before, behind, hl, -⟩ := List.lookup_eq_some_iff.1 hn
          exact ⟨_, hl ▸ List.mem_append_right _ List.mem_cons_self⟩
  · exact absurd h (by simp)

theorem SearchPath.mem_of_find? {fs : FileSystem} {s : SearchPath} {origin : Path}
    {d : IncludeDirective} {place : Place} (h : s.find? fs origin d = some place) :
    ∃ n, (place, n) ∈ fs.nodes := by
  obtain ⟨dir, -, hdir⟩ := List.exists_of_findSome?_eq_some h
  exact FileSystem.mem_of_filePlace? hdir

namespace Expansion

/-- Of two predicates that agree but for one member, the narrower one holds less often. -/
theorem countP_lt_of_mem {α : Type} {p q : α → Bool} {l : List α} {a : α}
    (imp : ∀ b ∈ l, p b → q b) (mem : a ∈ l) (hq : q a) (hp : ¬ p a) : l.countP p < l.countP q := by
  induction l with
  | nil => simp at mem
  | cons b l ih =>
      have imp' : ∀ c ∈ l, p c → q c := fun c hc => imp c (List.mem_cons_of_mem _ hc)
      rw [List.countP_cons, List.countP_cons]
      rcases List.mem_cons.1 mem with rfl | mem
      · have := List.countP_mono_left imp'
        simp [hp, hq]
        omega
      · have := ih imp' mem
        have := imp b List.mem_cons_self
        by_cases hb : p b
        · simp [hb, this hb]
          omega
        · simp [hb]
          omega

/-- Seeing a new file leaves fewer to be seen. -/
theorem unseen_cons_lt {fs : FileSystem} {seen : List Path} {place : Place} {n : Node}
    (mem : (place, n) ∈ fs.nodes) (new : isSeen seen place.toPath = false) :
    unseen fs (place.toPath :: seen) < unseen fs seen := by
  refine countP_lt_of_mem (fun m _ hm => ?_) mem ?_ ?_
  · simp only [isSeen, List.any_cons, Bool.not_or, Bool.and_eq_true] at hm
    exact hm.2
  · simp [new]
  · simp [isSeen, Path.Same.refl]

/-! ### The work -/

/-- Does the work that is left. -/
def ofTasks (fs : FileSystem) (s : SearchPath) (seen : List Path) (tasks : List Task) :
    Except ReadError Expansion :=
  match tasks with
  | [] => .ok {}
  | .endLine :: rest => (ofTasks fs s seen rest).map (withSource [10])
  | .line origin bytes :: rest =>
    match IncludeDirective.ofLine? bytes with
    | none => (ofTasks fs s seen rest).map (withSource bytes)
    | some d =>
      match h : s.find? fs origin d with
      | none => (ofTasks fs s seen rest).map (withSource bytes)
      | some place =>
        if hs : isSeen seen place.toPath then ofTasks fs s seen rest
        else
          match FileStamp.read fs s.kind place.toPath with
          | .error cause => .error { path := place.toPath, cause := cause }
          | .ok (data, stamp) =>
            have := unseen_cons_lt (SearchPath.mem_of_find? h).choose_spec
              (Bool.eq_false_iff.2 hs)
            (ofTasks fs s (place.toPath :: seen) (tasksOf place.toPath data ++ rest)).map
              (withFile (place.toPath, stamp))
termination_by (unseen fs seen, tasks.length)

end Expansion

/-- A header with its includes in place. -/
structure ExpandedHeader where
  source : List UInt8
  /-- The files that were put in, in the order of their first directive. -/
  dependencies : List Path
  /-- The stamps of these files and of the header itself, if it is a file. -/
  stamps : StampTable
deriving DecidableEq, Repr

/-- The text `data` with its includes in place, as if it were the content of the file `origin`. -/
def SearchPath.expand (fs : FileSystem) (s : SearchPath) (origin : Path) (data : List UInt8) :
    Except ReadError ExpandedHeader :=
  let own := match FileStamp.now fs s.kind origin with
    | .ok stamp => [(origin, stamp)]
    | .error _ => []
  (Expansion.ofTasks fs s [origin] ((physicalLines data).map (Expansion.Task.line origin))).map
    fun e =>
      { source := e.source
        dependencies := e.dependencies
        stamps := .insertAll {} (own ++ e.inlined) }

end BuildTrace
