import BuildTrace.Proofs.Precompile.IncludeGraph
import BuildTrace.Proofs.Precompile.Stamps
import BuildTrace.Proofs.Precompile.Visits

/-!
# Reach — the files that an expansion has in it

The expansion of a text works off a list of tasks. What it comes to is said here by the include
graph of the files:

* `Expansion.ofTasks_induction` — proofs about the work, task by task;
* `Expansion.visits_ofTasks`, `fails_ofTasks` — the work meets files in depth, each once, and fails
  only on a file it has met;
* `SearchPath.expand_reaches` — an expansion has in it what can be reached, or cannot be made.
-/

namespace BuildTrace

/-! ## The work, task by task -/

namespace Expansion

variable {fs : FileSystem} {s : SearchPath}

/-- Where a task leads. -/
def Task.target? (fs : FileSystem) (s : SearchPath) : Task → Option Path
  | .line origin bytes => (IncludeDirective.ofLine? bytes).bind (s.resolve? fs origin)
  | .endLine => none

/-- The lines of a file lead where its directives do. -/
theorem filterMap_target?_lines (origin : Path) (data : List UInt8) :
    ((physicalLines data).map (Task.line origin)).filterMap (Task.target? fs s) =
      s.targets fs origin data := by
  rw [List.filterMap_map, SearchPath.targets, List.filterMap_filterMap]
  rfl

theorem filterMap_target?_tasksOf (origin : Path) (data : List UInt8) :
    (tasksOf origin data).filterMap (Task.target? fs s) = s.targets fs origin data := by
  have hend : (if data.getLast? = some 10 then [] else [Task.endLine]).filterMap
      (Task.target? fs s) = [] := by
    split
    · rfl
    · rfl
  rw [tasksOf, List.filterMap_append, hend, List.append_nil, filterMap_target?_lines]

theorem target?_line {origin : Path} {bytes : List UInt8} {d : IncludeDirective}
    (hd : IncludeDirective.ofLine? bytes = some d) :
    Task.target? fs s (.line origin bytes) = (s.find? fs origin d).map Place.toPath := by
  rw [Task.target?, hd, SearchPath.map_toPath_find?]
  rfl

/-- What a directive does that leads to a file. -/
theorem ofTasks_of_find? {seen : List Path} {origin : Path} {bytes : List UInt8}
    {d : IncludeDirective} {place : Place} (hd : IncludeDirective.ofLine? bytes = some d)
    (hfind : s.find? fs origin d = some place) (rest : List Task) :
    ofTasks fs s seen (.line origin bytes :: rest) =
      if isSeen seen place.toPath then ofTasks fs s seen rest
      else
        match FileStamp.read fs s.kind place.toPath with
        | .error cause => .error { path := place.toPath, cause := cause }
        | .ok (data, stamp) =>
          (ofTasks fs s (place.toPath :: seen) (tasksOf place.toPath data ++ rest)).map
            (withFile (place.toPath, stamp)) := by
  rw [ofTasks, hd]
  simp only
  split
  · next hnone => simp [hfind] at hnone
  · next place' hplace' =>
      rw [hfind] at hplace'
      cases hplace'
      rfl

/-- What a directive does that leads nowhere. -/
theorem ofTasks_of_find?_eq_none {seen : List Path} {origin : Path} {bytes : List UInt8}
    {d : IncludeDirective} (hd : IncludeDirective.ofLine? bytes = some d)
    (hfind : s.find? fs origin d = none) (rest : List Task) :
    ofTasks fs s seen (.line origin bytes :: rest) =
      (ofTasks fs s seen rest).map (withSource bytes) := by
  rw [ofTasks, hd]
  simp only
  split
  · rfl
  · next place hplace => simp [hfind] at hplace

/-- What a task leaves behind that leads nowhere. -/
def Task.bytes : Task → List UInt8
  | .line _ bytes => bytes
  | .endLine => [10]

theorem ofTasks_of_target?_eq_none {seen : List Path} {task : Task}
    (h : task.target? fs s = none) (rest : List Task) :
    ofTasks fs s seen (task :: rest) = (ofTasks fs s seen rest).map (withSource task.bytes) := by
  cases task with
  | endLine =>
      rw [ofTasks]
      rfl
  | line origin bytes =>
      cases hd : IncludeDirective.ofLine? bytes with
      | none =>
          rw [ofTasks, hd]
          rfl
      | some d =>
          rw [target?_line hd, Option.map_eq_none_iff] at h
          exact ofTasks_of_find?_eq_none hd h rest

theorem ofTasks_of_target? {seen : List Path} {task : Task} {p : Path}
    (h : task.target? fs s = some p) (rest : List Task) :
    ofTasks fs s seen (task :: rest) =
      if isSeen seen p then ofTasks fs s seen rest
      else
        match FileStamp.read fs s.kind p with
        | .error cause => .error { path := p, cause := cause }
        | .ok (data, stamp) =>
          (ofTasks fs s (p :: seen) (tasksOf p data ++ rest)).map (withFile (p, stamp)) := by
  cases task with
  | endLine => cases h
  | line origin bytes =>
      cases hd : IncludeDirective.ofLine? bytes with
      | none => simp [Task.target?, hd] at h
      | some d =>
          rw [target?_line hd, Option.map_eq_some_iff] at h
          rcases h with ⟨place, hfind, rfl⟩
          exact ofTasks_of_find? hd hfind rest

/-- Every task is one of these: it leads nowhere and its bytes are kept, it leads to a file that is
known, or to a new one, which is read and has its own tasks done first. Proofs about the work follow
them. -/
theorem ofTasks_induction {motive : List Path → List Task → Except ReadError Expansion → Prop}
    (nil : ∀ seen, motive seen [] (.ok {}))
    (kept : ∀ seen task rest r, task.target? fs s = none → motive seen rest r →
      motive seen (task :: rest) (r.map (withSource task.bytes)))
    (again : ∀ seen task rest p r, task.target? fs s = some p → isSeen seen p = true →
      motive seen rest r → motive seen (task :: rest) r)
    (unread : ∀ seen task rest p cause, task.target? fs s = some p → isSeen seen p = false →
      FileStamp.read fs s.kind p = .error cause →
        motive seen (task :: rest) (.error { path := p, cause := cause }))
    (enter : ∀ seen task rest p data stamp r, task.target? fs s = some p → isSeen seen p = false →
      FileStamp.read fs s.kind p = .ok (data, stamp) →
        motive (p :: seen) (tasksOf p data ++ rest) r →
          motive seen (task :: rest) (r.map (withFile (p, stamp)))) :
    ∀ seen tasks, motive seen tasks (ofTasks fs s seen tasks) := by
  intro seen tasks
  induction seen, tasks using ofTasks.induct fs s with
  | case1 seen =>
      -- Nothing is left.
      rw [ofTasks]
      exact nil seen
  | case2 seen rest ih =>
      -- The last line of a file is ended.
      rw [ofTasks]
      exact kept seen .endLine rest _ rfl ih
  | case3 seen origin bytes rest hd ih =>
      -- A line that is no directive.
      have hnone : Task.target? fs s (.line origin bytes) = none := by rw [Task.target?, hd]; rfl
      rw [ofTasks, hd]
      exact kept seen _ rest _ hnone ih
  | case4 seen origin bytes rest d hd hfind ih =>
      -- A directive whose file is not found.
      have hnone : Task.target? fs s (.line origin bytes) = none := by
        rw [target?_line hd, hfind]
        rfl
      rw [ofTasks_of_find?_eq_none hd hfind]
      exact kept seen _ rest _ hnone ih
  | case5 seen origin bytes rest d hd place hfind hseen ih =>
      -- A directive that leads to a known file; in the last two cases the file is new.
      have hsome : Task.target? fs s (.line origin bytes) = some place.toPath := by
        rw [target?_line hd, hfind]
        rfl
      rw [ofTasks_of_find? hd hfind, if_pos hseen]
      exact again seen _ rest _ _ hsome hseen ih
  | case6 seen origin bytes rest d hd place hfind hnew cause hread =>
      have hsome : Task.target? fs s (.line origin bytes) = some place.toPath := by
        rw [target?_line hd, hfind]
        rfl
      rw [ofTasks_of_find? hd hfind, if_neg hnew, hread]
      exact unread seen _ rest _ cause hsome (Bool.eq_false_iff.2 hnew) hread
  | case7 seen origin bytes rest d hd place hfind hnew data stamp hread _ ih =>
      have hsome : Task.target? fs s (.line origin bytes) = some place.toPath := by
        rw [target?_line hd, hfind]
        rfl
      rw [ofTasks_of_find? hd hfind, if_neg hnew, hread]
      exact enter seen _ rest _ data stamp _ hsome (Bool.eq_false_iff.2 hnew) hread ih

/-! ### What the work meets -/

theorem readFile_of_read {kind : StampKind} {p : Path} {data : List UInt8} {stamp : FileStamp}
    (h : FileStamp.read fs kind p = .ok (data, stamp)) : fs.readFile p = .ok data := by
  unfold FileStamp.read at h
  cases hnow : FileStamp.now fs kind p with
  | error e =>
      rw [hnow] at h
      cases h
  | ok stamp' =>
      cases hread : fs.readFile p with
      | error e =>
          rw [hnow, hread] at h
          cases h
      | ok data' =>
          rw [hnow, hread] at h
          cases h
          rfl

/-- The work meets files as going through the includes in depth does. -/
theorem visits_ofTasks : ∀ (seen : List Path) (tasks : List Task) (e : Expansion),
    ofTasks fs s seen tasks = .ok e →
      FirstVisits (s.includes fs) seen (tasks.filterMap (Task.target? fs s)) e.dependencies := by
  intro seen tasks
  refine @ofTasks_induction fs s (fun seen tasks r => ∀ e, r = .ok e → FirstVisits (s.includes fs)
    seen (tasks.filterMap (Task.target? fs s)) e.dependencies)
    ?nil ?kept ?again ?unread ?enter seen tasks
  case nil =>
    intro seen e he
    cases he
    exact .done seen
  case kept =>
    intro seen task rest r hnone ih e he
    rw [List.filterMap_cons_none hnone]
    cases r with
    | error f => cases he
    | ok e' =>
        cases he
        exact ih e' rfl
  case again =>
    intro seen task rest p r hsome hseen ih e he
    rw [List.filterMap_cons_some hsome]
    exact .again hseen (ih e he)
  case unread =>
    intro seen task rest p cause _ _ _ e he
    cases he
  case enter =>
    intro seen task rest p data stamp r hsome hnew hread ih e he
    rw [List.filterMap_cons_some hsome]
    cases r with
    | error f => cases he
    | ok e' =>
        cases he
        have hrest := ih e' rfl
        rw [List.filterMap_append, filterMap_target?_tasksOf,
          ← SearchPath.includes_of_readFile (readFile_of_read hread)] at hrest
        -- The tasks of the file and those behind it are gone through one after the other.
        rcases hrest.split with ⟨inner, outer, hfound, hinner, houter⟩
        have hdependencies : (withFile (p, stamp) e').dependencies = p :: inner ++ outer := by
          rw [List.cons_append, ← hfound]
          rfl
        rw [hdependencies]
        exact .enter hnew hinner houter

/-- The work fails only on a new file it has met and that cannot be read. -/
theorem fails_ofTasks {P : Path → Prop} : ∀ (seen : List Path) (tasks : List Task) (f : ReadError),
    ofTasks fs s seen tasks = .error f →
      (∀ p, P p → isSeen seen p = false → ∀ q ∈ s.includes fs p, P q) →
      (∀ p ∈ tasks.filterMap (Task.target? fs s), P p) →
        P f.path ∧ isSeen seen f.path = false ∧
          FileStamp.read fs s.kind f.path = .error f.cause := by
  intro seen tasks
  refine @ofTasks_induction fs s (fun seen tasks r => ∀ f, r = .error f →
    (∀ p, P p → isSeen seen p = false → ∀ q ∈ s.includes fs p, P q) →
    (∀ p ∈ tasks.filterMap (Task.target? fs s), P p) →
      P f.path ∧ isSeen seen f.path = false ∧ FileStamp.read fs s.kind f.path = .error f.cause)
    ?nil ?kept ?again ?unread ?enter seen tasks
  case nil =>
    intro seen f hf
    cases hf
  case kept =>
    intro seen task rest r hnone ih f hf hstep htodo
    rw [List.filterMap_cons_none hnone] at htodo
    cases r with
    | error f' =>
        cases hf
        exact ih f rfl hstep htodo
    | ok e => cases hf
  case again =>
    intro seen task rest p r hsome _ ih f hf hstep htodo
    rw [List.filterMap_cons_some hsome] at htodo
    exact ih f hf hstep fun q hq => htodo q (List.mem_cons_of_mem p hq)
  case unread =>
    -- The file that cannot be read is where this task leads.
    intro seen task rest p cause hsome hnew hread f hf _ htodo
    cases hf
    rw [List.filterMap_cons_some hsome] at htodo
    exact ⟨htodo p List.mem_cons_self, hnew, hread⟩
  case enter =>
    intro seen task rest p data stamp r hsome hnew hread ih f hf hstep htodo
    rw [List.filterMap_cons_some hsome] at htodo
    cases r with
    | ok e => cases hf
    | error f' =>
        cases hf
        -- The work goes on with the tasks of the file, which lead where it includes.
        have hp : P p := htodo p List.mem_cons_self
        have hsub : seen ⊆ p :: seen := List.subset_cons_self p seen
        have hstep' : ∀ q, P q → isSeen (p :: seen) q = false → ∀ r ∈ s.includes fs q, P r :=
          fun q hq hnew' => hstep q hq (isSeen_eq_false_of_subset hsub hnew')
        have htodo' : ∀ q ∈ (tasksOf p data ++ rest).filterMap (Task.target? fs s), P q := by
          intro q hq
          rw [List.filterMap_append, filterMap_target?_tasksOf,
            ← SearchPath.includes_of_readFile (readFile_of_read hread)] at hq
          rcases List.mem_append.1 hq with hq | hq
          · exact hstep p hp hnew q hq
          · exact htodo q (List.mem_cons_of_mem p hq)
        rcases ih f rfl hstep' htodo' with ⟨hmet, hunseen, hunread⟩
        exact ⟨hmet, isSeen_eq_false_of_subset hsub hunseen, hunread⟩

end Expansion

/-! ## What an expansion has in it -/

namespace SearchPath

variable {fs : FileSystem} {s : SearchPath} {origin : Path} {data : List UInt8}

/-- The expansion has in it what can be reached: each file once, in the order in which they are
first met, and its table has a key for each of them, and one for the origin if that has a stamp. -/
structure Inlines (fs : FileSystem) (s : SearchPath) (origin : Path) (data : List UInt8)
    (x : ExpandedHeader) : Prop where
  order : ∀ found,
    FirstVisits (s.includes fs) [origin] (s.targets fs origin data) found ↔ found = x.dependencies
  distinct : x.dependencies.Pairwise fun p q => ¬ p.Same q
  reached : ∀ p, p ∈ x.dependencies ↔ s.Reaches fs origin data p ∧ ¬ p.Same origin
  keys : (x.stamps.entries.map Prod.fst).Perm
    ((if (FileStamp.now fs s.kind origin).isOk then [origin] else []) ++ x.dependencies)

/-- There is a regular file that can be reached, and cannot be read. -/
structure FailsOn (fs : FileSystem) (s : SearchPath) (origin : Path) (data : List UInt8)
    (f : ReadError) : Prop where
  reached : s.Reaches fs origin data f.path
  other : ¬ f.path.Same origin
  present : IsRegular fs f.path
  unread : FileStamp.read fs s.kind f.path = .error f.cause

theorem reaches_of_mem_targets {p : Path} (h : p ∈ s.targets fs origin data) :
    s.Reaches fs origin data p :=
  .step .origin (Or.inl ⟨rfl, rfl⟩) h

theorem reaches_of_mem_includes {p q : Path} (hp : s.Reaches fs origin data p)
    (hnew : Expansion.isSeen [origin] p = false) (h : q ∈ s.includes fs p) :
    s.Reaches fs origin data q := by
  rcases of_mem_includes h with ⟨text, hread, hq⟩
  have hother : ¬ p.Same origin := not_same_of_isSeen_eq_false hnew List.mem_cons_self
  exact .step hp (Or.inr ⟨hother, hread⟩) hq

/-- What is met has every property of the files that directives lead to. -/
theorem forall_found_of_targets {P : Path → Prop} {seen found : List Path}
    (h : FirstVisits (s.includes fs) seen (s.targets fs origin data) found)
    (htargets : ∀ {q text p}, p ∈ s.targets fs q text → P p) : ∀ p ∈ found, P p := by
  refine h.forall_found ?_ fun p hp => htargets hp
  intro p _ _ q hq
  rcases of_mem_includes hq with ⟨text, -, hq⟩
  exact htargets hq

/-- Nothing that can be reached is missed. -/
theorem mem_of_reaches {found : List Path} (hcwd : fs.cwd.IsProper)
    (h : FirstVisits (s.includes fs) [origin] (s.targets fs origin data) found) {p : Path}
    (hp : s.Reaches fs origin data p) : p.Same origin ∨ p ∈ found := by
  -- What is met is named by its one path without links, so `Same` is equality there.
  have hregular : ∀ q ∈ found, IsRegular fs q :=
    forall_found_of_targets h fun hq => isRegular_of_mem_targets hcwd hq
  -- Spelled out, a file that is known is the origin or one of those met.
  have hknown : ∀ {text q r}, r ∈ s.targets fs q text →
      Expansion.isSeen (found ++ [origin]) r = true → r.Same origin ∨ r ∈ found := by
    intro text q r hr hseen
    rcases isSeen_iff.1 hseen with ⟨t, ht, hsame⟩
    rcases List.mem_append.1 ht with ht | ht
    · rw [(isRegular_of_mem_targets hcwd hr).eq_of_same (hregular t ht) hsame]
      exact Or.inr ht
    · rw [List.mem_singleton.1 ht] at hsame
      exact Or.inl hsame
  rcases h.closed with ⟨htargets, hincludes⟩
  -- Along the includes: the origin and every file met have all they include known in the end.
  induction hp with
  | origin => exact Or.inl (.refl origin)
  | @step p q text _ hsays hq ih =>
      rcases hsays with ⟨rfl, rfl⟩ | ⟨hother, hread⟩
      · exact hknown hq (htargets q hq)
      · rcases ih with hsame | hmem
        · exact absurd hsame hother
        · rw [← includes_of_readFile hread] at hq
          rcases of_mem_includes hq with ⟨text', -, hq'⟩
          exact hknown hq' (hincludes p hmem q hq)

/-- The entries of a table made of the stamps of different files. -/
theorem entries_insertAll {inlined : List (Path × FileStamp)}
    (hdistinct : (inlined.map Prod.fst).Pairwise fun p q => ¬ p.Same q)
    (hother : ∀ p ∈ inlined.map Prod.fst, ¬ p.Same origin) (own : Except SystemError FileStamp) :
    (StampTable.insertAll {} ((match own with
        | .ok stamp => [(origin, stamp)]
        | .error _ => []) ++ inlined)).entries.Perm
      ((match own with
        | .ok stamp => [(origin, stamp)]
        | .error _ => []) ++ inlined) := by
  have hinlined : inlined.Pairwise fun e e' => ¬ e.1.Same e'.1 := List.pairwise_map.1 hdistinct
  cases own with
  | error e => exact StampTable.insertAll_perm inlined {} hinlined
  | ok stamp =>
      have hall : ((origin, stamp) :: inlined).Pairwise fun e e' => ¬ e.1.Same e'.1 := by
        refine List.pairwise_cons.2 ⟨?_, hinlined⟩
        intro e he hsame
        exact hother e.1 (List.mem_map_of_mem he) hsame.symm
      exact StampTable.insertAll_perm _ {} hall

theorem keys_insertAll {inlined : List (Path × FileStamp)}
    (hdistinct : (inlined.map Prod.fst).Pairwise fun p q => ¬ p.Same q)
    (hother : ∀ p ∈ inlined.map Prod.fst, ¬ p.Same origin) (own : Except SystemError FileStamp) :
    ((StampTable.insertAll {} ((match own with
        | .ok stamp => [(origin, stamp)]
        | .error _ => []) ++ inlined)).entries.map Prod.fst).Perm
      ((if own.isOk then [origin] else []) ++ inlined.map Prod.fst) := by
  have hkeys := (entries_insertAll hdistinct hother own).map Prod.fst
  cases own with
  | error e => exact hkeys
  | ok stamp => exact hkeys

/-- **What an expansion comes to.** On every tree the work ends: with a text that has in it, each
once and in the order in which they are first met, all files that includes lead to from the origin,
and no others; or because one of these files is there and cannot be read. -/
theorem expand_reaches (hcwd : fs.cwd.IsProper) (s : SearchPath) (origin : Path)
    (data : List UInt8) :
    match s.expand fs origin data with
    | .ok x => Inlines fs s origin data x
    | .error f => FailsOn fs s origin data f := by
  have hlines := @Expansion.filterMap_target?_lines fs s origin data
  have hstep : ∀ p, s.Reaches fs origin data p → Expansion.isSeen [origin] p = false →
      ∀ q ∈ s.includes fs p, s.Reaches fs origin data q :=
    fun p hp hnew q hq => reaches_of_mem_includes hp hnew hq
  unfold expand
  -- The work ends in one of two ways; each has its own account above.
  cases hwork : Expansion.ofTasks fs s [origin]
      ((physicalLines data).map (Expansion.Task.line origin)) with
  | ok e =>
      have hvisits := Expansion.visits_ofTasks _ _ _ hwork
      rw [hlines] at hvisits
      rcases hvisits.distinct with ⟨hdistinct, hnew⟩
      have hother : ∀ p ∈ e.dependencies, ¬ p.Same origin := fun p hp =>
        not_same_of_isSeen_eq_false (hnew p hp) List.mem_cons_self
      refine ⟨?_, hdistinct, ?_, keys_insertAll hdistinct hother _⟩
      · intro found
        refine ⟨fun h => h.unique hvisits, ?_⟩
        rintro rfl
        exact hvisits
      · intro p
        refine ⟨fun hp => ⟨?_, hother p hp⟩, ?_⟩
        · exact hvisits.forall_found hstep (fun q hq => reaches_of_mem_targets hq) p hp
        · rintro ⟨hp, hne⟩
          rcases mem_of_reaches hcwd hvisits hp with hsame | hmem
          · exact absurd hsame hne
          · exact hmem
  | error f =>
      -- The property that passes from file to file: it can be reached, and is there.
      have hregular : ∀ p, s.Reaches fs origin data p ∧ IsRegular fs p →
          Expansion.isSeen [origin] p = false →
            ∀ q ∈ s.includes fs p, s.Reaches fs origin data q ∧ IsRegular fs q := by
        rintro p ⟨hp, -⟩ hnew q hq
        rcases of_mem_includes hq with ⟨text, -, hq'⟩
        exact ⟨hstep p hp hnew q hq, isRegular_of_mem_targets hcwd hq'⟩
      rcases Expansion.fails_ofTasks _ _ _ hwork hregular fun p hp => by
        rw [hlines] at hp
        exact ⟨reaches_of_mem_targets hp, isRegular_of_mem_targets hcwd hp⟩
        with ⟨⟨hreached, hpresent⟩, hnew, hunread⟩
      exact ⟨hreached, not_same_of_isSeen_eq_false hnew List.mem_cons_self, hpresent, hunread⟩

/-! ### Two files that include each other -/

/-- The text of a file that includes `name`. -/
def includeOf (name : String) : List UInt8 :=
  Text.bytes ("#include \"" ++ name ++ "\"\n")

/-- Two files, with what they include: each other. -/
def cycleFiles : List (String × String) :=
  [("a.h", "b.h"), ("b.h", "a.h")]

/-- The two files are in the tree. -/
def HasCycle (fs : FileSystem) : Prop :=
  ∀ l ∈ cycleFiles, fs.isStraight [] [l.1] = true ∧
    fs.node? [l.1] = some ⟨.file (includeOf l.2) false, 0⟩

namespace HasCycle

variable {fs : FileSystem} {kind : StampKind} {name text : String}

theorem find (hfs : HasCycle fs) (h : (name, text) ∈ cycleFiles) :
    fs.find (Place.toPath [name]) = .ok ([name], ⟨.file (includeOf text) false, 0⟩) := by
  have hall : ∀ l ∈ cycleFiles, Place.IsProper [l.1] ∧
      FileSystem.hasNul (Place.toPath [l.1]) = false ∧
      ¬ FileSystem.pathLimit < (Text.bytes (Place.toPath [l.1]).spelling).length := by
    decide +kernel
  rcases hall (name, text) h with ⟨hproper, hnul, hshort⟩
  rcases hfs (name, text) h with ⟨hstraight, hnode⟩
  rw [FileSystem.find, if_neg (by simp [hshort]),
    FileSystem.locate_toPath hproper hstraight hnul hnode]

/-- Each of the files includes the other. -/
theorem find? (hfs : HasCycle fs) (h : (name, text) ∈ cycleFiles) :
    SearchPath.find? fs { kind := kind } (Place.toPath [name])
      { quoted := true, name := text } = some [text] := by
  have hall : ∀ l ∈ cycleFiles, (l.2, l.1) ∈ cycleFiles ∧
      candidates {} (Place.toPath [l.1]) { quoted := true, name := l.2 } =
        [Place.toPath [l.2]] := by
    decide +kernel
  rcases hall (name, text) h with ⟨hback, hcandidates⟩
  have hplace : fs.filePlace? (Place.toPath [text]) = some [text] := by
    simp only [FileSystem.filePlace?, hfs.find hback]
  exact find?_of_candidates hcandidates hplace

theorem readFile (hfs : HasCycle fs) (h : (name, text) ∈ cycleFiles) :
    fs.readFile (Place.toPath [name]) = .ok (includeOf text) := by
  simp only [FileSystem.readFile, hfs.find h]
  rfl

/-- The second file includes the first, which is known by then. -/
theorem ofTasks {stamp : FileStamp} (hfs : HasCycle fs)
    (hread : FileStamp.read fs kind (Place.toPath ["b.h"]) = .ok (includeOf "a.h", stamp)) :
    Expansion.ofTasks fs { kind := kind } [Place.toPath ["a.h"]]
      ((physicalLines (includeOf "b.h")).map (.line (Place.toPath ["a.h"]))) =
        .ok { inlined := [(Place.toPath ["b.h"], stamp)] } := by
  have hlines : ∀ l ∈ cycleFiles, physicalLines (includeOf l.2) = [includeOf l.2] ∧
      IncludeDirective.ofLine? (includeOf l.2) = some { quoted := true, name := l.2 } ∧
      (includeOf l.2).getLast? = some 10 := by
    decide +kernel
  have hforth : ("a.h", "b.h") ∈ cycleFiles := by decide
  have hback : ("b.h", "a.h") ∈ cycleFiles := by decide
  rcases hlines _ hforth with ⟨hline, hdirective, -⟩
  rcases hlines _ hback with ⟨hline', hdirective', hend⟩
  have hnew : ¬ Expansion.isSeen [Place.toPath ["a.h"]] (Place.toPath ["b.h"]) := by decide
  have hseen : Expansion.isSeen [Place.toPath ["b.h"], Place.toPath ["a.h"]]
      (Place.toPath ["a.h"]) := by decide
  have htasks : Expansion.tasksOf (Place.toPath ["b.h"]) (includeOf "a.h") =
      [.line (Place.toPath ["b.h"]) (includeOf "a.h")] := by
    simp [Expansion.tasksOf, hline', hend]
  rw [hline, List.map_cons, List.map_nil, Expansion.ofTasks_of_find? hdirective
    (hfs.find? hforth), if_neg hnew, hread]
  simp only
  rw [htasks, List.append_nil, Expansion.ofTasks_of_find? hdirective' (hfs.find? hback),
    if_pos hseen, Expansion.ofTasks]
  rfl

end HasCycle

/-- The two files, and nothing else. -/
def cycleTree : FileSystem :=
  { nodes := [(["a.h"], ⟨.file (includeOf "b.h") false, 0⟩),
      (["b.h"], ⟨.file (includeOf "a.h") false, 0⟩)] }

theorem hasCycle_cycleTree : HasCycle cycleTree := by
  unfold HasCycle
  decide +kernel

theorem read_cycleTree {name text : String} (h : (name, text) ∈ cycleFiles) :
    FileStamp.read cycleTree .mtime (Place.toPath [name]) = .ok (includeOf text, .modified 0) := by
  have hstamp : FileStamp.ofTime 0 = .modified 0 := by decide
  simp only [FileStamp.read, FileStamp.now, FileSystem.modified, hasCycle_cycleTree.readFile h,
    hasCycle_cycleTree.find h, Except.map, bind, Except.bind, hstamp]
  rfl

theorem ofTasks_cycleTree :
    Expansion.ofTasks cycleTree {} [Place.toPath ["a.h"]]
      ((physicalLines (includeOf "b.h")).map (.line (Place.toPath ["a.h"]))) =
        .ok { inlined := [(Place.toPath ["b.h"], .modified 0)] } :=
  hasCycle_cycleTree.ofTasks (read_cycleTree (by decide))

theorem expand_cycleTree : cycleTree.cwd.IsProper ∧
    ∃ x, expand cycleTree {} (Place.toPath ["a.h"]) (includeOf "b.h") = .ok x ∧
      Inlines cycleTree {} (Place.toPath ["a.h"]) (includeOf "b.h") x ∧
      x.dependencies = [Place.toPath ["b.h"]] := by
  have hcwd : cycleTree.cwd.IsProper := nofun
  have hreaches := expand_reaches hcwd {} (Place.toPath ["a.h"]) (includeOf "b.h")
  cases hx : expand cycleTree {} (Place.toPath ["a.h"]) (includeOf "b.h") with
  | error f => simp [expand, ofTasks_cycleTree, Except.map] at hx
  | ok x =>
      rw [hx] at hreaches
      refine ⟨hcwd, x, rfl, hreaches, ?_⟩
      simp only [expand, ofTasks_cycleTree, Except.map, Except.ok.injEq] at hx
      rw [← hx]
      rfl

end SearchPath
end BuildTrace
