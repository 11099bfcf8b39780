import BuildTrace.FileSystem.Basic
import BuildTrace.Proofs.Path.Segments

/-!
# Places — where paths lead

* `Place.IsProper` — a place whose names are file names, so that its spelling says it again;
* `Place.eq_of_same` — two such places are the same path only if they are one;
* `FileSystem.follow_isProper` — paths lead to proper places;
* `FileSystem.follow_toPath` — a place without links on the way is where its own path leads.
-/

namespace BuildTrace

/-! ## Proper places -/

/-- A place down from the root by file names alone. -/
def Place.IsProper (place : Place) : Prop :=
  ∀ name ∈ place, Path.IsFileName name

instance : DecidablePred Place.IsProper := fun place =>
  inferInstanceAs (Decidable (∀ name ∈ place, _))

namespace Place

variable {place place' : Place}

theorem components_toPath (h : place.IsProper) :
    place.toPath.components = .root :: place.map Component.name :=
  Path.components_ofNames h

/-- The spelling of a proper place stands for no other proper place. -/
theorem eq_of_same (h : place.IsProper) (h' : place'.IsProper)
    (hsame : place.toPath.Same place'.toPath) : place = place' := by
  -- Behind the root the components are the names themselves.
  have hnames : place.map Component.name = place'.map Component.name := by
    rw [Path.Same, components_toPath h, components_toPath h', List.cons.injEq] at hsame
    exact hsame.2
  exact List.map_injective_iff.2 (fun _ _ heq => Component.name.inj heq) hnames

end Place

/-! ## Where a path leads -/

namespace FileSystem

variable {fs : FileSystem} {p : Path} {place : Place}

/-- A path starts from a proper place, and its segments have no separators. -/
theorem startOf_isProper {here : Place} (hhere : here.IsProper) (p : Path) :
    (startOf here p).1.IsProper ∧ ∀ s ∈ (startOf here p).2, '/' ∉ s := by
  unfold startOf
  cases hsegments : Path.segmentsOf p.spelling.toList with
  | nil => exact ⟨hhere, nofun⟩
  | cons s ss =>
      have hall : ∀ t ∈ s :: ss, '/' ∉ t := fun t ht =>
        Path.not_mem_segmentsOf (hsegments ▸ ht)
      by_cases habsolute : p.isAbsolute
      · simp only [habsolute, if_true]
        exact ⟨nofun, fun t ht => hall t (List.mem_cons_of_mem s ht)⟩
      · simp only [habsolute, Bool.false_eq_true, if_false]
        exact ⟨hhere, hall⟩

theorem isProper_append {here : Place} {segment : List Char} (hhere : here.IsProper)
    (hone : '/' ∉ segment) (hword : ¬ (segment = [] ∨ segment = ['.']))
    (hup : segment ≠ ['.', '.']) : Place.IsProper (here ++ [String.ofList segment]) := by
  intro name hname
  rcases List.mem_append.1 hname with hname | hname
  · exact hhere name hname
  · rw [List.mem_singleton.1 hname]
    exact Path.isFileName_ofList hone hword hup

/-- Every step of a walk keeps to proper places: down by a file name, up, or along a link. -/
theorem walk_isProper : ∀ (links : Nat) (here : Place) (todo : List (List Char)),
    here.IsProper → (∀ s ∈ todo, '/' ∉ s) → fs.walk links here todo = .ok place →
      place.IsProper := by
  intro links here todo
  -- Along the walk: a name is added only where it is one, and `..` only takes names off.
  induction links, here, todo using FileSystem.walk.induct fs with
  | case1 links here =>
      -- The end of the way.
      intro hhere _ h
      rw [walk] at h
      cases h
      exact hhere
  | case2 links here segment rest hdir =>
      -- Only from a directory does a way go on.
      intro _ _ h
      rw [walk, if_pos hdir] at h
      cases h
  | case3 links here segment rest hdir hword ih =>
      -- An empty segment, or a dot, stays where it is.
      intro hhere htodo h
      rw [walk, if_neg hdir, if_pos hword] at h
      exact ih hhere (fun s hs => htodo s (List.mem_cons_of_mem _ hs)) h
  | case4 links here rest hdir hword ih =>
      -- Up by one name.
      intro hhere htodo h
      rw [walk, if_neg hdir, if_neg hword, if_pos rfl] at h
      exact ih (fun name hname => hhere name (List.dropLast_subset _ hname))
        (fun s hs => htodo s (List.mem_cons_of_mem _ hs)) h
  | case5 links here segment rest hdir hword hup hlong =>
      intro _ _ h
      rw [walk, if_neg hdir, if_neg hword, if_neg hup, if_pos hlong] at h
      cases h
  | case6 links here segment hdir hword hup hlong there hnode =>
      -- Nothing is there yet, which is fine for the last name.
      intro hhere htodo h
      rw [walk, if_neg hdir, if_neg hword, if_neg hup, if_neg hlong] at h
      simp only [there] at hnode
      simp only [hnode, if_true] at h
      cases h
      exact isProper_append hhere (htodo segment List.mem_cons_self) hword hup
  | case7 links here segment rest hdir hword hup hlong there hnode hrest =>
      intro _ _ h
      rw [walk, if_neg hdir, if_neg hword, if_neg hup, if_neg hlong] at h
      simp only [there] at hnode
      simp only [hnode, if_neg hrest] at h
      cases h
  | case8 here segment rest hdir hword hup hlong there node hnode target htarget =>
      -- Too many links.
      intro _ _ h
      rw [walk, if_neg hdir, if_neg hword, if_neg hup, if_neg hlong] at h
      simp only [there] at hnode
      simp only [hnode, htarget] at h
      cases h
  | case9 here segment rest hdir hword hup hlong there node hnode target htarget links start
      segments hstart ih =>
      -- Along a link: its target is a path of its own, and the rest of the way follows it.
      intro hhere htodo h
      rw [walk, if_neg hdir, if_neg hword, if_neg hup, if_neg hlong] at h
      simp only [there] at hnode
      simp only [hnode, htarget, hstart] at h
      have hlink := startOf_isProper hhere target
      rw [hstart] at hlink
      refine ih hlink.1 ?_ h
      intro s hs
      rcases List.mem_append.1 hs with hs | hs
      · exact hlink.2 s hs
      · exact htodo s (List.mem_cons_of_mem _ hs)
  | case10 links here segment rest hdir hword hup hlong there node hnode hlink ih =>
      -- Down by one name.
      intro hhere htodo h
      rw [walk, if_neg hdir, if_neg hword, if_neg hup, if_neg hlong] at h
      simp only [there] at hnode
      simp only [hnode] at h
      exact ih (isProper_append hhere (htodo segment List.mem_cons_self) hword hup)
        (fun s hs => htodo s (List.mem_cons_of_mem _ hs)) h

/-- From a proper working directory every path leads to a proper place. -/
theorem follow_isProper (hcwd : fs.cwd.IsProper) (h : fs.follow p = .ok place) :
    place.IsProper := by
  unfold follow at h
  split at h
  · cases h
  · split at h
    · cases h
    · have hstart := startOf_isProper hcwd p
      exact walk_isProper _ _ _ hstart.1 hstart.2 h

theorem find_eq_locate {found : Place × Node} (h : fs.find p = .ok found) :
    fs.locate p = .ok found := by
  unfold find at h
  split at h
  · cases h
  · exact h

theorem of_locate_eq_ok {node : Node} (h : fs.locate p = .ok (place, node)) :
    fs.follow p = .ok place ∧ fs.node? place = some node := by
  unfold locate at h
  cases hfollow : fs.follow p with
  | error e =>
      rw [hfollow] at h
      cases h
  | ok there =>
      rw [hfollow] at h
      simp only [bind, Except.bind] at h
      split at h
      · cases h
      · next n hn =>
          cases h
          exact ⟨rfl, hn⟩

/-! ## Straight ways -/

/-- Whether a node is at the place, and is no link. -/
def hasNoLink (fs : FileSystem) (place : Place) : Bool :=
  match fs.node? place with
  | none | some ⟨.link _, _⟩ => false
  | some _ => true

/-- Whether the way down from `here` by `names` leads through directories, and along no link. -/
def isStraight (fs : FileSystem) (here : Place) : List String → Bool
  | [] => true
  | name :: rest =>
    fs.isDirectoryAt here && decide ((Text.encode name.toList).length ≤ nameLimit) &&
      fs.hasNoLink (here ++ [name]) && isStraight fs (here ++ [name]) rest

theorem of_hasNoLink (h : fs.hasNoLink place) :
    ∃ node, fs.node? place = some node ∧ ∀ target, node.content ≠ .link target := by
  unfold hasNoLink at h
  split at h
  · cases h
  · cases h
  · next node hnot hnode =>
      refine ⟨node, hnode, ?_⟩
      intro target hlink
      exact hnot target node.modified (by rw [← hlink])

theorem walk_of_isStraight (links : Nat) : ∀ (names : List String) (here : Place),
    (∀ name ∈ names, Path.IsFileName name) → fs.isStraight here names →
      fs.walk links here (names.map String.toList) = .ok (here ++ names) := by
  intro names
  induction names with
  | nil =>
      intro here _ _
      rw [List.map_nil, walk, List.append_nil]
  | cons name rest ih =>
      intro here hnames hstraight
      have hname : Path.IsFileName name := hnames name List.mem_cons_self
      simp only [isStraight, Bool.and_eq_true, decide_eq_true_eq] at hstraight
      rcases hstraight with ⟨⟨⟨hdir, hshort⟩, hnode⟩, hrest⟩
      have hbelow := ih (here ++ [name]) (fun n hn => hnames n (List.mem_cons_of_mem name hn)) hrest
      -- A file name is none of the segments that the walk treats apart.
      rw [List.map_cons, walk, if_neg (by simp [hdir]), if_neg hname.not_silent,
        if_neg hname.toList_ne_up, if_neg (Nat.not_lt.2 hshort)]
      simp only [String.ofList_toList]
      rcases of_hasNoLink hnode with ⟨node, hfound, hlink⟩
      simp only [hfound]
      simpa using hbelow

/-- A straight way down from the root is the one path to where it leads. -/
theorem follow_toPath (hproper : place.IsProper) (hstraight : fs.isStraight [] place)
    (hnul : hasNul place.toPath = false) : fs.follow place.toPath = .ok place := by
  have hspelling : place.toPath.spelling.toList =
      '/' :: Path.joinSegments (place.map String.toList) := String.toList_ofList
  -- It begins with a separator, so the way starts from the root.
  have hsegments : startOf fs.cwd place.toPath =
      ([], Path.segmentsOf (Path.joinSegments (place.map String.toList))) := by
    simp [startOf, hspelling, Path.segmentsOf, Path.isAbsolute]
  unfold follow
  rw [hnul, if_neg Bool.false_ne_true, if_neg (by simp [hspelling]), hsegments]
  cases place with
  | nil => simp [Path.joinSegments, Path.segmentsOf, walk, isDirectoryAt, node?]
  | cons name rest =>
      have hone : ∀ s ∈ (name :: rest).map String.toList, '/' ∉ s := by
        intro s hs
        rcases List.mem_map.1 hs with ⟨n, hn, rfl⟩
        exact (hproper n hn).one
      rw [Path.segmentsOf_joinSegments (by simp) hone]
      exact walk_of_isStraight linkLimit _ [] hproper hstraight

theorem locate_toPath {node : Node} (hproper : place.IsProper) (hstraight : fs.isStraight [] place)
    (hnul : hasNul place.toPath = false) (hnode : fs.node? place = some node) :
    fs.locate place.toPath = .ok (place, node) := by
  simp only [locate, follow_toPath hproper hstraight hnul, bind, Except.bind, hnode]

theorem realPath_toPath {node : Node} (hproper : place.IsProper)
    (hstraight : fs.isStraight [] place) (hnul : hasNul place.toPath = false)
    (hnode : fs.node? place = some node) : fs.realPath place.toPath = .ok place.toPath := by
  rw [realPath, locate_toPath hproper hstraight hnul hnode]
  rfl

end FileSystem
end BuildTrace
