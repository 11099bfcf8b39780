import BuildTrace.FileSystem.Basic

/-!
# Layout — where paths lead, whatever the files hold

Where a path leads is decided by the directories and links on its way. What the files hold, and when
they were changed, has no part in it:

* `FileSystem.SameLayout` — two states of the files in which each path is that of a regular file in
  both or in neither, and has the same path without links;
* `FileSystem.SameForms` — two states that differ in what files hold, and in times;
* `SameForms.sameLayout` — the second is a case of the first.
-/

namespace BuildTrace

/-- What of a node decides where paths lead: of what kind it is, and the target of a link. -/
def NodeContent.form : NodeContent → NodeContent
  | .file _ _ => .file [] false
  | .directory => .directory
  | .link target => .link target
  | .device => .device

namespace NodeContent

theorem form_eq_link_iff {c : NodeContent} {target : Path} :
    c.form = .link target ↔ c = .link target := by
  cases c with
  | file => exact ⟨nofun, nofun⟩
  | directory => exact ⟨nofun, nofun⟩
  | link => exact Iff.rfl
  | device => exact ⟨nofun, nofun⟩

theorem form_eq_directory_iff {c : NodeContent} : c.form = .directory ↔ c = .directory := by
  cases c with
  | file => exact ⟨nofun, nofun⟩
  | directory => exact Iff.rfl
  | link => exact ⟨nofun, nofun⟩
  | device => exact ⟨nofun, nofun⟩

/-- Whether a node is a regular file. -/
def isRegular : NodeContent → Bool
  | .file .. => true
  | _ => false

end NodeContent

namespace FileSystem

variable {fs fs' : FileSystem}

/-- Every path has the same answers: whether a regular file is at its end, and the path without
links that leads there. -/
structure SameLayout (fs fs' : FileSystem) : Prop where
  isFile : ∀ p, fs'.isFile p = fs.isFile p
  realPath : ∀ p, (fs'.realPath p).toOption = (fs.realPath p).toOption

/-- At every place there are nodes of the same kind in both, and links with the same target. -/
structure SameForms (fs fs' : FileSystem) : Prop where
  cwd : fs'.cwd = fs.cwd
  form : ∀ place, (fs'.node? place).map (·.content.form) = (fs.node? place).map (·.content.form)

/-- What is found at the end of a path, without what it holds. -/
def formOf (found : Place × Node) : Place × NodeContent :=
  (found.1, found.2.content.form)

theorem isFile_eq (fs : FileSystem) (p : Path) :
    fs.isFile p = ((fs.find p).map formOf).toOption.any (·.2.isRegular) := by
  unfold isFile
  cases fs.find p with
  | error cause => rfl
  | ok found =>
      rcases found with ⟨place, content, modified⟩
      cases content with
      | file => rfl
      | directory => rfl
      | link => rfl
      | device => rfl

theorem realPath_eq (fs : FileSystem) (p : Path) :
    (fs.realPath p).toOption = ((fs.locate p).map formOf).toOption.map (·.1.toPath) := by
  rw [realPath]
  cases fs.locate p with
  | error cause => rfl
  | ok found => rfl

/-- A walk goes on along a name by what is there. -/
theorem walk_of_name {links : Nat} {here : Place} {segment : List Char} {rest : List (List Char)}
    (hdir : ¬ (!fs.isDirectoryAt here) = true) (hword : ¬ (segment = [] ∨ segment = ['.']))
    (hup : ¬ segment = ['.', '.']) (hlong : ¬ nameLimit < (Text.encode segment).length) :
    fs.walk links here (segment :: rest) =
      match fs.node? (here ++ [String.ofList segment]) with
      | none =>
        if rest = [] then .ok (here ++ [String.ofList segment]) else .error .noSuchFile
      | some node =>
        match node.content with
        | .link target =>
          match links with
          | 0 => .error .tooManyLinks
          | links + 1 =>
            let (start, segments) := startOf here target
            fs.walk links start (segments ++ rest)
        | _ => fs.walk links (here ++ [String.ofList segment]) rest := by
  rw [walk, if_neg hdir, if_neg hword, if_neg hup]
  exact if_neg hlong

namespace SameForms

theorem node?_eq_none (h : SameForms fs fs') {place : Place} (hnone : fs.node? place = none) :
    fs'.node? place = none := by
  have hform := h.form place
  rw [hnone] at hform
  exact Option.map_eq_none_iff.1 hform

theorem exists_node? (h : SameForms fs fs') {place : Place} {node : Node}
    (hnode : fs.node? place = some node) :
    ∃ node', fs'.node? place = some node' ∧ node'.content.form = node.content.form := by
  have hform := h.form place
  rw [hnode] at hform
  exact Option.map_eq_some_iff.1 hform

theorem exists_link (h : SameForms fs fs') {place : Place} {node : Node} {target : Path}
    (hnode : fs.node? place = some node) (htarget : node.content = .link target) :
    ∃ node', fs'.node? place = some node' ∧ node'.content = .link target := by
  rcases h.exists_node? hnode with ⟨node', hnode', hform⟩
  refine ⟨node', hnode', ?_⟩
  rw [← NodeContent.form_eq_link_iff, hform, htarget]
  rfl

theorem isDirectoryAt (h : SameForms fs fs') (place : Place) :
    fs'.isDirectoryAt place = fs.isDirectoryAt place := by
  unfold FileSystem.isDirectoryAt
  cases hnode : fs.node? place with
  | none => rw [h.node?_eq_none hnode]
  | some node =>
      rcases h.exists_node? hnode with ⟨node', hnode', hform⟩
      have hiff : node'.content = .directory ↔ node.content = .directory := by
        rw [← NodeContent.form_eq_directory_iff, hform, NodeContent.form_eq_directory_iff]
      simp [hnode', hiff]

/-- A walk asks of a node only whether it is a directory or a link, and where the link leads. -/
theorem walk (h : SameForms fs fs') : ∀ (links : Nat) (here : Place) (todo : List (List Char)),
    fs'.walk links here todo = fs.walk links here todo := by
  intro links here todo
  -- Along the walk in `fs`: the other one takes the same way at every step.
  induction links, here, todo using FileSystem.walk.induct fs with
  | case1 links here => rw [FileSystem.walk, FileSystem.walk]
  | case2 links here segment rest hdir =>
      rw [FileSystem.walk, FileSystem.walk, h.isDirectoryAt, if_pos hdir, if_pos hdir]
  | case3 links here segment rest hdir hword ih =>
      rw [FileSystem.walk, FileSystem.walk, h.isDirectoryAt, if_neg hdir, if_neg hdir, if_pos hword,
        if_pos hword, ih]
  | case4 links here rest hdir hword ih =>
      rw [FileSystem.walk, FileSystem.walk, h.isDirectoryAt, if_neg hdir, if_neg hdir, if_neg hword,
        if_neg hword, if_pos rfl, if_pos rfl, ih]
  | case5 links here segment rest hdir hword hup hlong =>
      rw [FileSystem.walk, FileSystem.walk, h.isDirectoryAt, if_neg hdir, if_neg hdir, if_neg hword,
        if_neg hword, if_neg hup, if_neg hup, if_pos hlong, if_pos hlong]
  | case6 links here segment hdir hword hup hlong there hnode =>
      -- From here on the segment is a name; what is there, if anything, is of one kind in both.
      have hnode' := h.node?_eq_none hnode
      rw [walk_of_name hdir hword hup hlong,
        walk_of_name (by rwa [h.isDirectoryAt]) hword hup hlong]
      simp only [there] at hnode hnode'
      simp only [hnode, hnode']
  | case7 links here segment rest hdir hword hup hlong there hnode hrest =>
      have hnode' := h.node?_eq_none hnode
      rw [walk_of_name hdir hword hup hlong,
        walk_of_name (by rwa [h.isDirectoryAt]) hword hup hlong]
      simp only [there] at hnode hnode'
      simp only [hnode, hnode']
  | case8 here segment rest hdir hword hup hlong there node hnode target htarget =>
      rcases h.exists_link hnode htarget with ⟨node', hnode', htarget'⟩
      rw [walk_of_name hdir hword hup hlong,
        walk_of_name (by rwa [h.isDirectoryAt]) hword hup hlong]
      simp only [there] at hnode hnode'
      simp only [hnode, hnode', htarget, htarget']
  | case9 here segment rest hdir hword hup hlong there node hnode target htarget links start
      segments hstart ih =>
      rcases h.exists_link hnode htarget with ⟨node', hnode', htarget'⟩
      rw [walk_of_name hdir hword hup hlong,
        walk_of_name (by rwa [h.isDirectoryAt]) hword hup hlong]
      simp only [there] at hnode hnode'
      simp only [hnode, hnode', htarget, htarget', hstart, ih]
  | case10 links here segment rest hdir hword hup hlong there node hnode hlink ih =>
      rcases h.exists_node? hnode with ⟨node', hnode', hform⟩
      have hlink' : ∀ target, node'.content = .link target → False := by
        intro target htarget
        rw [← NodeContent.form_eq_link_iff, hform, NodeContent.form_eq_link_iff] at htarget
        exact hlink target htarget
      rw [walk_of_name hdir hword hup hlong,
        walk_of_name (by rwa [h.isDirectoryAt]) hword hup hlong]
      simp only [there] at hnode hnode' ih
      simp only [hnode, hnode', ih]

theorem follow (h : SameForms fs fs') (p : Path) : fs'.follow p = fs.follow p := by
  simp only [FileSystem.follow, h.cwd, h.walk]

/-- Paths lead to the same places, and to nodes of the same form there. -/
theorem locate (h : SameForms fs fs') (p : Path) :
    (fs'.locate p).map formOf = (fs.locate p).map formOf := by
  unfold FileSystem.locate
  rw [h.follow p]
  cases fs.follow p with
  | error cause => rfl
  | ok place =>
      cases hnode : fs.node? place with
      | none => simp only [bind, Except.bind, hnode, h.node?_eq_none hnode]
      | some node =>
          rcases h.exists_node? hnode with ⟨node', hnode', hform⟩
          simp only [bind, Except.bind, hnode, hnode', Except.map, formOf, hform]

theorem find (h : SameForms fs fs') (p : Path) :
    (fs'.find p).map formOf = (fs.find p).map formOf := by
  unfold FileSystem.find
  split
  · rfl
  · exact h.locate p

/-- **Where paths lead does not hang on what files hold.** -/
theorem sameLayout (h : SameForms fs fs') : SameLayout fs fs' := by
  refine ⟨?_, ?_⟩
  · intro p
    calc
      fs'.isFile p = ((fs'.find p).map formOf).toOption.any (·.2.isRegular) := isFile_eq fs' p
      _ = ((fs.find p).map formOf).toOption.any (·.2.isRegular) := by rw [h.find p]
      _ = fs.isFile p := (isFile_eq fs p).symm
  · intro p
    calc
      (fs'.realPath p).toOption
          = ((fs'.locate p).map formOf).toOption.map (·.1.toPath) := realPath_eq fs' p
      _ = ((fs.locate p).map formOf).toOption.map (·.1.toPath) := by rw [h.locate p]
      _ = (fs.realPath p).toOption := (realPath_eq fs p).symm

end SameForms
end FileSystem
end BuildTrace
