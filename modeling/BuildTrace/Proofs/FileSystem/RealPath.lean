import BuildTrace.Proofs.FileSystem.Layout
import BuildTrace.Proofs.FileSystem.Places

/-!
# RealPath — one path for every place

Every path that leads anywhere leads to a place, and of all paths that lead there one has no link on
it. That path leads there as well, so it can stand for the place:

* `FileSystem.WellPlaced` — what holds of the files of a running system;
* `walk_link`, `walk_isStraight` — links are left behind by the walk that follows them;
* `realPath_realPath` — the path without links is its own path without links.
-/

namespace BuildTrace
namespace FileSystem

variable {fs : FileSystem} {here place : Place} {name : String} {p q : Path}

/-! ## Straight ways, name by name -/

theorem isStraight_append : ∀ {front here : Place}, fs.isStraight here (front ++ [name]) =
    (fs.isStraight here front && (fs.isDirectoryAt (here ++ front) &&
      decide ((Text.encode name.toList).length ≤ nameLimit) &&
        fs.hasNoLink (here ++ front ++ [name]))) := by
  intro front
  induction front with
  | nil => simp [isStraight]
  | cons first front ih =>
      intro here
      rw [List.cons_append, isStraight, isStraight, ih]
      simp [Bool.and_assoc]

theorem isStraight_dropLast (h : fs.isStraight [] here = true) :
    fs.isStraight [] here.dropLast = true := by
  rcases List.eq_nil_or_concat here with rfl | ⟨front, last, rfl⟩
  · exact h
  · rw [List.concat_eq_append, isStraight_append, Bool.and_eq_true] at h
    simpa using h.1

theorem isStraight_down {segment : List Char} {node : Node} (h : fs.isStraight [] here = true)
    (hdir : ¬ (!fs.isDirectoryAt here) = true) (hlong : ¬ nameLimit < (Text.encode segment).length)
    (hnode : fs.node? (here ++ [String.ofList segment]) = some node)
    (hlink : ∀ target, node.content = .link target → False) :
    fs.isStraight [] (here ++ [String.ofList segment]) = true := by
  have hnolink : fs.hasNoLink (here ++ [String.ofList segment]) = true := by
    unfold hasNoLink
    rw [hnode]
    rcases node with ⟨content, modified⟩
    cases content with
    | link target => exact absurd rfl (hlink target)
    | file | directory | device => rfl
  have hhere : fs.isDirectoryAt here = true := by simpa using hdir
  rw [isStraight_append]
  simp [h, hhere, hnolink, Nat.not_lt.1 hlong]

/-! ## Links -/

/-- A link is followed from the directory it lies in, and the way goes on behind its target. -/
theorem walk_link {links : Nat} {rest : List (List Char)} {target : Path} {modified : Int}
    (hdir : fs.isDirectoryAt here = true) (hname : Path.IsFileName name)
    (hlong : (Text.encode name.toList).length ≤ nameLimit)
    (hnode : fs.node? (here ++ [name]) = some ⟨.link target, modified⟩) :
    fs.walk (links + 1) here (name.toList :: rest) =
      fs.walk links (startOf here target).1 ((startOf here target).2 ++ rest) := by
  rw [walk_of_name (by simp [hdir]) hname.not_silent hname.toList_ne_up (Nat.not_lt.2 hlong),
    String.ofList_toList, hnode]

/-! ## Straight places -/

theorem isStraight_startOf (h : fs.isStraight [] here = true) (p : Path) :
    fs.isStraight [] (startOf here p).1 = true := by
  unfold startOf
  split
  · exact h
  · split
    · rfl
    · exact h

/-- A walk that starts at a straight place ends at one, if anything is there: a link on the way is
followed, and not gone down by. -/
theorem walk_isStraight : ∀ (links : Nat) (here : Place) (todo : List (List Char)),
    fs.isStraight [] here = true → fs.walk links here todo = .ok place →
      ∀ node, fs.node? place = some node → fs.isStraight [] place = true := by
  intro links here todo
  induction links, here, todo using FileSystem.walk.induct fs with
  | case1 links here =>
      intro hhere h _ _
      rw [walk] at h
      cases h
      exact hhere
  | case2 links here segment rest hdir =>
      -- Not every walk comes to an end; the cases in which it fails are refuted one by one.
      intro _ h
      rw [walk, if_pos hdir] at h
      cases h
  | case3 links here segment rest hdir hword ih =>
      intro hhere h
      rw [walk, if_neg hdir, if_pos hword] at h
      exact ih hhere h
  | case4 links here rest hdir hword ih =>
      intro hhere h
      rw [walk, if_neg hdir, if_neg hword, if_pos rfl] at h
      exact ih (isStraight_dropLast hhere) h
  | case5 links here segment rest hdir hword hup hlong =>
      intro _ h
      rw [walk, if_neg hdir, if_neg hword, if_neg hup, if_pos hlong] at h
      cases h
  | case6 links here segment hdir hword hup hlong there hnode =>
      -- The last name may be missing; then nothing is there.
      intro _ h node hfound
      rw [walk_of_name hdir hword hup hlong] at h
      simp only [there] at hnode
      simp only [hnode, if_true] at h
      cases h
      cases hnode.symm.trans hfound
  | case7 links here segment rest hdir hword hup hlong there hnode hrest =>
      intro _ h
      rw [walk_of_name hdir hword hup hlong] at h
      simp only [there] at hnode
      simp only [hnode, if_neg hrest] at h
      cases h
  | case8 here segment rest hdir hword hup hlong there node hnode target htarget =>
      intro _ h
      rw [walk_of_name hdir hword hup hlong] at h
      simp only [there] at hnode
      simp only [hnode, htarget] at h
      cases h
  | case9 here segment rest hdir hword hup hlong there node hnode target htarget links start
      segments hstart ih =>
      -- Along a link: its target is seen from the directory it lies in, or from the root.
      intro hhere h
      rw [walk_of_name hdir hword hup hlong] at h
      simp only [there] at hnode
      simp only [hnode, htarget, hstart] at h
      refine ih ?_ h
      have hfrom : start = (startOf here target).1 := by rw [hstart]
      rw [hfrom]
      exact isStraight_startOf hhere target
  | case10 links here segment rest hdir hword hup hlong there node hnode hlink ih =>
      -- Down by a name that is no link: the way to it stays straight.
      intro hhere h
      rw [walk_of_name hdir hword hup hlong] at h
      simp only [there] at hnode
      simp only [hnode] at h
      exact ih (isStraight_down hhere hdir hlong hnode hlink) h

/-! ## The files of a running system -/

/-- The working directory is a place that its own path leads to, and no name has a NUL in it. -/
structure WellPlaced (fs : FileSystem) : Prop where
  cwd_isProper : fs.cwd.IsProper
  cwd_isStraight : fs.isStraight [] fs.cwd = true
  hasNul : ∀ n ∈ fs.nodes, hasNul n.1.toPath = false

instance (fs : FileSystem) : Decidable fs.WellPlaced :=
  decidable_of_iff (fs.cwd.IsProper ∧ fs.isStraight [] fs.cwd = true ∧
      ∀ n ∈ fs.nodes, FileSystem.hasNul n.1.toPath = false)
    ⟨fun h => ⟨h.1, h.2.1, h.2.2⟩, fun h => ⟨h.cwd_isProper, h.cwd_isStraight, h.hasNul⟩⟩

theorem WellPlaced.hasNul_toPath (hfs : fs.WellPlaced) {node : Node}
    (hnode : fs.node? place = some node) : FileSystem.hasNul place.toPath = false := by
  unfold node? at hnode
  split at hnode
  · next hroot =>
      rw [hroot]
      decide
  · rcases List.lookup_eq_some_iff.1 hnode with ⟨before, behind, hnodes, -⟩
    exact hfs.hasNul (place, node) (hnodes ▸ List.mem_append_right _ List.mem_cons_self)

theorem WellPlaced.locate_toPath (hfs : fs.WellPlaced) {found : Place × Node}
    (h : fs.locate p = .ok found) : fs.locate found.1.toPath = .ok found := by
  -- The path of a place leads there if the place is proper, straight and without a NUL.
  rcases found with ⟨place, node⟩
  rcases of_locate_eq_ok h with ⟨hfollow, hnode⟩
  have hproper : place.IsProper := follow_isProper hfs.cwd_isProper hfollow
  have hstraight : fs.isStraight [] place = true := by
    unfold follow at hfollow
    split at hfollow
    · cases hfollow
    · split at hfollow
      · cases hfollow
      · exact walk_isStraight _ _ _ (isStraight_startOf hfs.cwd_isStraight p) hfollow node hnode
  exact FileSystem.locate_toPath hproper hstraight (hfs.hasNul_toPath hnode) hnode

/-- Whatever the path, it starts at the root. -/
theorem isAbsolute_of_realPath (h : fs.realPath p = .ok q) : q.isAbsolute = true := by
  rw [realPath] at h
  cases hlocate : fs.locate p with
  | error cause =>
      rw [hlocate] at h
      cases h
  | ok found =>
      rw [hlocate] at h
      cases h
      simp [Place.toPath, Path.isAbsolute]

/-- **The path without links.** It leads to where the path leads, without links. -/
theorem WellPlaced.realPath_realPath (hfs : fs.WellPlaced) (h : fs.realPath p = .ok q) :
    fs.realPath q = .ok q := by
  rw [realPath] at h
  cases hlocate : fs.locate p with
  | error cause =>
      rw [hlocate] at h
      cases h
  | ok found =>
      rw [hlocate] at h
      cases h
      rw [realPath, hfs.locate_toPath hlocate]
      rfl

end FileSystem
end BuildTrace
