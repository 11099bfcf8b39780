import BuildTrace.Proofs.Directory.Announcement
import BuildTrace.Proofs.FileSystem.Places

/-!
# Entering — the directory a line of make enters

A line of `make` has the directory between a quote and an apostrophe, and an apostrophe in the
directory itself looks like the one that ends it:

* `Directory.announced` — what is read of a directory that is printed;
* `follow_eq_enter` — a line that enters a directory enters what is read of it;
* `follow_entering` — which is the directory itself if that has no apostrophe;
* `follow_entering_apostrophe` — with one, a line can enter another directory than it names.
-/

namespace BuildTrace
namespace Directory

variable {dir line : String} {fs : FileSystem} {s : Stack} {found : Path}

/-- What `make` says when it enters a directory. -/
def Announcement.entering (dir : String) : Announcement :=
  { verb := "Entering", dir := dir }

/-! ## What is read of a directory -/

/-- What is read of a directory that is printed: all in front of its first apostrophe. -/
def announced (dir : String) : String :=
  String.ofList (dir.toList.takeWhile (· ≠ '\''))

theorem toList_announced (dir : String) :
    (announced dir).toList = dir.toList.takeWhile (· ≠ '\'') :=
  String.toList_ofList

theorem announced_of_not_mem (h : '\'' ∉ dir.toList) : announced dir = dir := by
  rw [announced, List.takeWhile_eq_self_iff.2 (Text.ne_of_not_mem h), String.ofList_toList]

theorem isAbsolute_announced (h : Path.isAbsolute ⟨dir⟩ = true) :
    Path.isAbsolute ⟨announced dir⟩ = true := by
  -- The root is no apostrophe, so it is read in any case.
  rcases Path.toList_of_isAbsolute h with ⟨cs, hcs⟩
  simp [Path.isAbsolute, announced, hcs]

theorem wellFormed_announced (h : Path.isAbsolute ⟨dir⟩ = true) :
    (Announcement.entering (announced dir)).WellFormed := by
  refine ⟨show "Entering" ≠ "" by decide, show ' ' ∉ "Entering".toList by decide, ?_, ?_⟩
  · intro hempty
    have habsolute : Path.isAbsolute ⟨""⟩ = true := hempty ▸ isAbsolute_announced h
    exact absurd habsolute (by decide)
  · exact toList_announced dir ▸ Text.not_mem_takeWhile_ne

theorem find?_entering (habsolute : Path.isAbsolute ⟨dir⟩ = true)
    (hline : (Announcement.entering dir).IsLine line) :
    Announcement.find? line.toList = some (.entering (announced dir)) := by
  rcases hline with ⟨label, quote, hlabel, hquote, hline⟩
  -- Whatever stands behind the first apostrophe is not looked at.
  rcases Text.exists_append_takeWhile_ne '\'' dir.toList with ⟨after, hafter⟩
  have htext : line.toList = label ++ ": ".toList ++ "Entering".toList ++ " directory ".toList ++
      quote :: (announced dir).toList ++ '\'' :: after := by
    simp only [hline, Announcement.entering, toList_announced, List.append_assoc,
      List.cons_append, hafter]
  rw [htext]
  exact Announcement.find?_of_label hlabel hquote (wellFormed_announced habsolute) after

/-! ## What is entered -/

theorem follow_eq_enter (habsolute : Path.isAbsolute ⟨dir⟩ = true)
    (hline : (Announcement.entering dir).IsLine line) (fs : FileSystem) (s : Stack) :
    follow fs s line = enter fs s (announced dir) := by
  simp only [follow, find?_entering habsolute hline, Announcement.entering, if_true]

theorem enter_of_isAbsolute (habsolute : Path.isAbsolute ⟨dir⟩ = true)
    (hreal : fs.realPath ⟨dir⟩ = .ok found) (s : Stack) :
    enter fs s dir = (.ok (.entered found), s.push found) := by
  simp only [enter, Path.join, habsolute, if_true, hreal]

theorem enter_of_notFound {cause : SystemError} (habsolute : Path.isAbsolute ⟨dir⟩ = true)
    (hreal : fs.realPath ⟨dir⟩ = .error cause) (s : Stack) :
    enter fs s dir = (.error (.notFound dir s.top cause), s) := by
  simp only [enter, Path.join, habsolute, if_true, hreal]

/-- **Entering directories.** The line that `make` prints, at any level and with either quote, when
it enters a directory named by an absolute path enters just this directory if its path has no
apostrophe. If it has, the line enters the directory whose path ends in front of the first, or is
an error if there is none. -/
theorem follow_entering (habsolute : Path.isAbsolute ⟨dir⟩ = true)
    (hline : (Announcement.entering dir).IsLine line) (fs : FileSystem) (s : Stack) :
    ('\'' ∉ dir.toList → ∀ found, fs.realPath ⟨dir⟩ = .ok found →
        follow fs s line = (.ok (.entered found), s.push found)) ∧
      (∀ found, fs.realPath ⟨announced dir⟩ = .ok found →
        follow fs s line = (.ok (.entered found), s.push found)) ∧
      (∀ cause, fs.realPath ⟨announced dir⟩ = .error cause →
        follow fs s line = (.error (.notFound (announced dir) s.top cause), s)) := by
  have hread := isAbsolute_announced habsolute
  have hfollow := follow_eq_enter habsolute hline fs s
  refine ⟨?_, ?_, ?_⟩
  · intro hnot found hreal
    rw [hfollow, announced_of_not_mem hnot, enter_of_isAbsolute habsolute hreal]
  · intro found hreal
    rw [hfollow, enter_of_isAbsolute hread hreal]
  · intro cause hreal
    rw [hfollow, enter_of_notFound hread hreal]

/-! ### Two directories -/

/-- Two directories, one of which has the name of the other up to an apostrophe. -/
def apostropheTree : FileSystem :=
  { nodes := [(["it"], ⟨.directory, 0⟩), (["it's"], ⟨.directory, 0⟩)] }

theorem realPath_apostropheTree {p : Path} (h : p ∈ [⟨"/it"⟩, ⟨"/it's"⟩]) :
    apostropheTree.realPath p = .ok p := by
  have hall : ∀ name ∈ ["it", "it's"], Place.IsProper [name] ∧
      apostropheTree.isStraight [] [name] = true ∧
      FileSystem.hasNul (Place.toPath [name]) = false ∧
      apostropheTree.node? [name] = some ⟨.directory, 0⟩ := by decide +kernel
  have hpaths : ([⟨"/it"⟩, ⟨"/it's"⟩] : List Path) =
      ["it", "it's"].map fun name => Place.toPath [name] := by decide +kernel
  rw [hpaths] at h
  rcases List.mem_map.1 h with ⟨name, hname, rfl⟩
  rcases hall name hname with ⟨hproper, hstraight, hnul, hnode⟩
  exact FileSystem.realPath_toPath hproper hstraight hnul hnode

theorem isLine_entering (hline : line.toList = ("make".toList ++ '[' :: ['1'] ++ [']']) ++
      ": ".toList ++ "Entering".toList ++ " directory ".toList ++ '\'' :: dir.toList ++ ['\'']) :
    (Announcement.entering dir).IsLine line := by
  have hdigits : ∀ c ∈ ['1'], c.isDigit := fun c hc => by
    rw [List.mem_singleton.1 hc]
    decide
  exact ⟨_, '\'', .nested ['1'] hdigits, rfl, hline⟩

/-- The directory without the apostrophe is entered. -/
theorem follow_entering_plain :
    Path.isAbsolute ⟨"/it"⟩ = true ∧
      (Announcement.entering "/it").IsLine "make[1]: Entering directory '/it'" ∧
      follow apostropheTree { root := ⟨"/"⟩ } "make[1]: Entering directory '/it'" =
        (.ok (.entered ⟨"/it"⟩), { root := ⟨"/"⟩, above := [⟨"/it"⟩] }) := by
  have habsolute : Path.isAbsolute ⟨"/it"⟩ = true := by decide
  have hline : (Announcement.entering "/it").IsLine "make[1]: Entering directory '/it'" :=
    isLine_entering (by decide +kernel)
  have hreal : apostropheTree.realPath ⟨"/it"⟩ = .ok ⟨"/it"⟩ := realPath_apostropheTree (by decide +kernel)
  have hfollow := follow_entering habsolute hline apostropheTree { root := ⟨"/"⟩ }
  exact ⟨habsolute, hline, hfollow.1 (by decide) ⟨"/it"⟩ hreal⟩

/-- The line for the other directory enters it as well. -/
theorem follow_entering_apostrophe :
    (Announcement.entering "/it's").IsLine "make[1]: Entering directory '/it's'" ∧
      apostropheTree.realPath ⟨"/it's"⟩ = .ok ⟨"/it's"⟩ ∧
      follow apostropheTree { root := ⟨"/"⟩ } "make[1]: Entering directory '/it's'" =
        (.ok (.entered ⟨"/it"⟩), { root := ⟨"/"⟩, above := [⟨"/it"⟩] }) := by
  have hline : (Announcement.entering "/it's").IsLine "make[1]: Entering directory '/it's'" :=
    isLine_entering (by decide +kernel)
  have hread : announced "/it's" = "/it" := by decide +kernel
  refine ⟨hline, realPath_apostropheTree (by decide +kernel), ?_⟩
  rw [follow_eq_enter (by decide) hline, hread]
  exact enter_of_isAbsolute (by decide) (realPath_apostropheTree (by decide +kernel)) _

end Directory
end BuildTrace
