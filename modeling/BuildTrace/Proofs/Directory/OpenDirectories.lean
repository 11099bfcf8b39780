import BuildTrace.Directory.Follow
import BuildTrace.Proofs.FileSystem.RealPath
import Mathlib.Data.List.Induction

/-!
# OpenDirectories — the stack of directories over any lines

The lines of a build may be anything, and files change between them. Whatever comes, every directory
that is open was entered by a line, from the directory below it:

* `Directory.FollowOutcome` — all that one line can do;
* `Directory.stackAfter`, `resultsOf` — lines that are followed one after the other, also behind one
  that cannot be;
* `root_stackAfter`, `depth_stackAfter` — the bottom stays, and the depth counts what was entered
  and left;
* `Directory.WasEntered`, `wasEntered_of_above` — how each open directory was entered;
* `Directory.stack_of_lines` — all of it, and what the next line does.
-/

namespace BuildTrace
namespace Directory

/-! ## One line -/

/-- All that one line can do to the open directories. -/
inductive FollowOutcome (fs : FileSystem) (s : Stack) (line : String) :
    Except Fault Event → Stack → Prop where
  | nothing : Announcement.find? line.toList = none →
      FollowOutcome fs s line (.ok .nothing) s
  | entered {name : String} {dir : Path} :
      Announcement.find? line.toList = some ⟨"Entering", name⟩ →
        fs.realPath (s.top.join ⟨name⟩) = .ok dir →
          FollowOutcome fs s line (.ok (.entered dir)) (s.push dir)
  | notFound {name : String} {cause : SystemError} :
      Announcement.find? line.toList = some ⟨"Entering", name⟩ →
        fs.realPath (s.top.join ⟨name⟩) = .error cause →
          FollowOutcome fs s line (.error (.notFound name s.top cause)) s
  | left {name : String} {dir : Path} {below : Stack} :
      Announcement.find? line.toList = some ⟨"Leaving", name⟩ → s = below.push dir →
        names fs below.top name dir = true → FollowOutcome fs s line (.ok (.left dir)) below
  | leftOther {name : String} {dir : Path} {below : Stack} :
      Announcement.find? line.toList = some ⟨"Leaving", name⟩ → s = below.push dir →
        names fs below.top name dir = false →
          FollowOutcome fs s line (.ok (.leftOther name dir)) below
  | atBottom {name : String} :
      Announcement.find? line.toList = some ⟨"Leaving", name⟩ → s.above = [] →
        FollowOutcome fs s line (.error (.atBottom name s.root)) s
  | otherVerb {verb name : String} :
      Announcement.find? line.toList = some ⟨verb, name⟩ → verb ≠ "Entering" → verb ≠ "Leaving" →
        FollowOutcome fs s line (.ok (.otherVerb verb name)) s

variable {fs : FileSystem} {s s' below : Stack} {line name : String} {dir : Path}
  {r : Except Fault Event}

theorem Stack.eq_push_of_pop? (h : s.pop? = some (dir, below)) : s = below.push dir := by
  rcases s with ⟨root, above⟩
  cases above with
  | nil => cases h
  | cons p above =>
      cases h
      rfl

theorem Stack.above_of_pop? (h : s.pop? = none) : s.above = [] := by
  rcases s with ⟨root, above⟩
  cases above with
  | nil => rfl
  | cons p above => cases h

theorem followOutcome (fs : FileSystem) (s : Stack) (line : String) :
    FollowOutcome fs s line (follow fs s line).1 (follow fs s line).2 := by
  unfold follow
  cases hfind : Announcement.find? line.toList with
  | none => exact .nothing hfind
  | some a =>
      rcases a with ⟨verb, name⟩
      by_cases hentering : verb = "Entering"
      · subst hentering
        simp only [if_true, enter]
        cases hreal : fs.realPath (s.top.join ⟨name⟩) with
        | ok dir => exact .entered hfind hreal
        | error cause => exact .notFound hfind hreal
      · by_cases hleaving : verb = "Leaving"
        · subst hleaving
          simp only [if_neg hentering, if_true, leave]
          cases hpop : s.pop? with
          | none => exact .atBottom hfind (Stack.above_of_pop? hpop)
          | some popped =>
              rcases popped with ⟨dir, below⟩
              have hs : s = below.push dir := Stack.eq_push_of_pop? hpop
              cases hnames : names fs below.top name dir with
              | true => simpa [hnames] using FollowOutcome.left hfind hs hnames
              | false => simpa [hnames] using FollowOutcome.leftOther hfind hs hnames
        · simp only [if_neg hentering, if_neg hleaving]
          exact .otherVerb hfind hentering hleaving

/-- Whether a line entered a directory. -/
def isEntry : Except Fault Event → Bool
  | .ok (.entered _) => true
  | _ => false

/-- Whether a line left a directory, the one it names or another. -/
def isExit : Except Fault Event → Bool
  | .ok (.left _) | .ok (.leftOther ..) => true
  | _ => false

namespace FollowOutcome

variable (h : FollowOutcome fs s line r s')
include h

/-- A line that enters and leaves nothing changes nothing. -/
theorem eq_of_still (hr : r = .ok .nothing ∨ (∃ verb name, r = .ok (.otherVerb verb name)) ∨
    ∃ fault, r = .error fault) : s' = s := by
  cases h with
  | nothing | notFound | atBottom | otherVerb => rfl
  | entered | left | leftOther => simp at hr

/-- Only the bottom cannot be left. -/
theorem atBottom_iff : (∃ name root, r = .error (.atBottom name root)) ↔
    (∃ name, Announcement.find? line.toList = some ⟨"Leaving", name⟩) ∧ s.depth = 1 := by
  cases h with
  | nothing hfind => simp [hfind]
  | entered hfind | notFound hfind => simp [hfind]
  | left _ hs | leftOther _ hs => simp [hs, Stack.push, Stack.depth]
  | atBottom hfind habove => simp [hfind, habove, Stack.depth]
  | otherVerb hfind _ hleaving => simp [hfind, hleaving]

/-- Any other directory is left by any line that leaves one. -/
theorem of_leaving (hfind : Announcement.find? line.toList = some ⟨"Leaving", name⟩)
    (hdepth : s.depth ≠ 1) :
    (r = .ok (.left s.top) ∨ r = .ok (.leftOther name s.top)) ∧
      s.toList = s'.toList ++ [s.top] := by
  cases h with
  | nothing hfind' => simp [hfind'] at hfind
  | entered hfind' | notFound hfind' => simp [hfind'] at hfind
  | atBottom _ habove => exact absurd (by simp [Stack.depth, habove]) hdepth
  | otherVerb hfind' _ hleaving => simp [hfind', hleaving] at hfind
  | left hfind' hs =>
      subst hs
      exact ⟨Or.inl rfl, Stack.toList_push _ _⟩
  | leftOther hfind' hs =>
      -- The name is the one the line announces.
      cases hfind'.symm.trans hfind
      subst hs
      exact ⟨Or.inr rfl, Stack.toList_push _ _⟩

theorem root : s'.root = s.root := by
  cases h with
  | nothing | notFound | atBottom | otherVerb => rfl
  | entered => rfl
  | left _ hs | leftOther _ hs =>
      rw [hs]
      rfl

/-- The depth counts what is entered and left. -/
theorem depth : s'.depth + [r].countP isExit = s.depth + [r].countP isEntry := by
  cases h with
  | nothing | notFound | atBottom | otherVerb => rfl
  | entered => rfl
  | left _ hs | leftOther _ hs =>
      rw [hs]
      rfl

end FollowOutcome

/-! ## Many lines -/

/-- The open directories after some lines, each given with the files as they are by then. -/
def stackAfter (s : Stack) (log : List (FileSystem × String)) : Stack :=
  log.foldl (fun s entry => (follow entry.1 s entry.2).2) s

/-- What each of the lines did. -/
def resultsOf (s : Stack) : List (FileSystem × String) → List (Except Fault Event)
  | [] => []
  | (fs, line) :: rest => (follow fs s line).1 :: resultsOf (follow fs s line).2 rest

theorem stackAfter_snoc (s : Stack) (log : List (FileSystem × String))
    (entry : FileSystem × String) :
    stackAfter s (log ++ [entry]) = (follow entry.1 (stackAfter s log) entry.2).2 := by
  rw [stackAfter, List.foldl_append]
  rfl

theorem resultsOf_snoc (s : Stack) (log : List (FileSystem × String))
    (entry : FileSystem × String) :
    resultsOf s (log ++ [entry]) =
      resultsOf s log ++ [(follow entry.1 (stackAfter s log) entry.2).1] := by
  induction log generalizing s with
  | nil => rfl
  | cons first rest ih => exact congrArg _ (ih (follow first.1 s first.2).2)

/-! ### The bottom and the depth -/

theorem root_stackAfter (s : Stack) (log : List (FileSystem × String)) :
    (stackAfter s log).root = s.root := by
  induction log using List.reverseRecOn with
  | nil => rfl
  | append_singleton log entry ih =>
      rw [stackAfter_snoc, (followOutcome entry.1 (stackAfter s log) entry.2).root, ih]

theorem depth_stackAfter (s : Stack) (log : List (FileSystem × String)) :
    (stackAfter s log).depth + (resultsOf s log).countP isExit =
      s.depth + (resultsOf s log).countP isEntry := by
  induction log using List.reverseRecOn with
  | nil => rfl
  | append_singleton log entry ih =>
      have hstep := (followOutcome entry.1 (stackAfter s log) entry.2).depth
      rw [stackAfter_snoc, resultsOf_snoc, List.countP_append, List.countP_append]
      omega

/-! ### How directories were entered -/

/-- One of the lines entered the directory from the innermost of those below it, which were open by
then, and `dir` is where the name it announced led at that time. -/
def WasEntered (start : Stack) (log : List (FileSystem × String)) (below : Stack) (dir : Path) :
    Prop :=
  ∃ earlier fs line later name, log = earlier ++ (fs, line) :: later ∧
    stackAfter start earlier = below ∧
    Announcement.find? line.toList = some ⟨"Entering", name⟩ ∧
    fs.realPath (below.top.join ⟨name⟩) = .ok dir

variable {start : Stack} {log : List (FileSystem × String)}

theorem WasEntered.snoc (h : WasEntered start log below dir) (entry : FileSystem × String) :
    WasEntered start (log ++ [entry]) below dir := by
  rcases h with ⟨earlier, fs, line, later, name, rfl, hrest⟩
  exact ⟨earlier, fs, line, later ++ [entry], name, by simp, hrest⟩

/-- Every open directory was entered, from those below it. -/
theorem wasEntered_of_above {root : Path} {inner outer : List Path}
    (h : (stackAfter { root := root } log).above = inner ++ dir :: outer) :
    WasEntered { root := root } log { root := root, above := outer } dir := by
  induction log using List.reverseRecOn generalizing inner dir outer with
  | nil => exact absurd h (by simp [stackAfter])
  | append_singleton log entry ih =>
      rcases entry with ⟨fs, line⟩
      have houtcome := followOutcome fs (stackAfter { root := root } log) line
      have hroot : (stackAfter { root := root } log).root = root := root_stackAfter _ _
      rw [stackAfter_snoc] at h
      generalize hbefore : stackAfter { root := root } log = before at houtcome hroot h ih
      generalize (follow fs before line).1 = r, (follow fs before line).2 = after at houtcome h
      cases houtcome with
      -- What is open now was open before, and the line comes after all that entered it.
      | nothing | notFound | atBottom | otherVerb => exact (ih h).snoc _
      | @entered name found hfind hreal =>
          cases inner with
          | nil =>
              -- The line itself entered it.
              rcases List.cons.inj h with ⟨rfl, rfl⟩
              have hbelow : before = { root := root, above := before.above } := by rw [← hroot]
              rw [← hbelow]
              exact ⟨log, fs, line, [], name, rfl, hbefore, hfind, hreal⟩
          | cons first inner => exact (ih (List.cons.inj h).2).snoc _
      | @left _ popped _ _ hs | @leftOther _ popped _ _ hs =>
          -- It was open before, below the one that is left.
          have habove : before.above = (popped :: inner) ++ dir :: outer := by
            rw [hs, Stack.push, h, List.cons_append]
          exact (ih habove).snoc _

/-- The stack as a list, cut above its bottom. -/
theorem Stack.above_of_toList {outer inner : List Path} (h : s.toList = outer ++ dir :: inner)
    (houter : outer ≠ []) :
    ∃ rest, outer = s.root :: rest.reverse ∧ s.above = inner.reverse ++ dir :: rest := by
  cases outer with
  | nil => exact absurd rfl houter
  | cons bottom outer =>
      rcases List.cons.inj h with ⟨rfl, habove⟩
      refine ⟨outer.reverse, by rw [List.reverse_reverse], ?_⟩
      rw [← List.reverse_reverse s.above, habove]
      simp

/-- **The open directories over any lines.** Whatever lines come, also behind errors and while files
change, the bottom is where the stack began, and the depth is one and what was entered, less what
was left. Each directory above the bottom is where the name led by which a line entered it, from the
innermost of those below it as they were open by then: an absolute path, and its own path without
links if the files were those of a running system. A line that enters and leaves nothing changes
nothing; one that leaves a directory takes off the innermost, whichever it names, and fails just if
only the bottom is left. -/
theorem stack_of_lines (root : Path) (log : List (FileSystem × String)) :
    let s := stackAfter { root := root } log
    let results := resultsOf { root := root } log
    s.toList.head? = some root ∧
      (1 ≤ s.depth ∧ s.depth + results.countP isExit = 1 + results.countP isEntry) ∧
      (∀ outer dir inner, s.toList = outer ++ dir :: inner → outer ≠ [] →
        ∃ earlier fs line later name, log = earlier ++ (fs, line) :: later ∧
          (stackAfter { root := root } earlier).toList = outer ∧
          Announcement.find? line.toList = some ⟨"Entering", name⟩ ∧
          fs.realPath ((stackAfter { root := root } earlier).top.join ⟨name⟩) = .ok dir ∧
          dir.isAbsolute = true ∧ (fs.WellPlaced → fs.realPath dir = .ok dir)) ∧
      ∀ fs line r s', follow fs s line = (r, s') →
        ((r = .ok .nothing ∨ (∃ verb name, r = .ok (.otherVerb verb name)) ∨
            ∃ fault, r = .error fault) → s' = s) ∧
          ((∃ name bottom, r = .error (.atBottom name bottom)) ↔
            (∃ name, Announcement.find? line.toList = some ⟨"Leaving", name⟩) ∧ s.depth = 1) ∧
          ∀ name, Announcement.find? line.toList = some ⟨"Leaving", name⟩ → s.depth ≠ 1 →
            (r = .ok (.left s.top) ∨ r = .ok (.leftOther name s.top)) ∧
              s.toList = s'.toList ++ [s.top] := by
  intro s results
  have hroot : s.root = root := root_stackAfter _ log
  refine ⟨?_, ⟨Nat.le_add_left 1 _, depth_stackAfter _ log⟩, ?_, ?_⟩
  · rw [Stack.toList, hroot, List.head?_cons]
  · intro outer dir inner hs houter
    rcases Stack.above_of_toList hs houter with ⟨rest, rfl, habove⟩
    rcases wasEntered_of_above habove with
      ⟨earlier, fs, line, later, name, hlog, hbelow, hfind, hreal⟩
    refine ⟨earlier, fs, line, later, name, hlog, ?_, hfind, ?_,
      FileSystem.isAbsolute_of_realPath hreal, fun hfs => hfs.realPath_realPath hreal⟩
    · rw [hbelow, hroot, Stack.toList]
    · rwa [hbelow]
  · intro fs line r s' hfollow
    have houtcome : FollowOutcome fs s line r s' := by
      have hany := followOutcome fs s line
      rwa [hfollow] at hany
    exact ⟨houtcome.eq_of_still, houtcome.atBottom_iff,
      fun name hfind hdepth => houtcome.of_leaving hfind hdepth⟩

end Directory
end BuildTrace
