import BuildTrace.Proofs.Build.Chunking
import BuildTrace.Proofs.FileSystem.Places
import BuildTrace.Proofs.Invocation.Labelled

/-!
# Nesting — logs that enter and leave directories in turn

`make` announces each directory it enters, and again when it leaves it, so the directories of a log
are nested like brackets:

* `Directory.Announces` — a line of `make` about a directory, as seen from the one it lies in;
* `NestedLog` — a log with its announcements in pairs, each line in the innermost open directory;
* `Follows` — what following a stretch of lines comes to;
* `NestedLog.follows` — a nested log is followed back to where it began;
* `BuildProgress.takeAll_of_nestedLog` — the same for the output of a session.

The two announcements of a pair may spell the directory differently, and lead to it through links.
-/

namespace BuildTrace

/-! ## Nested logs -/

/-- The line announces the directory `dir` under a name that leads there from `base`. -/
def Directory.Announces (fs : FileSystem) (verb : String) (base dir : Path) (line : String) :
    Prop :=
  ∃ name : String, Announcement.IsLine ⟨verb, name⟩ line ∧ name ≠ "" ∧ '\'' ∉ name.toList ∧
    fs.realPath (base.join ⟨name⟩) = .ok dir

open Directory in
/-- The lines of a log, each with the innermost directory that is open at it. Announcements come in
pairs, one when the directory is entered and one when it is left, and what is printed between them
is nested again; all other lines announce nothing. -/
inductive NestedLog (fs : FileSystem) : Path → List (Path × String) → Prop where
  | nil (base : Path) : NestedLog fs base []
  | line {base : Path} {text : String} {rest : List (Path × String)} :
      (∀ a : Announcement, ¬ a.IsIn text.toList) → NestedLog fs base rest →
        NestedLog fs base ((base, text) :: rest)
  | inside {base dir : Path} {entering leaving : String} {inner rest : List (Path × String)} :
      Announces fs "Entering" base dir entering → NestedLog fs dir inner →
        Announces fs "Leaving" base dir leaving → NestedLog fs base rest →
          NestedLog fs base ((base, entering) :: inner ++ (dir, leaving) :: rest)

/-! ## Following a stretch of lines -/

/-- How a line is offered that was printed in a directory. -/
def offerOf (extra : List String) (l : Path × String) : Offer :=
  { cwd := l.1
    line := l.2
    invocation := (Invocation.ofLine? l.1 l.2).map (·.withSessionFlags extra) }

/-- Following the lines leads from `d` to the directories `stack`, offers each line in the directory
it was printed in, and meets nothing that should not happen. -/
structure Follows (fs : FileSystem) (extra : List String) (d : Dispatcher)
    (log : List (Path × String)) (stack : Directory.Stack) : Prop where
  fault : (d.readLog fs Invocation.ofLine? extra (log.map Prod.snd)).fault = none
  stack : (d.readLog fs Invocation.ofLine? extra (log.map Prod.snd)).dispatcher.stack = stack
  offers : (d.readLog fs Invocation.ofLine? extra (log.map Prod.snd)).offers =
    log.map (offerOf extra)
  expected : ∀ ev ∈ d.events fs Invocation.ofLine? extra (log.map Prod.snd),
    ev.isUnexpected = false

namespace Follows

open Directory

variable {fs : FileSystem} {extra : List String} {d : Dispatcher} {text : String}

theorem nil (d : Dispatcher) : Follows fs extra d [] d.stack :=
  ⟨rfl, rfl, rfl, fun _ h => absurd h List.not_mem_nil⟩

/-- One stretch behind another. -/
theorem append {front back : List (Path × String)} {mid stack : Stack}
    (hfront : Follows fs extra d front mid)
    (hback : ∀ d' : Dispatcher, d'.stack = mid → Follows fs extra d' back stack) :
    Follows fs extra d (front ++ back) stack := by
  have h := hback _ hfront.stack
  have hread := Dispatcher.readLog_append_of_ok hfront.fault (back.map Prod.snd)
  have hevents := Dispatcher.events_append (back.map Prod.snd) _ _ hfront.fault
  rw [← List.map_append] at hread hevents
  refine ⟨?_, ?_, ?_, ?_⟩
  · rw [hread]
    exact h.fault
  · rw [hread]
    exact h.stack
  · rw [hread, List.map_append, ← hfront.offers, ← h.offers]
  · intro ev hev
    rw [hevents] at hev
    rcases List.mem_append.1 hev with hev | hev
    · exact hfront.expected ev hev
    · exact h.expected ev hev

/-- A line that is no command and can be followed. -/
theorem of_follow {ev : Event} {stack : Stack} (hnone : Invocation.ofLine? d.stack.top text = none)
    (hfollow : Directory.follow fs d.stack text = (.ok ev, stack)) (hev : ev.isUnexpected = false) :
    Follows fs extra d [(d.stack.top, text)] stack := by
  refine ⟨?_, ?_, ?_, ?_⟩
  · simp [Dispatcher.readLog, hnone, hfollow, LogReading.after]
  · simp [Dispatcher.readLog, hnone, hfollow, LogReading.after]
  · simp [Dispatcher.readLog, hnone, hfollow, LogReading.after, offerOf]
  · simp [Dispatcher.events, hnone, hfollow, hev]

theorem of_command {i : Invocation} (h : Invocation.ofLine? d.stack.top text = some i) :
    Follows fs extra d [(d.stack.top, text)] d.stack := by
  refine ⟨?_, ?_, ?_, ?_⟩
  · simp [Dispatcher.readLog, h, LogReading.after]
  · simp [Dispatcher.readLog, h, LogReading.after]
  · simp [Dispatcher.readLog, h, LogReading.after, offerOf]
  · simp [Dispatcher.events, h]

/-- A line without an announcement, command or not. -/
theorem of_no_announcement (h : ∀ a : Announcement, ¬ a.IsIn text.toList) :
    Follows fs extra d [(d.stack.top, text)] d.stack := by
  cases hi : Invocation.ofLine? d.stack.top text with
  | some i => exact of_command hi
  | none => exact of_follow hi (follow_of_no_announcement h fs d.stack) rfl

/-- A line that announces a directory is offered, and then followed as what it says. -/
theorem of_announces {verb : String} {base dir : Path} {ev : Event} {stack : Stack}
    (h : Announces fs verb base dir text) (hverb : verb ≠ "" ∧ ' ' ∉ verb.toList)
    (hfollow : ∀ name, Announcement.find? text.toList = some ⟨verb, name⟩ →
      fs.realPath (base.join ⟨name⟩) = .ok dir →
        Directory.follow fs d.stack text = (.ok ev, stack))
    (hev : ev.isUnexpected = false) : Follows fs extra d [(d.stack.top, text)] stack := by
  -- It is offered as a command first, and is none; then it is found to be what it says.
  rcases h with ⟨name, hline, hne, hquoted, hdir⟩
  have hfind := Announcement.find?_of_isLine hline ⟨hverb.1, hverb.2, hne, hquoted⟩
  exact of_follow (Announcement.ofLine?_of_isLine hline _) (hfollow name hfind hdir) hev

theorem of_entering {dir : Path} (h : Announces fs "Entering" d.stack.top dir text) :
    Follows fs extra d [(d.stack.top, text)] (d.stack.push dir) := by
  have hev : (Event.entered dir).isUnexpected = false := rfl
  refine of_announces h (by decide) ?_ hev
  intro name hfind hdir
  simp [Directory.follow, hfind, enter, hdir]

theorem of_leaving {dir : Path} {s : Stack} (hd : d.stack = s.push dir)
    (h : Announces fs "Leaving" s.top dir text) :
    Follows fs extra d [(d.stack.top, text)] s := by
  have hev : (Event.left dir).isUnexpected = false := rfl
  refine of_announces h (by decide) ?_ hev
  intro name hfind hdir
  -- The name is looked up from the directory around it, as it was on the way in.
  have hnames : names fs s.top name dir = true := by
    simp [names, hdir, Path.Same.refl]
  simp [Directory.follow, hfind, leave, hd, hnames]

end Follows

/-- A nested log is followed back to where it began. -/
theorem NestedLog.follows {fs : FileSystem} {extra : List String} {base : Path}
    {log : List (Path × String)} (h : NestedLog fs base log) :
    ∀ d : Dispatcher, d.stack.top = base → Follows fs extra d log d.stack := by
  induction h with
  | nil base =>
      intro d _
      exact Follows.nil d
  | line hnone _ ih =>
      intro d hd
      -- The line may be a command, but in neither case does it change the directories.
      rw [← hd]
      refine (Follows.of_no_announcement hnone).append ?_
      intro d' hd'
      rw [← hd']
      exact ih d' (by rw [hd', hd])
  | @inside base dir entering leaving inner rest henter _ hleave _ ihInner ihRest =>
      intro d hd
      subst hd
      -- In front of the line that leaves it, the directory lies on the stack as it was entered.
      have hbody : ∀ d' : Dispatcher, d'.stack = d.stack.push dir →
          Follows fs extra d' (inner ++ (dir, leaving) :: rest) d.stack := by
        intro d' hd'
        have htop : d'.stack.top = dir := by rw [hd']; rfl
        refine (ihInner d' htop).append ?_
        intro d'' hd''
        have htop'' : d''.stack.top = dir := by rw [hd'', htop]
        have hline : Follows fs extra d'' [(d''.stack.top, leaving)] d.stack :=
          Follows.of_leaving (hd''.trans hd') hleave
        rw [htop''] at hline
        refine hline.append ?_
        intro d₃ hd₃
        rw [← hd₃]
        exact ihRest d₃ (by rw [hd₃])
      exact (Follows.of_entering henter).append hbody

/-! ## Sessions -/

theorem Invocation.workingDirectory_of_ofLine? {cwd : Path} {line : String} {i : Invocation}
    (h : Invocation.ofLine? cwd line = some i) : i.workingDirectory = cwd := by
  unfold Invocation.ofLine? at h
  split at h
  · split at h
    · rcases Option.bind_eq_some_iff.1 h with ⟨source, -, hkind⟩
      rcases Option.map_eq_some_iff.1 hkind with ⟨kind, -, rfl⟩
      rfl
    · exact absurd h (by simp)
  · exact absurd h (by simp)

/-- A command is delivered with the directory it was offered in. -/
theorem workingDirectory_offerOf {extra : List String} {l : Path × String} {i : Invocation}
    (h : (offerOf extra l).invocation = some i) : i.workingDirectory = l.1 := by
  rcases Option.map_eq_some_iff.1 h with ⟨j, hj, rfl⟩
  have hcwd : j.workingDirectory = l.1 := Invocation.workingDirectory_of_ofLine? hj
  exact hcwd

/-- What is announced in a nested log is no command. -/
theorem NestedLog.ofLine?_of_isIn {fs : FileSystem} {base : Path} {log : List (Path × String)}
    (h : NestedLog fs base log) : ∀ l ∈ log, ∀ a : Directory.Announcement, a.IsIn l.2.toList →
      Invocation.ofLine? l.1 l.2 = none := by
  have hannounced : ∀ {verb : String} {base dir cwd : Path} {text : String},
      Directory.Announces fs verb base dir text → Invocation.ofLine? cwd text = none := by
    intro verb base dir cwd text hann
    rcases hann with ⟨name, hline, -⟩
    exact Directory.Announcement.ofLine?_of_isLine hline cwd
  induction h with
  | nil base =>
      intro l hl
      exact absurd hl List.not_mem_nil
  | line hnone _ ih =>
      intro l hl a ha
      rcases List.mem_cons.1 hl with rfl | hl
      · exact absurd ha (hnone a)
      · exact ih l hl a ha
  | inside henter _ hleave _ ihInner ihRest =>
      intro l hl a ha
      rcases List.mem_append.1 hl with hl | hl
      · rcases List.mem_cons.1 hl with rfl | hl
        · exact hannounced henter
        · exact ihInner l hl a ha
      · rcases List.mem_cons.1 hl with rfl | hl
        · exact hannounced hleave
        · exact ihRest l hl a ha

/-- **A session follows a nested log.** However the output arrives, if its lines are nested it is
followed to the end, back to the directories where it began; each line is offered in the innermost
directory open at it, and so are the commands delivered from them; nothing that is announced is
taken for a command, and nothing that is followed is unexpected. -/
theorem BuildProgress.takeAll_of_nestedLog {fs : FileSystem} {stack : Directory.Stack}
    {log : List (Path × String)} {chunks : List OutputChunk} (extra : List String)
    (aliases : PchOrigins) (hlines : completeLines (outputOf chunks) = log.map Prod.snd)
    (hnested : NestedLog fs stack.top log) :
    let start : BuildProgress := { dispatcher := { stack := stack, aliases := aliases } }
    let run := start.takeAll fs Invocation.ofLine? extra chunks
    run.2.1 = none ∧
      run.2.2.dispatcher.stack = stack ∧
      run.1 = log.map (offerOf extra) ∧
      (∀ l ∈ log, ∀ i, (offerOf extra l).invocation = some i → i.workingDirectory = l.1) ∧
      (∀ l ∈ log, ∀ a : Directory.Announcement, a.IsIn l.2.toList →
        (offerOf extra l).invocation = none) ∧
      ∀ ev ∈ start.dispatcher.events fs Invocation.ofLine? extra (log.map Prod.snd),
        ev.isUnexpected = false := by
  intro start run
  have hfollows : Follows fs extra start.dispatcher log stack := hnested.follows _ rfl
  -- The pieces are read as the log, and the log is followed to the end.
  have hread : logOf (start.takeChunks fs Invocation.ofLine? extra chunks) =
      start.dispatcher.readLog fs Invocation.ofLine? extra (log.map Prod.snd) := by
    have hempty : lineFeed ∉ start.buffer.data := by simp [start]
    rw [log_takeChunks chunks start hempty, ← hlines]
    rfl
  have hrun : run = (log.map (offerOf extra), none, run.2.2) ∧
      run.2.2.dispatcher.stack = stack := by
    rcases hchunks : start.takeChunks fs Invocation.ofLine? extra chunks with ⟨offers, fault, s⟩
    rw [hchunks] at hread
    have hoffers : offers = log.map (offerOf extra) :=
      (congrArg LogReading.offers hread).trans hfollows.offers
    have hfault : fault = none := (congrArg LogReading.fault hread).trans hfollows.fault
    have hstack : s.dispatcher.stack = stack :=
      (congrArg (fun r => r.dispatcher.stack) hread).trans hfollows.stack
    subst hfault hoffers
    have hall : run = (log.map (offerOf extra), none, s.closeOutput) := by
      simp only [run, takeAll, hchunks]
    exact ⟨by rw [hall], by rw [hall]; exact hstack⟩
  refine ⟨congrArg (fun r => r.2.1) hrun.1, hrun.2, congrArg Prod.fst hrun.1, ?_, ?_,
    hfollows.expected⟩
  · intro l _ i hi
    exact workingDirectory_offerOf hi
  · intro l hl a ha
    simp only [offerOf, hnested.ofLine?_of_isIn l hl a ha, Option.map_none]

/-! ### A log of two directories -/

/-- A directory with a library in it. -/
def libTree : FileSystem :=
  { nodes := [(["src"], ⟨.directory, 0⟩), (["src", "lib"], ⟨.directory, 0⟩)] }

/-- What `make` prints about the library; it is left by another name than it was entered by. -/
def libLog : List (Path × String) :=
  [(⟨"/src"⟩, "make: Entering directory 'lib'"), (⟨"/src/lib"⟩, "cc -c a.c"),
    (⟨"/src/lib"⟩, "make: Leaving directory '/src/lib'")]

/-- The log as it arrives, one line at a time. -/
def libOutput : List OutputChunk :=
  libLog.map fun l => .output (Text.bytes l.2 ++ [lineFeed])

theorem realPath_libTree {name : String}
    (hname : Path.join ⟨"/src"⟩ ⟨name⟩ = Place.toPath ["src", "lib"]) :
    libTree.realPath (Path.join ⟨"/src"⟩ ⟨name⟩) = .ok ⟨"/src/lib"⟩ := by
  have hnode : libTree.node? ["src", "lib"] = some ⟨.directory, 0⟩ := by decide
  rw [hname, FileSystem.realPath_toPath (by decide) (by decide) (by decide) hnode]
  rfl

theorem announces_lib {verb text : String} (name : String)
    (hline : text.toList = "make".toList ++ ": ".toList ++ verb.toList ++ " directory ".toList ++
      '\'' :: name.toList ++ ['\''])
    (hname : name ≠ "" ∧ '\'' ∉ name.toList)
    (hdir : libTree.realPath (Path.join ⟨"/src"⟩ ⟨name⟩) = .ok ⟨"/src/lib"⟩) :
    Directory.Announces libTree verb ⟨"/src"⟩ ⟨"/src/lib"⟩ text :=
  ⟨name, ⟨_, '\'', .outermost, rfl, hline⟩, hname.1, hname.2, hdir⟩

theorem nestedLog_libLog : NestedLog libTree ⟨"/src"⟩ libLog := by
  have hnone : ∀ a : Directory.Announcement, ¬ a.IsIn "cc -c a.c".toList := by
    intro a ha
    exact absurd (Directory.Announcement.mem_of_isIn ha) (by decide)
  exact .inside
    (announces_lib "lib" (by decide) ⟨by decide, by decide⟩ (realPath_libTree (by decide)))
    (.line hnone (.nil _))
    (announces_lib "/src/lib" (by decide) ⟨by decide, by decide⟩ (realPath_libTree (by decide)))
    (.nil _)

theorem BuildProgress.takeAll_libOutput :
    completeLines (outputOf libOutput) = libLog.map Prod.snd ∧
      NestedLog libTree ⟨"/src"⟩ libLog ∧
      let start : BuildProgress := { dispatcher := { stack := { root := ⟨"/src"⟩ } } }
      (start.takeAll libTree Invocation.ofLine? [] libOutput).1 = libLog.map (offerOf []) := by
  have hlines : completeLines (outputOf libOutput) = libLog.map Prod.snd := by decide +kernel
  have hrun := @takeAll_of_nestedLog libTree { root := ⟨"/src"⟩ } libLog libOutput [] {} hlines
    nestedLog_libLog
  rcases hrun with ⟨-, -, hoffers, -⟩
  exact ⟨hlines, nestedLog_libLog, hoffers⟩

end BuildTrace
