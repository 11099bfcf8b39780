import BuildTrace.Proofs.Build.Following

/-!
# Calls — what a builder tells over all the runs it is asked for

A builder can be asked for a run again and again, with whatever build file, files and processes
there are by then:

* `Builder.calls` — a history of calls on one builder;
* `CallRecord.Rejected`, `NoMakefile`, `NotStarted`, `Ran` — the four kinds of call, each with all
  it does;
* `Builder.call_kinds` — every call is of one of them;
* `Builder.calls_history` — calls that fail, then at most one that runs, then calls that are
  rejected; and what is told over all of them.
-/

namespace BuildTrace

/-! ## A history of calls -/

/-- A call for a run: the files as they are by then, which starts the system refuses, what is asked
for, and what the process does if one is started. -/
structure BuildCall where
  files : FileSystem
  refusal? : FileSystem → Launch → Option SystemError
  makefile : Path
  args : List String
  script : ProcessScript

/-- A call that was made, and what came of it. -/
structure CallRecord where
  call : BuildCall
  before : Builder
  report : RunReport
  after : Builder
  files : FileSystem

namespace Builder

/-- Makes a call. -/
def call (recognise : Recogniser) (b : Builder) (c : BuildCall) : CallRecord :=
  let (report, after, files) :=
    b.runWith c.files recognise c.refusal? c.makefile c.args c.script
  { call := c, before := b, report := report, after := after, files := files }

/-- Makes one call after the other. -/
def calls (recognise : Recogniser) (b : Builder) : List BuildCall → List CallRecord
  | [] => []
  | c :: rest =>
    let r := b.call recognise c
    r :: r.after.calls recognise rest

end Builder

/-- All that those who watch are told over a history. -/
def eventsOf (history : List CallRecord) : List BuildEvent :=
  history.flatMap fun r => r.report.events

theorem eventsOf_cons (r : CallRecord) (history : List CallRecord) :
    eventsOf (r :: history) = r.report.events ++ eventsOf history := by
  rw [eventsOf, List.flatMap_cons, eventsOf]

theorem eventsOf_append (earlier later : List CallRecord) :
    eventsOf (earlier ++ later) = eventsOf earlier ++ eventsOf later := by
  rw [eventsOf, List.flatMap_append, eventsOf, eventsOf]

/-! ## The kinds of call -/

namespace CallRecord

/-- A call that changes nothing and of which nobody is told. -/
structure Untouched (r : CallRecord) : Prop where
  silent : r.report.events = []
  builder : r.after = r.before
  files : r.files = r.call.files

/-- A call that comes after a run. -/
structure Rejected (r : CallRecord) : Prop extends r.Untouched where
  result : r.report.result = .error .alreadyRun

/-- A call whose build file is not there. -/
structure NoMakefile (r : CallRecord) : Prop extends r.Untouched where
  missing : ∃ path cause,
    Builder.findMakefile r.call.files r.call.makefile = .error (.noMakefile path cause) ∧
    r.report.result = .error (.noMakefile path cause)

/-- A call whose program the system refuses to start. The old log of the loaded library is gone by
then, and the build file is noted; that is all. -/
structure NotStarted (r : CallRecord) : Prop where
  idle : r.after.session = none
  files : r.files = r.call.files.unlink r.before.settings.make.shimLog
  refused : ∃ found directory cause,
    Builder.findMakefile r.call.files r.call.makefile = .ok (found, directory) ∧
    r.call.refusal? r.files (r.before.launch found directory r.call.args) = some cause ∧
    r.after = { r.before with makefile := some found } ∧
    r.report.result = .error (.noStart r.before.settings.make.program cause) ∧
    r.report.events = [.failed (.noStart r.before.settings.make.program cause)]

/-- A call that starts the program, where the build file `found` is in `directory`. Whatever comes
of it, the session stays. The commands that the output delivers are told one by one, and then once
what the run came to: its outcome, or why there is none. -/
structure Ran (recognise : Recogniser) (r : CallRecord) (found directory : Path)
    (log : LogReading) : Prop where
  starts : Builder.Starts r.call.files r.call.refusal? r.call.makefile r.call.args r.before found
    directory
  files : r.files = r.call.files.unlink r.before.settings.make.shimLog
  reads : r.before.scriptLog r.files recognise directory r.call.script = log
  kept : ∃ session, r.after =
    { r.before with
      makefile := some found
      session := some session
      aliases := session.dispatcher.aliases }
  delivers : r.report.invocations = log.delivered
  toldDone : ∀ outcome, r.report.result = .ok outcome →
    r.report.events = r.report.invocations.map .invocation ++ [.done outcome]
  toldFailed : ∀ e, r.report.result = .error e →
    r.report.events = r.report.invocations.map .invocation ++ [.failed e]
  /-- Whatever the exit code, there is an outcome unless a line is lost or something breaks down. -/
  ends : (∃ outcome, r.report.result = .ok outcome) ↔
    log.fault = none ∧ r.call.script.breakdown = none
  reports : ∀ outcome, r.report.result = .ok outcome →
    outcome.exitCode = r.call.script.ending.code? ∧
    outcome.success = r.call.script.ending.success ∧
    outcome.sourceCount = log.delivered.countP (!·.makesPch) ∧
    outcome.pchCount = log.delivered.countP (·.makesPch)
  brokeOff : ∀ e, r.report.result = .error e →
    (∃ fault, log.fault = some fault ∧ e = .lostDirectory fault) ∨
    ∃ broken, (log.fault = none ∧ r.call.script.breakdown = some broken) ∧
      e = .brokenOutput broken.cause

end CallRecord

namespace Builder

variable {recognise : Recogniser} {b : Builder} {c : BuildCall}

/-! ## Every call is of one kind -/

theorem invocations_startedReport (launch : Launch) (offers : List Offer)
    (result : Except BuildError BuildOutcome) :
    (startedReport launch offers result).invocations = offers.filterMap Offer.invocation := by
  have hlast : BuildEvent.invocation? (lastEvent result) = none := by
    cases result with
    | ok outcome => rfl
    | error e => rfl
  have htold : BuildEvent.invocation? ∘ BuildEvent.invocation = some := rfl
  simp only [RunReport.invocations, startedReport, List.filterMap_append, List.filterMap_map, htold,
    List.filterMap_some, List.filterMap_cons, hlast, List.filterMap_nil, List.append_nil]

theorem events_startedReport (launch : Launch) (offers : List Offer)
    (result : Except BuildError BuildOutcome) :
    (startedReport launch offers result).events =
      (startedReport launch offers result).invocations.map .invocation ++ [lastEvent result] := by
  rw [invocations_startedReport, startedReport]

/-- The counts of an outcome are those of the commands that the output delivers. -/
theorem counts_scriptOutcome (fs : FileSystem) (b : Builder) (directory : Path)
    (p : ProcessScript) :
    let log := b.scriptLog fs recognise directory p
    (scriptOutcome log p).sourceCount = log.delivered.countP (!·.makesPch) ∧
      (scriptOutcome log p).pchCount = log.delivered.countP (·.makesPch) := by
  intro log
  have hcounts := @Dispatcher.counts_readLog fs recognise b.settings.extraFlags
    (completeLines (outputOf p.chunks)) (b.openSession directory).dispatcher
  -- A session starts with nothing counted.
  simp only [openSession, Nat.zero_add] at hcounts
  exact hcounts

theorem call_of_starts {found directory : Path} {offers : List Offer}
    {result : Except BuildError BuildOutcome} {s : BuildProgress}
    (hstarts : Starts c.files c.refusal? c.makefile c.args b found directory)
    (hfollow : b.follow (c.files.unlink b.settings.make.shimLog) recognise directory c.script =
      (offers, result, s)) :
    b.call recognise c =
      { call := c
        before := b
        report := startedReport (b.launch found directory c.args) offers result
        after := (b.noteMakefile found).keepSession s
        files := c.files.unlink b.settings.make.shimLog } := by
  rw [call, runWith_of_starts hstarts hfollow]

/-- A call that starts the program runs it. -/
theorem ran_of_starts {found directory : Path}
    (hstarts : Starts c.files c.refusal? c.makefile c.args b found directory) :
    let log := b.scriptLog (c.files.unlink b.settings.make.shimLog) recognise directory c.script
    (b.call recognise c).Ran recognise found directory log := by
  intro log
  rcases hfollow : b.follow (c.files.unlink b.settings.make.shimLog) recognise directory c.script
    with ⟨offers, result, s⟩
  rcases of_follow rfl hfollow with ⟨hoffers, hresult, -⟩
  rw [call_of_starts hstarts hfollow, hoffers, hresult]
  exact
    { starts := hstarts
      files := rfl
      reads := rfl
      kept := ⟨s, rfl⟩
      delivers := invocations_startedReport ..
      toldDone := fun outcome hok => by
        rw [events_startedReport]
        exact congrArg (_ ++ [lastEvent ·]) hok
      toldFailed := fun e herror => by
        rw [events_startedReport]
        exact congrArg (_ ++ [lastEvent ·]) herror
      ends := exists_scriptResult_eq_ok_iff
      reports := fun outcome hok => by
        rw [(scriptResult_eq_ok_iff.1 hok).2]
        exact ⟨rfl, rfl, counts_scriptOutcome ..⟩
      brokeOff := fun e => scriptResult_eq_error_iff.1 }

variable (recognise) in
/-- Every call is of one kind: a call after a run is rejected, and any other fails before the
program is there, or starts it. -/
theorem call_kinds (b : Builder) (c : BuildCall) :
    let r := b.call recognise c
    (b.session.isSome ∧ r.Rejected) ∨
      (b.session = none ∧ (r.NoMakefile ∨ r.NotStarted)) ∨
      ∃ found directory, Starts c.files c.refusal? c.makefile c.args b found directory := by
  intro r
  have houtcome := @runOutcome c.files recognise c.refusal? c.makefile c.args b c.script
  have hr : r = b.call recognise c := rfl
  clear_value r
  rw [call] at hr
  generalize b.runWith c.files recognise c.refusal? c.makefile c.args c.script = run at houtcome hr
  subst hr
  cases houtcome with
  | alreadyRun hsession =>
      exact .inl ⟨hsession, { silent := rfl, builder := rfl, files := rfl, result := rfl }⟩
  | noMakefile hsession hfound =>
      refine .inr (.inl ⟨hsession, .inl ?_⟩)
      exact { silent := rfl, builder := rfl, files := rfl, missing := ⟨_, _, hfound, rfl⟩ }
  | noStart hsession hfound hrefused =>
      refine .inr (.inl ⟨hsession, .inr ?_⟩)
      exact
        { idle := hsession
          files := rfl
          refused := ⟨_, _, _, hfound, hrefused, rfl, rfl, rfl⟩ }
  | started hstarts hfollow => exact .inr (.inr ⟨_, _, hstarts⟩)

/-- A call that starts the program comes to the same whatever build file was noted before. -/
theorem call_of_noted {found directory : Path}
    (hstarts : Starts c.files c.refusal? c.makefile c.args b found directory)
    (noted : Option Path) :
    { b.call recognise c with before := { b with makefile := noted } } =
      { b with makefile := noted }.call recognise c := by
  rcases hfollow : b.follow (c.files.unlink b.settings.make.shimLog) recognise directory c.script
    with ⟨offers, result, s⟩
  have hstarts' : Starts c.files c.refusal? c.makefile c.args { b with makefile := noted } found
    directory := ⟨hstarts.unused, hstarts.finds, hstarts.allowed⟩
  rw [call_of_starts hstarts hfollow, call_of_starts hstarts' hfollow]
  rfl

/-! ## Every history -/

/-- Once a run has been made every call is rejected, and the builder stays as it is. -/
theorem rejected_of_session (hsession : b.session.isSome) : ∀ (calls : List BuildCall),
    ∀ r ∈ b.calls recognise calls, r.Rejected ∧ r.after = b := by
  intro calls
  induction calls with
  | nil =>
      intro r hr
      cases hr
  | cons c rest ih =>
      have hrejected : (b.call recognise c).Rejected := by
        rcases call_kinds recognise b c with ⟨-, h⟩ | ⟨hnone, -⟩ | ⟨found, directory, hstarts⟩
        · exact h
        · simp [hnone] at hsession
        · simp [hstarts.unused] at hsession
      have hafter : (b.call recognise c).after = b := hrejected.builder
      rw [calls, hafter]
      intro r hr
      cases hr with
      | head => exact ⟨hrejected, hafter⟩
      | tail _ hr => exact ih r hr

variable (recognise) in
/-- A history in which the program is run once at most. -/
structure RunsOnce (start : Builder) (history failed : List CallRecord) (ran : Option CallRecord)
    (rejected : List CallRecord) : Prop where
  split : history = failed ++ ran.toList ++ rejected
  fails : ∀ r ∈ failed, r.NoMakefile ∨ r.NotStarted
  /-- The call that runs comes to what it would have come to as the first. -/
  runs : ∀ r ∈ ran, (∃ found directory log, r.Ran recognise found directory log) ∧
    { r with before := start } = start.call recognise r.call
  rejects : ∀ r ∈ rejected, r.Rejected ∧ ∃ first ∈ ran, r.after = first.after

theorem RunsOnce.cons {start : Builder} {r : CallRecord} {history failed rejected : List CallRecord}
    {ran : Option CallRecord} (hr : r.NoMakefile ∨ r.NotStarted)
    (h : RunsOnce recognise start history failed ran rejected) :
    RunsOnce recognise start (r :: history) (r :: failed) ran rejected where
  split := congrArg (r :: ·) h.split
  fails := List.forall_mem_cons.2 ⟨hr, h.fails⟩
  runs := h.runs
  rejects := h.rejects

theorem exists_runsOnce {start : Builder} (hstart : start.session = none) :
    ∀ (calls : List BuildCall) (noted : Option Path), ∃ failed ran rejected,
      RunsOnce recognise start ({ start with makefile := noted }.calls recognise calls) failed ran
        rejected := by
  intro calls
  induction calls with
  | nil =>
      intro noted
      exact ⟨[], none, [], ⟨rfl, by simp, by simp, by simp⟩⟩
  | cons c rest ih =>
      intro noted
      rw [Builder.calls]
      rcases call_kinds recognise { start with makefile := noted } c with
        ⟨hsession, -⟩ | ⟨-, hfailed⟩ | ⟨found, directory, hstarts⟩
      · simp [hstart] at hsession
      · -- A call that fails leaves at most another build file noted; the rest goes on from there.
        have hafter : ∃ noted', ({ start with makefile := noted }.call recognise c).after =
            { start with makefile := noted' } := by
          rcases hfailed with hmissing | hrefused
          · exact ⟨noted, hmissing.builder⟩
          · rcases hrefused.refused with ⟨found, -, -, -, -, hafter, -⟩
            exact ⟨some found, hafter⟩
        rcases hafter with ⟨noted', hafter⟩
        rcases ih noted' with ⟨failed, ran, rejected, hrest⟩
        rw [hafter]
        exact ⟨_ :: failed, ran, rejected, hrest.cons hfailed⟩
      · -- The run; its session stays, and with it the builder.
        have hran := @ran_of_starts recognise _ c found directory hstarts
        have hsession :
            ({ start with makefile := noted }.call recognise c).after.session.isSome := by
          rcases hran.kept with ⟨s, hafter⟩
          rw [hafter]
          rfl
        refine ⟨[], some _, _, ⟨rfl, by simp, ?_, ?_⟩⟩
        · intro r hr
          cases hr
          exact ⟨⟨found, directory, _, hran⟩, call_of_noted hstarts start.makefile⟩
        · intro r hr
          rcases rejected_of_session hsession rest r hr with ⟨hrejected, hafter⟩
          exact ⟨hrejected, _, rfl, hafter⟩

/-- Calls that fail tell of the programs that could not be started, and of nothing else. -/
theorem eventsOf_failed : ∀ (failed : List CallRecord),
    (∀ r ∈ failed, r.NoMakefile ∨ r.NotStarted) →
      ∃ errors : List BuildError, (∀ e ∈ errors, ∃ program cause, e = .noStart program cause) ∧
        eventsOf failed = errors.map .failed := by
  intro failed
  induction failed with
  | nil =>
      intro _
      exact ⟨[], by simp, rfl⟩
  | cons r rest ih =>
      intro hkinds
      rcases List.forall_mem_cons.1 hkinds with ⟨hr, hrest⟩
      rcases ih hrest with ⟨errors, herrors, htold⟩
      rcases hr with hmissing | hrefused
      · refine ⟨errors, herrors, ?_⟩
        rw [eventsOf_cons, hmissing.silent, htold, List.nil_append]
      · rcases hrefused.refused with ⟨-, -, cause, -, -, -, -, hevents⟩
        refine ⟨.noStart r.before.settings.make.program cause :: errors,
          List.forall_mem_cons.2 ⟨⟨_, cause, rfl⟩, herrors⟩, ?_⟩
        rw [eventsOf_cons, hevents, htold]
        rfl

/-- **A builder runs its program once, and tells of it once.** Whatever calls are made: first come
calls that fail before the program is there and leave no session; then at most one that runs, with
nothing left of those before; then calls that are rejected and touch nothing, also after a run that
broke off. What is told is each refused start and then, if a call runs, the commands it delivers and
one event more: its outcome if it has one, and why it has none otherwise. -/
theorem calls_history (recognise : Recogniser) (settings : Settings) (aliases : PchOrigins)
    (calls : List BuildCall) :
    let start : Builder := { settings := settings, aliases := aliases }
    let history := start.calls recognise calls
    ∃ failed ran rejected, RunsOnce recognise start history failed ran rejected ∧
      ∃ errors : List BuildError, (∀ e ∈ errors, ∃ program cause, e = .noStart program cause) ∧
        ∃ told, eventsOf history = errors.map .failed ++ told ∧
          (ran = none → told = []) ∧
          ∀ r ∈ ran,
            (∀ outcome, r.report.result = .ok outcome →
              told = r.report.invocations.map .invocation ++ [.done outcome]) ∧
            (∀ e, r.report.result = .error e →
              told = r.report.invocations.map .invocation ++ [.failed e]) := by
  intro start history
  have hexists : ∃ failed ran rejected, RunsOnce recognise start history failed ran rejected :=
    exists_runsOnce rfl calls none
  rcases hexists with ⟨failed, ran, rejected, honce⟩
  rcases eventsOf_failed failed honce.fails with ⟨errors, herrors, htold⟩
  have hsilent : eventsOf rejected = [] :=
    List.flatMap_eq_nil_iff.2 fun r hr => (honce.rejects r hr).1.silent
  have hevents : eventsOf history = errors.map .failed ++ eventsOf ran.toList := by
    rw [honce.split, eventsOf_append, eventsOf_append, hsilent, htold, List.append_nil]
  refine ⟨failed, ran, rejected, honce, errors, herrors, eventsOf ran.toList, hevents, ?_, ?_⟩
  · rintro rfl
    rfl
  · rintro r hr
    rcases (honce.runs r hr).1 with ⟨found, directory, log, hran⟩
    have hone : eventsOf ran.toList = r.report.events := by
      rw [Option.mem_def.1 hr, Option.toList_some, eventsOf_cons]
      exact List.append_nil _
    rw [hone]
    exact ⟨hran.toldDone, hran.toldFailed⟩

end Builder
end BuildTrace
