import BuildTrace.Build.Run
import BuildTrace.Proofs.Build.Interleaving

/-!
# Following — what a run comes to

A run is given here by what its process prints on the two streams and how it ends, without the
pieces in which it all arrives:

* `Builder.scriptLog`, `scriptResult` — what the output of a process says, and what that makes of
  the run;
* `Builder.follow_of_followed`, `follow_of_lost` — what following a process comes to;
* `Builder.RunOutcome` — all that one run can come to;
* `Builder.runWith_of_streams` — nothing of a run depends on how the two streams are mixed.
-/

namespace BuildTrace

/-! ## What a process comes to -/

namespace ProcessScript

/-- The output that waits for the end of its line once nothing more is read. -/
def waiting (p : ProcessScript) : LineReader :=
  match p.breakdown with
  | some (.output _) => { data := unfinishedLine (outputOf p.chunks) }
  | some (.ending _) | none => {}

/-- The end of a process that is given up, unless it cannot be learnt. -/
def exitIfLost (p : ProcessScript) : Option ExitStatus :=
  match p.breakdown with
  | some (.ending _) => none
  | some (.output _) | none => some (if p.lingers then .killed else p.ending)

end ProcessScript

namespace Builder

variable (fs : FileSystem) (recognise : Recogniser)

/-- What the output of a process says, as a log that is read in `directory`. -/
def scriptLog (b : Builder) (directory : Path) (p : ProcessScript) : LogReading :=
  (b.openSession directory).dispatcher.readLog fs recognise b.settings.extraFlags
    (completeLines (outputOf p.chunks))

/-- The outcome of a process that is followed to its end. -/
def scriptOutcome (log : LogReading) (p : ProcessScript) : BuildOutcome :=
  { exitCode := p.ending.code?
    success := p.ending.success
    sourceCount := log.dispatcher.sourceCount
    pchCount := log.dispatcher.pchCount
    stderr := Text.ofBytesLossy (lastItems errorLimit (errorsOf p.chunks)) }

/-- What a run comes to whose process says `log`: it is broken off at a line that cannot be
followed, or where something breaks down, or has an outcome. -/
def scriptResult (log : LogReading) (p : ProcessScript) : Except BuildError BuildOutcome :=
  match log.fault, p.breakdown with
  | some fault, _ => .error (.lostDirectory fault)
  | none, some broken => .error (.brokenOutput broken.cause)
  | none, none => .ok (scriptOutcome log p)

variable {fs recognise} {b : Builder} {directory : Path} {p : ProcessScript} {log : LogReading}

theorem scriptResult_eq_ok_iff {outcome : BuildOutcome} :
    scriptResult log p = .ok outcome ↔
      (log.fault = none ∧ p.breakdown = none) ∧ outcome = scriptOutcome log p := by
  unfold scriptResult
  cases log.fault with
  | some fault => simp
  | none =>
      cases p.breakdown with
      | some broken => simp
      | none => simp [eq_comm]

theorem exists_scriptResult_eq_ok_iff :
    (∃ outcome, scriptResult log p = .ok outcome) ↔ log.fault = none ∧ p.breakdown = none := by
  constructor
  · rintro ⟨outcome, hok⟩
    exact (scriptResult_eq_ok_iff.1 hok).1
  · intro h
    exact ⟨_, scriptResult_eq_ok_iff.2 ⟨h, rfl⟩⟩

theorem scriptResult_eq_error_iff {e : BuildError} :
    scriptResult log p = .error e ↔
      (∃ fault, log.fault = some fault ∧ e = .lostDirectory fault) ∨
        ∃ broken, (log.fault = none ∧ p.breakdown = some broken) ∧
          e = .brokenOutput broken.cause := by
  unfold scriptResult
  cases log.fault with
  | some fault => simp [eq_comm]
  | none =>
      cases p.breakdown with
      | some broken => simp [eq_comm]
      | none => simp

theorem takeScript_of_followed (hlog : b.scriptLog fs recognise directory p = log)
    (hnone : log.fault = none) :
    (b.openSession directory).takeScript fs recognise b.settings.extraFlags p =
      (log.offers, none,
        { dispatcher := log.dispatcher
          buffer := p.waiting
          errors := lastItems errorLimit (errorsOf p.chunks) }) := by
  have htaken := @BuildProgress.takeChunks_of_followed fs recognise b.settings.extraFlags
    (b.openSession directory) p.chunks log List.not_mem_nil (Nat.zero_le _) hlog hnone
  unfold BuildProgress.takeScript ProcessScript.waiting
  cases p.breakdown with
  | none =>
      rw [BuildProgress.takeAll, htaken]
      rfl
  | some broken =>
      cases broken with
      | output cause => exact htaken
      | ending cause =>
          rw [BuildProgress.takeAll, htaken]
          rfl

theorem takeScript_of_lost {e : Directory.Fault}
    (hlog : b.scriptLog fs recognise directory p = log) (hlost : log.fault = some e) :
    ∃ s, (b.openSession directory).takeScript fs recognise b.settings.extraFlags p =
        (log.offers, some e, s) ∧ s.dispatcher = log.dispatcher ∧ s.exit = none := by
  have htaken := @BuildProgress.takeChunks_of_lost fs recognise b.settings.extraFlags
    (b.openSession directory) p.chunks log e List.not_mem_nil hlog hlost
  rcases htaken with ⟨s, hrun, hdispatcher, hexit⟩
  refine ⟨s, ?_, hdispatcher, hexit⟩
  -- A line that cannot be followed ends the run, whatever would have broken down later.
  unfold BuildProgress.takeScript
  cases p.breakdown with
  | none => rw [BuildProgress.takeAll, hrun]
  | some broken =>
      cases broken with
      | output cause => exact hrun
      | ending cause => rw [BuildProgress.takeAll, hrun]

/-- What following a process comes to if every line can be followed. -/
theorem follow_of_followed (hlog : b.scriptLog fs recognise directory p = log)
    (hnone : log.fault = none) :
    b.follow fs recognise directory p =
      (log.offers, scriptResult log p,
        { dispatcher := log.dispatcher
          buffer := p.waiting
          errors := lastItems errorLimit (errorsOf p.chunks)
          exit := match p.breakdown with
            | some _ => none
            | none => some p.ending }) := by
  rw [follow, takeScript_of_followed hlog hnone, scriptResult, hnone]
  cases p.breakdown with
  | none => rfl
  | some broken => rfl

/-- What following a process comes to if a line cannot be followed. -/
theorem follow_of_lost {e : Directory.Fault}
    (hlog : b.scriptLog fs recognise directory p = log) (hlost : log.fault = some e) :
    ∃ s, b.follow fs recognise directory p = (log.offers, .error (.lostDirectory e), s) ∧
      s.dispatcher = log.dispatcher ∧ s.exit = p.exitIfLost := by
  rcases takeScript_of_lost hlog hlost with ⟨s, hrun, hdispatcher, hexit⟩
  rw [follow, hrun]
  unfold ProcessScript.exitIfLost
  cases p.breakdown with
  | none => exact ⟨_, rfl, hdispatcher, rfl⟩
  | some broken =>
      cases broken with
      | output cause => exact ⟨_, rfl, hdispatcher, rfl⟩
      | ending cause => exact ⟨s, rfl, hdispatcher, hexit⟩

/-- What following a process comes to is what its output says. -/
theorem of_follow {offers : List Offer} {result : Except BuildError BuildOutcome}
    {s : BuildProgress} (hlog : b.scriptLog fs recognise directory p = log)
    (h : b.follow fs recognise directory p = (offers, result, s)) :
    offers = log.offers ∧ result = scriptResult log p ∧ s.dispatcher = log.dispatcher := by
  cases hfault : log.fault with
  | some e =>
      rcases follow_of_lost hlog hfault with ⟨s', hlost, hdispatcher, -⟩
      rw [hlost] at h
      cases h
      exact ⟨rfl, by rw [scriptResult, hfault], hdispatcher⟩
  | none =>
      rw [follow_of_followed hlog hfault] at h
      cases h
      exact ⟨rfl, rfl, rfl⟩

/-! ### The same streams in other pieces -/

section Pieces

variable {chunks : List OutputChunk}

theorem scriptLog_of_output (hout : outputOf chunks = outputOf p.chunks)
    (hlog : b.scriptLog fs recognise directory p = log) :
    b.scriptLog fs recognise directory { p with chunks := chunks } = log := by
  simpa only [scriptLog, hout] using hlog

/-- If every line can be followed, the two streams say all. -/
theorem follow_congr (hnone : (b.scriptLog fs recognise directory p).fault = none)
    (hout : outputOf chunks = outputOf p.chunks) (herr : errorsOf chunks = errorsOf p.chunks) :
    b.follow fs recognise directory { p with chunks := chunks } =
      b.follow fs recognise directory p := by
  rw [follow_of_followed (scriptLog_of_output hout rfl) hnone, follow_of_followed rfl hnone]
  simp only [scriptResult, scriptOutcome, ProcessScript.waiting, hout, herr]

/-- If a line cannot be followed, the output alone says where the session stands; only what waits
behind the line, and what was kept of the errors, may differ. -/
theorem follow_lost_congr {offers : List Offer} {e : Directory.Fault} {s : BuildProgress}
    (hfollow : b.follow fs recognise directory p = (offers, .error (.lostDirectory e), s))
    (hout : outputOf chunks = outputOf p.chunks) :
    ∃ s', b.follow fs recognise directory { p with chunks := chunks } =
        (offers, .error (.lostDirectory e), s') ∧
      s'.dispatcher = s.dispatcher ∧ s'.exit = s.exit := by
  have hfault : (b.scriptLog fs recognise directory p).fault = some e := by
    rcases scriptResult_eq_error_iff.1 (of_follow rfl hfollow).2.1.symm with
      ⟨fault, hfault, he⟩ | ⟨broken, -, he⟩
    · cases he
      exact hfault
    · cases he
  rcases follow_of_lost rfl hfault with ⟨s₀, hfollow₀, hdispatcher₀, hexit₀⟩
  rcases follow_of_lost (scriptLog_of_output hout rfl) hfault with
    ⟨s', hfollow', hdispatcher', hexit'⟩
  have hsame := hfollow.symm.trans hfollow₀
  simp only [Prod.mk.injEq, true_and] at hsame
  rcases hsame with ⟨rfl, rfl⟩
  exact ⟨s', hfollow', hdispatcher'.trans hdispatcher₀.symm, hexit'.trans hexit₀.symm⟩

end Pieces

/-! ## What a run comes to -/

section Runs

variable (fs : FileSystem) (recognise : Recogniser)
  (refusal? : FileSystem → Launch → Option SystemError) (makefile : Path) (args : List String)

/-- A run gets as far as starting its program, on the build file `found` in `directory`. -/
structure Starts (b : Builder) (found directory : Path) : Prop where
  unused : b.session = none
  finds : findMakefile fs makefile = .ok (found, directory)
  allowed : refusal? (fs.unlink b.settings.make.shimLog) (b.launch found directory args) = none

/-- All that one run can come to. -/
inductive RunOutcome (b : Builder) (p : ProcessScript) :
    RunReport × Builder × FileSystem → Prop where
  /-- A run has been made before. -/
  | alreadyRun : b.session.isSome → RunOutcome b p ({ result := .error .alreadyRun }, b, fs)
  /-- There is no build file. -/
  | noMakefile {path : Path} {cause : SystemError} : b.session = none →
      findMakefile fs makefile = .error (.noMakefile path cause) →
        RunOutcome b p ({ result := .error (.noMakefile path cause) }, b, fs)
  /-- The system refuses to start the program. -/
  | noStart {found directory : Path} {cause : SystemError} : b.session = none →
      findMakefile fs makefile = .ok (found, directory) →
      refusal? (fs.unlink b.settings.make.shimLog) (b.launch found directory args) = some cause →
        RunOutcome b p
          ({ result := .error (.noStart b.settings.make.program cause)
             events := [.failed (.noStart b.settings.make.program cause)] },
            b.noteMakefile found, fs.unlink b.settings.make.shimLog)
  /-- The program is started, and its process is followed. -/
  | started {found directory : Path} {offers : List Offer}
      {result : Except BuildError BuildOutcome} {s : BuildProgress} :
      Starts fs refusal? makefile args b found directory →
      b.follow (fs.unlink b.settings.make.shimLog) recognise directory p = (offers, result, s) →
        RunOutcome b p
          (startedReport (b.launch found directory args) offers result,
            (b.noteMakefile found).keepSession s, fs.unlink b.settings.make.shimLog)

variable {fs recognise refusal? makefile args}

theorem runWith_of_starts {found : Path} {offers : List Offer}
    {result : Except BuildError BuildOutcome} {s : BuildProgress}
    (hstarts : Starts fs refusal? makefile args b found directory)
    (hfollow : b.follow (fs.unlink b.settings.make.shimLog) recognise directory p =
      (offers, result, s)) :
    b.runWith fs recognise refusal? makefile args p =
      (startedReport (b.launch found directory args) offers result,
        (b.noteMakefile found).keepSession s, fs.unlink b.settings.make.shimLog) := by
  have hunused : b.session.isSome = false := by simp [hstarts.unused]
  simp only [runWith, hunused, hstarts.finds, launch_noteMakefile, hstarts.allowed,
    follow_noteMakefile, hfollow, Bool.false_eq_true, if_false]

theorem findMakefile_error {e : BuildError} (h : findMakefile fs makefile = .error e) :
    ∃ path cause, e = .noMakefile path cause := by
  unfold findMakefile at h
  split at h
  · exact ⟨_, _, (Except.error.inj h).symm⟩
  · split at h
    · cases h
    · exact ⟨_, _, (Except.error.inj h).symm⟩

theorem runOutcome (b : Builder) (p : ProcessScript) :
    RunOutcome fs recognise refusal? makefile args b p
      (b.runWith fs recognise refusal? makefile args p) := by
  -- What a run checks before it starts the program, in this order.
  cases hsession : b.session with
  | some s =>
      have hrun : b.runWith fs recognise refusal? makefile args p =
          ({ result := .error .alreadyRun }, b, fs) := by simp [runWith, hsession]
      rw [hrun]
      exact .alreadyRun (by simp [hsession])
  | none =>
      cases hfound : findMakefile fs makefile with
      | error e =>
          rcases findMakefile_error hfound with ⟨path, cause, rfl⟩
          have hrun : b.runWith fs recognise refusal? makefile args p =
              ({ result := .error (.noMakefile path cause) }, b, fs) := by
            simp [runWith, hsession, hfound]
          rw [hrun]
          exact .noMakefile hsession hfound
      | ok place =>
          rcases place with ⟨found, directory⟩
          cases hstart : refusal? (fs.unlink b.settings.make.shimLog)
              (b.launch found directory args) with
          | some cause =>
              have hrun : b.runWith fs recognise refusal? makefile args p =
                  ({ result := .error (.noStart b.settings.make.program cause)
                     events := [.failed (.noStart b.settings.make.program cause)] },
                    b.noteMakefile found, fs.unlink b.settings.make.shimLog) := by
                simp [runWith, hsession, hfound, hstart]
              rw [hrun]
              exact .noStart hsession hfound hstart
          | none =>
              rcases hfollow : b.follow (fs.unlink b.settings.make.shimLog) recognise directory p
                with ⟨offers, result, s⟩
              have hstarts : Starts fs refusal? makefile args b found directory :=
                ⟨hsession, hfound, hstart⟩
              rw [runWith_of_starts hstarts hfollow]
              exact .started hstarts hfollow

/-- Two processes that are followed alike are run alike. -/
theorem runWith_congr {p p' : ProcessScript}
    (h : ∀ found directory, Starts fs refusal? makefile args b found directory →
      b.follow (fs.unlink b.settings.make.shimLog) recognise directory p' =
        b.follow (fs.unlink b.settings.make.shimLog) recognise directory p) :
    b.runWith fs recognise refusal? makefile args p' =
      b.runWith fs recognise refusal? makefile args p := by
  have hrun : RunOutcome fs recognise refusal? makefile args b p _ := runOutcome b p
  generalize b.runWith fs recognise refusal? makefile args p = r at hrun ⊢
  cases hrun with
  | alreadyRun hsession => simp [runWith, hsession]
  | noMakefile hsession hfound => simp [runWith, hsession, hfound]
  | noStart hsession hfound hstart => simp [runWith, hsession, hfound, hstart]
  | started hstarts hfollow =>
      exact runWith_of_starts hstarts ((h _ _ hstarts).trans hfollow)

/-- **A run does not depend on the order in which its two streams are read.** If every line can be
followed, all of it is said by the bytes of the two streams, and the end of the errors that is kept
is that of all that were printed. If a line cannot be followed, the output alone says what is told
and offered, and where the build and its counts stand. What comes of a process that is started is
what its output says: there is an outcome unless a line is lost or something breaks down. -/
theorem runWith_of_streams (fs : FileSystem) (recognise : Recogniser)
    (refusal? : FileSystem → Launch → Option SystemError) (b : Builder) (makefile : Path)
    (args : List String) (p : ProcessScript) :
    let run (chunks : List OutputChunk) :=
      b.runWith fs recognise refusal? makefile args { p with chunks := chunks }
    let (report, after, files) := run p.chunks
    ((∀ e, report.result ≠ .error (.lostDirectory e)) →
      (∀ chunks, outputOf chunks = outputOf p.chunks → errorsOf chunks = errorsOf p.chunks →
        run chunks = (report, after, files)) ∧
      ∀ outcome, report.result = .ok outcome →
        ∃ kept, kept <:+ errorsOf p.chunks ∧
          kept.length = min (errorsOf p.chunks).length 65536 ∧
          outcome.stderr = Text.ofBytesLossy kept) ∧
    (∀ e, report.result = .error (.lostDirectory e) →
      ∀ chunks, outputOf chunks = outputOf p.chunks →
        ∃ after', run chunks = (report, after', files) ∧
          after'.aliases = after.aliases ∧ after'.makefile = after.makefile ∧
          after'.session.map BuildProgress.dispatcher = after.session.map BuildProgress.dispatcher ∧
          after'.hasEnded = after.hasEnded) ∧
    ∀ found directory, Starts fs refusal? makefile args b found directory →
      let log := b.scriptLog files recognise directory p
      report.offers = log.offers ∧ report.result = scriptResult log p := by
  intro run
  have houtcome : RunOutcome fs recognise refusal? makefile args b p (run p.chunks) :=
    runOutcome b p
  rcases hrun : run p.chunks with ⟨report, after, files⟩
  rw [hrun] at houtcome
  refine ⟨fun hnotLost => ⟨fun chunks hout herr => ?same, fun outcome hok => ?kept⟩,
    fun e hlost chunks hout => ?lost, fun found directory hstarts => ?reads⟩
  case same =>
    rw [← hrun]
    refine runWith_congr fun found directory hstarts => ?_
    cases hfault :
        (b.scriptLog (fs.unlink b.settings.make.shimLog) recognise directory p).fault with
    | some e =>
        -- Then the run would have been broken off.
        rcases follow_of_lost rfl hfault with ⟨s, hfollow, -⟩
        have hlost := hrun.symm.trans (runWith_of_starts hstarts hfollow)
        exact absurd (congrArg (fun r => r.1.result) hlost) (hnotLost e)
    | none => exact follow_congr hfault hout herr
  case kept =>
    cases houtcome with
    | alreadyRun => cases hok
    | noMakefile => cases hok
    | noStart => cases hok
    | @started found directory offers result s hstarts hfollow =>
        have hresult : result = .ok outcome := hok
        rw [hresult] at hfollow
        rcases scriptResult_eq_ok_iff.1 (of_follow rfl hfollow).2.1.symm with ⟨-, houtcome⟩
        refine ⟨lastItems errorLimit (errorsOf p.chunks), lastItems_suffix .., ?_, ?_⟩
        · rw [length_lastItems, errorLimit]
        · rw [houtcome, scriptOutcome]
  case lost =>
    cases houtcome with
    | alreadyRun => cases hlost
    | noMakefile => cases hlost
    | noStart => cases hlost
    | @started found directory offers result s hstarts hfollow =>
        have hresult : result = .error (.lostDirectory e) := hlost
        rw [hresult] at hfollow ⊢
        rcases follow_lost_congr hfollow hout with ⟨s', hfollow', hstands, hends⟩
        refine ⟨(b.noteMakefile found).keepSession s', runWith_of_starts hstarts hfollow', ?_, rfl,
          ?_, ?_⟩
        · exact congrArg Dispatcher.aliases hstands
        · exact congrArg some hstands
        · exact congrArg Option.isSome hends
  case reads =>
    rcases hfollow : b.follow (fs.unlink b.settings.make.shimLog) recognise directory p with
      ⟨offers, result, s⟩
    have hstarted := hrun.symm.trans (runWith_of_starts hstarts hfollow)
    cases hstarted
    rcases of_follow rfl hfollow with ⟨hoffers, hresult, -⟩
    exact ⟨hoffers, hresult⟩

end Runs

end Builder
end BuildTrace
