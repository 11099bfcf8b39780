import BuildTrace.Proofs.Build.Calls
import BuildTrace.Proofs.Row

/-!
# Origins — which header an artifact was made from

A builder learns where artifacts come from in two ways: it is told before a run, and it sees the
commands of the run itself. Of all that is recorded for an artifact, in any spelling, the last
counts:

* `recordedHeader?`, `Invocation.headerOf?` — what one record, or one command, says of an artifact;
* `PchOrigins.get?_foldl_set` — what many records say;
* `Dispatcher.get?_aliases_deliver`, `get?_aliases_readLog` — what a command adds, and what a log;
* `Dispatcher.aliases_of_line` — only a command that makes an artifact adds anything;
* `Builder.headersOf_runWith` — the headers that are known after a run.
-/

namespace BuildTrace

/-- What a record, an artifact and its header, says of an artifact. -/
def recordedHeader? (artifact : Path) (record : Path × Path) : Option Path :=
  if artifact.Same record.1 then some record.2 else none

/-- The header that a command makes the artifact from, if it makes it. -/
def Invocation.headerOf? (artifact : Path) (i : Invocation) : Option Path :=
  if i.makesPch && i.output.any fun output => artifact.Same output then some i.sourceFile else none

theorem Path.same_equivalence : Equivalence Path.Same :=
  ⟨Path.Same.refl, Path.Same.symm, Path.Same.trans⟩

/-- The last that is found in a list is found behind the first item, or else in it. -/
theorem getLast?_filterMap_cons {α β : Type} (find : α → Option β) (a : α) (as : List α) :
    ((a :: as).filterMap find).getLast? = (as.filterMap find).getLast?.or (find a) := by
  cases hfound : find a with
  | none => rw [List.filterMap_cons_none hfound, Option.or_none]
  | some b =>
      rw [List.filterMap_cons_some hfound, List.getLast?_cons]
      cases (as.filterMap find).getLast? with
      | none => rfl
      | some _ => rfl

/-! ## Records -/

namespace PchOrigins

variable {artifact : Path}

theorem get?_set (o : PchOrigins) (output input : Path) :
    (o.set output input).get? artifact =
      (recordedHeader? artifact (output, input)).or (o.get? artifact) := by
  rw [get?, set, Row.get?_put Path.same_equivalence, recordedHeader?]
  split
  · rfl
  · rfl

/-- The last record of an artifact counts, and without one what was known before. -/
theorem get?_foldl_set (records : List (Path × Path)) (o : PchOrigins) :
    (records.foldl (fun o r => o.set r.1 r.2) o).get? artifact =
      (records.filterMap (recordedHeader? artifact)).getLast?.or (o.get? artifact) := by
  induction records generalizing o with
  | nil => rfl
  | cons r records ih =>
      rw [List.foldl_cons, ih, get?_set, getLast?_filterMap_cons, Option.or_assoc]

end PchOrigins

/-! ## Commands -/

namespace Dispatcher

variable {fs : FileSystem} {recognise : Recogniser} {extra : List String} {artifact : Path}
  {d d' : Dispatcher} {text : String} {offer : Offer}

/-- What a command says of an artifact counts from then on. -/
theorem get?_aliases_deliver (d : Dispatcher) (i : Invocation) :
    (d.deliver i).aliases.get? artifact =
      (i.headerOf? artifact).or (d.aliases.get? artifact) := by
  rw [deliver, Invocation.headerOf?]
  cases i.makesPch with
  | false => rfl
  | true =>
      cases i.output with
      | none => rfl
      | some output => simp [PchOrigins.get?_set, recordedHeader?]

/-- A line that is followed, and a command that makes no artifact, add nothing. -/
theorem aliases_of_line (h : d.line fs recognise extra text = (offer, .ok d'))
    (hnone : ∀ i ∈ offer.invocation, i.makesPch = false ∨ i.output = none) :
    d'.aliases = d.aliases := by
  cases lineOutcome h with
  | @command i _ =>
      rcases hnone _ rfl with hcompile | houtput
      · simp [deliver, hcompile]
      · rw [deliver, houtput]
        split
        · rfl
        · rfl
  | followed => rfl

theorem get?_aliases_of_line (h : d.line fs recognise extra text = (offer, .ok d')) :
    d'.aliases.get? artifact =
      (offer.invocation.bind (Invocation.headerOf? artifact)).or (d.aliases.get? artifact) := by
  cases lineOutcome h with
  | command => exact get?_aliases_deliver d _
  | followed => rfl

/-- The last command of a log that makes an artifact counts, and without one what was known
before. -/
theorem get?_aliases_readLog : ∀ lines (d : Dispatcher),
    let log := d.readLog fs recognise extra lines
    log.dispatcher.aliases.get? artifact =
      (log.delivered.filterMap (Invocation.headerOf? artifact)).getLast?.or
        (d.aliases.get? artifact) := by
  -- The log is read from its front, so what the rest says goes in front of what the line says.
  refine @readLog_induction fs recognise extra _ ?nil ?ok ?error
  case nil =>
    intro d
    rfl
  case ok =>
    intro d d' text rest offer h ih
    rw [readLog_cons_of_ok h]
    simp only [LogReading.after, LogReading.delivered, List.filterMap_cons] at ih ⊢
    rw [ih, get?_aliases_of_line h]
    cases offer.invocation with
    | none => rfl
    | some i => rw [getLast?_filterMap_cons, Option.or_assoc, Option.bind_some]
  case error =>
    intro d text rest offer e h
    -- The line that cannot be followed is no command, and nothing behind it is read.
    simp [readLog_cons_of_error h, LogReading.delivered, invocation_of_line_error h]

end Dispatcher

/-! ## Runs -/

namespace Builder

variable {fs : FileSystem} {recognise : Recogniser}
  {refusal? : FileSystem → Launch → Option SystemError} {b : Builder} {makefile : Path}
  {args : List String} {p : ProcessScript}

/-- What a builder is told changes only what it knows of artifacts. -/
theorem foldl_setPch (records : List (Path × Path)) (b : Builder) :
    records.foldl (fun b r => b.setPch r.1 r.2) b =
      { b with aliases := records.foldl (fun o r => o.set r.1 r.2) b.aliases } := by
  induction records generalizing b with
  | nil => rfl
  | cons r records ih => exact ih (b.setPch r.1 r.2)

/-- What a run tells of an artifact is what its commands say, and a run that is not made tells
nothing. -/
theorem get?_aliases_runWith (b : Builder) (p : ProcessScript) (artifact : Path) :
    let (report, after, _) := b.runWith fs recognise refusal? makefile args p
    after.aliases.get? artifact =
      (report.invocations.filterMap (Invocation.headerOf? artifact)).getLast?.or
        (b.aliases.get? artifact) := by
  have houtcome : RunOutcome fs recognise refusal? makefile args b p _ := runOutcome b p
  generalize b.runWith fs recognise refusal? makefile args p = run at houtcome ⊢
  cases houtcome with
  | alreadyRun => rfl
  | noMakefile => rfl
  | noStart => rfl
  | @started found directory offers result s hstarts hfollow =>
      rcases of_follow rfl hfollow with ⟨hoffers, -, hdispatcher⟩
      have hlog := @Dispatcher.get?_aliases_readLog (fs.unlink b.settings.make.shimLog) recognise
        b.settings.extraFlags artifact (completeLines (outputOf p.chunks))
        (b.openSession directory).dispatcher
      simp only [invocations_startedReport, keepSession, hdispatcher, hoffers]
      exact hlog

/-- A run that starts its program delivers what its output says, up to the first line that cannot be
followed. -/
theorem invocations_runWith {found directory : Path}
    (hstarts : Starts fs refusal? makefile args b found directory) (p : ProcessScript) :
    let (report, _, files) := b.runWith fs recognise refusal? makefile args p
    report.invocations = (b.scriptLog files recognise directory p).delivered := by
  rcases hfollow : b.follow (fs.unlink b.settings.make.shimLog) recognise directory p with
    ⟨offers, result, s⟩
  rcases of_follow rfl hfollow with ⟨hoffers, -, -⟩
  rw [runWith_of_starts hstarts hfollow]
  simp only [invocations_startedReport, hoffers]
  rfl

theorem delivered_of_fault {fs : FileSystem} {directory : Path} {lines more : List String}
    (hlines : completeLines (outputOf p.chunks) = lines ++ more)
    (hfault : ((b.openSession directory).dispatcher.readLog fs recognise b.settings.extraFlags
      lines).fault.isSome) :
    b.scriptLog fs recognise directory p =
      (b.openSession directory).dispatcher.readLog fs recognise b.settings.extraFlags lines := by
  rcases Option.isSome_iff_exists.1 hfault with ⟨e, he⟩
  rw [scriptLog, hlines, Dispatcher.readLog_append]
  simp only [he]

/-- **The headers that are known after a run.** Whatever a fresh builder is told before a run, and
whatever its process prints, each candidate has the source of the last command delivered that makes
it, or else the header of the last record of it, or else none. No other line adds anything: neither
a line that is followed nor a command that makes no artifact, nor anything behind a line that cannot
be followed. -/
theorem headersOf_runWith (fs : FileSystem) (recognise : Recogniser)
    (refusal? : FileSystem → Launch → Option SystemError) (settings : Settings)
    (records : List (Path × Path)) (makefile : Path) (args : List String) (p : ProcessScript) :
    let b : Builder := records.foldl (fun b r => b.setPch r.1 r.2) { settings := settings }
    let (report, after, files) := b.runWith fs recognise refusal? makefile args p
    (∀ candidates, after.headersOf candidates = candidates.filterMap fun artifact =>
      (report.invocations.filterMap (Invocation.headerOf? artifact)).getLast?.or
        (records.filterMap (recordedHeader? artifact)).getLast?) ∧
    (∀ d text offer d',
      Dispatcher.line files recognise settings.extraFlags d text = (offer, .ok d') →
        (∀ i ∈ offer.invocation, i.makesPch = false ∨ i.output = none) →
          d'.aliases = d.aliases) ∧
    ∀ found directory, Starts fs refusal? makefile args b found directory →
      let read := (b.openSession directory).dispatcher.readLog files recognise settings.extraFlags
      report.invocations = (read (completeLines (outputOf p.chunks))).delivered ∧
        ∀ lines more, completeLines (outputOf p.chunks) = lines ++ more →
          (read lines).fault.isSome → report.invocations = (read lines).delivered := by
  intro b
  have hsettings : b.settings = settings := congrArg Builder.settings (foldl_setPch records _)
  have hknown := fun artifact =>
    @get?_aliases_runWith fs recognise refusal? makefile args b p artifact
  have hdelivers := fun found directory
    (hstarts : Starts fs refusal? makefile args b found directory) =>
      @invocations_runWith fs recognise refusal? b makefile args found directory hstarts p
  generalize b.runWith fs recognise refusal? makefile args p = run at hknown hdelivers ⊢
  rcases run with ⟨report, after, files⟩
  refine ⟨?_, ?_, ?_⟩
  · intro candidates
    refine List.filterMap_congr fun artifact _ => ?_
    have hrecords : b.aliases.get? artifact =
        (records.filterMap (recordedHeader? artifact)).getLast? := by
      rw [show b = _ from foldl_setPch records _, PchOrigins.get?_foldl_set]
      -- A fresh builder knows of no artifact.
      simp [PchOrigins.get?, Row.get?]
    rw [hknown artifact, hrecords]
  · intro d text offer d' hline hnone
    exact Dispatcher.aliases_of_line hline hnone
  · intro found directory hstarts read
    have hall : report.invocations = (b.scriptLog files recognise directory p).delivered :=
      hdelivers found directory hstarts
    have hread : read = (b.openSession directory).dispatcher.readLog files recognise
        b.settings.extraFlags := by rw [hsettings]
    rw [hread]
    refine ⟨hall, ?_⟩
    intro lines more hlines hfault
    rw [hall, delivered_of_fault hlines hfault]

end Builder
end BuildTrace
