import BuildTrace.Build.Error
import BuildTrace.Build.Launch
import BuildTrace.Build.Progress
import BuildTrace.Invocation.Recognise
import BuildTrace.Settings.Basic

/-!
# Run — running the build program

* `ProcessScript` — what a process does, and where following it breaks down;
* `Builder` — the settings, and what has come of running the build program so far;
* `Builder.arguments`, `Builder.preload?` — what the program is started with;
* `Builder.setPch`, `Builder.headersOf` — which header an artifact was made from;
* `Builder.runWith` — one run, given how lines are read as compiler commands, whether the system
  refuses to start the program, and what the process does otherwise;
* `Builder.run` — one run that reads the lines as they are written for GCC.

A builder runs its program once. A run that fails before the process is there can be tried again;
one that breaks off later cannot.
-/

namespace BuildTrace

/-- Why a process that runs cannot be followed to its end. -/
inductive Breakdown where
  /-- Nothing more can be read of its output. -/
  | output (cause : SystemError)
  /-- Its output is read, but how it ends cannot be learnt. -/
  | ending (cause : SystemError)
deriving DecidableEq, Repr

namespace Breakdown

/-- What the system refused. -/
def cause : Breakdown → SystemError
  | .output cause | .ending cause => cause

end Breakdown

/-- What a process does: the pieces of output it gives, how it ends, whether it stays when all
output has been given, and where following it breaks down. -/
structure ProcessScript where
  chunks : List OutputChunk := []
  ending : ExitStatus := .exited 0
  lingers : Bool := false
  breakdown : Option Breakdown := none
deriving DecidableEq, Repr

/-- What is told to those who watch a run. -/
inductive BuildEvent where
  | invocation (i : Invocation)
  | done (s : BuildOutcome)
  | failed (e : BuildError)
deriving DecidableEq, Repr

/-- The settings, and what has come of running the build program so far. -/
structure Builder where
  settings : Settings := {}
  aliases : PchOrigins := {}
  makefile : Option Path := none
  session : Option BuildProgress := none
deriving DecidableEq, Repr

/-- What one run has come to. -/
structure RunReport where
  result : Except BuildError BuildOutcome
  events : List BuildEvent := []
  offers : List Offer := []
  launch : Option Launch := none

namespace BuildEvent

/-- The invocation an event tells of. -/
def invocation? : BuildEvent → Option Invocation
  | .invocation i => some i
  | .done _ | .failed _ => none

end BuildEvent

/-- Takes in the output of a process, as far as it can be read. Only output that is read to its end
drops a last line that has not been ended. -/
def BuildProgress.takeScript (fs : FileSystem) (recognise : Recogniser) (extra : List String)
    (s : BuildProgress) (p : ProcessScript) : List Offer × Option Directory.Fault × BuildProgress :=
  match p.breakdown with
  | some (.output _) => s.takeChunks fs recognise extra p.chunks
  | some (.ending _) | none => s.takeAll fs recognise extra p.chunks

/-- The invocations that were told to those who watch. -/
def RunReport.invocations (r : RunReport) : List Invocation :=
  r.events.filterMap BuildEvent.invocation?

namespace Builder

/-- What the program is given, behind its name. -/
def arguments (b : Builder) (makefile directory : Path) (args : List String) : List String :=
  ["-j1", "-w", "-f", makefile.spelling, "-C", directory.spelling] ++
    b.settings.make.fixedArguments ++ args

/-- The library to load into the program, unless an argument keeps it out: the one that the settings
name. Where they name none, one that is installed beside the running program would be taken; here
there is none beside it. -/
def preload? (b : Builder) (args : List String) : Option Path :=
  if args.contains b.settings.make.disablePreloadFlag then none
  else b.settings.make.preloadLibrary

/-- Records that an artifact was made from a header. -/
def setPch (b : Builder) (output input : Path) : Builder :=
  { b with aliases := b.aliases.set output input }

/-- The headers of those candidates that are known, in their order. -/
def headersOf (b : Builder) (candidates : List Path) : List Path :=
  b.aliases.headersOf candidates

/-! ## Running -/

/-- The build file as the program will see it, and the directory it is in. -/
def findMakefile (fs : FileSystem) (makefile : Path) : Except BuildError (Path × Path) :=
  match fs.realPath makefile with
  | .error cause => .error (.noMakefile makefile cause)
  | .ok found =>
    match found.parent? with
    | some directory => .ok (found, directory)
    | none => .error (.noMakefile found (.described "build file has no parent directory"))

/-- The session of a run before anything has come from its process. -/
def openSession (b : Builder) (directory : Path) : BuildProgress :=
  { dispatcher := { stack := { root := directory }, aliases := b.aliases } }

/-- The state once the process has given its output: the outcome, and the session as it stays. -/
def follow (fs : FileSystem) (recognise : Recogniser) (b : Builder) (directory : Path)
    (p : ProcessScript) : List Offer × Except BuildError BuildOutcome × BuildProgress :=
  match (b.openSession directory).takeScript fs recognise b.settings.extraFlags p with
  | (offers, some e, s) =>
    match p.breakdown with
    -- The process is killed, but how it ended still cannot be learnt.
    | some (.ending _) => (offers, .error (.lostDirectory e), s)
    | some (.output _) | none =>
      (offers, .error (.lostDirectory e), s.takeEnd (if p.lingers then .killed else p.ending))
  | (offers, none, s) =>
    match p.breakdown with
    | some broken => (offers, .error (.brokenOutput broken.cause), s)
    | none => (offers, .ok (s.outcome p.ending), s.takeEnd p.ending)

/-- The last thing those who watch a run are told. -/
def lastEvent : Except BuildError BuildOutcome → BuildEvent
  | .ok s => .done s
  | .error e => .failed e

/-- The program as a run starts it. -/
def launch (b : Builder) (found directory : Path) (args : List String) : Launch :=
  { directory := directory
    program := b.settings.make.program
    arguments := b.arguments found directory args
    preload := b.preload? args }

/-- Notes the build file of a run; what is started and followed does not depend on it. -/
def noteMakefile (b : Builder) (found : Path) : Builder :=
  { b with makefile := some found }

@[simp] theorem program_launch (b : Builder) (found directory : Path) (args : List String) :
    (b.launch found directory args).program = b.settings.make.program := rfl

@[simp] theorem launch_noteMakefile (b : Builder) (noted found directory : Path)
    (args : List String) :
    (b.noteMakefile noted).launch found directory args = b.launch found directory args := rfl

@[simp] theorem follow_noteMakefile (fs : FileSystem) (recognise : Recogniser) (b : Builder)
    (noted directory : Path) (p : ProcessScript) :
    (b.noteMakefile noted).follow fs recognise directory p = b.follow fs recognise directory p :=
  rfl

/-- The report of a run whose program was started. -/
def startedReport (launch : Launch) (offers : List Offer)
    (result : Except BuildError BuildOutcome) : RunReport :=
  { result := result
    events := (offers.filterMap Offer.invocation).map .invocation ++ [lastEvent result]
    offers := offers
    launch := some launch }

/-- Keeps the session of a run, and what it recorded of precompiled headers. -/
def keepSession (b : Builder) (s : BuildProgress) : Builder :=
  { b with session := some s, aliases := s.dispatcher.aliases }

/-- Runs the build program, which does what `p` says unless the system refuses to start it. -/
def runWith (fs : FileSystem) (recognise : Recogniser)
    (refusal? : FileSystem → Launch → Option SystemError) (b : Builder) (makefile : Path)
    (args : List String) (p : ProcessScript) : RunReport × Builder × FileSystem :=
  if b.session.isSome then ({ result := .error .alreadyRun }, b, fs)
  else
    match findMakefile fs makefile with
    | .error e => ({ result := .error e }, b, fs)
    | .ok (found, directory) =>
      let fs := fs.unlink b.settings.make.shimLog
      let b := b.noteMakefile found
      let launch := b.launch found directory args
      match refusal? fs launch with
      | some cause =>
        let e : BuildError := .noStart launch.program cause
        ({ result := .error e, events := [.failed e] }, b, fs)
      | none =>
        let (offers, result, session) := b.follow fs recognise directory p
        (startedReport launch offers result, b.keepSession session, fs)

/-- One run, whose lines are read as commands of GCC. -/
def run (fs : FileSystem) (refusal? : FileSystem → Launch → Option SystemError) (b : Builder)
    (makefile : Path) (args : List String) (p : ProcessScript) : RunReport × Builder × FileSystem :=
  b.runWith fs Invocation.ofLine? refusal? makefile args p

/-- Whether a run has been made and its process has ended. -/
def hasEnded (b : Builder) : Bool :=
  b.session.any BuildProgress.hasEnded

/-- How many sources the run compiled. -/
def sourceCount (b : Builder) : Nat :=
  (b.session.map fun s => s.dispatcher.sourceCount).getD 0

/-- How many headers the run precompiled. -/
def pchCount (b : Builder) : Nat :=
  (b.session.map fun s => s.dispatcher.pchCount).getD 0

end Builder
end BuildTrace
