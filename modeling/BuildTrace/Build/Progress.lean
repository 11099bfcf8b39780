import BuildTrace.Build.Dispatch
import BuildTrace.Build.Outcome

/-!
# Progress — one run of the build program

* `ExitStatus` — how a process ended;
* `OutputChunk` — a piece of output, as it was read from the process;
* `BuildProgress` — the state of a run;
* `BuildProgress.takeOutput`, `takeErrors`, `takeChunks`, `takeAll` — taking in output, up to a
  line that cannot be followed.
-/

namespace BuildTrace

/-- How a process ended. -/
inductive ExitStatus where
  | exited (code : Nat)
  | signaled (signal : Nat)
deriving DecidableEq, Repr

namespace ExitStatus

/-- The exit code, unless a signal ended the process. -/
def code? : ExitStatus → Option Int
  | .exited code => some code
  | .signaled _ => none

/-- The signal that ended the process. -/
def signal? : ExitStatus → Option Int
  | .exited _ => none
  | .signaled signal => some signal

/-- Whether all went well. -/
def success (s : ExitStatus) : Bool :=
  s = .exited 0

/-- The end of a process that was killed. -/
def killed : ExitStatus := .signaled 9

end ExitStatus

/-- A piece of output. -/
inductive OutputChunk where
  | output (bytes : List UInt8)
  | errors (bytes : List UInt8)
deriving DecidableEq, Repr

/-- How many bytes of error output are kept. The number stays folded, so that no proof counts up to
it. -/
@[irreducible] def errorLimit : Nat := 65536

/-- The last `n` items of a list. -/
def lastItems {α : Type} (n : Nat) (xs : List α) : List α :=
  xs.drop (xs.length - n)

/-- The state of a run. -/
structure BuildProgress where
  dispatcher : Dispatcher
  buffer : LineReader := {}
  /-- The end of the error output. -/
  errors : List UInt8 := []
  exit : Option ExitStatus := none
deriving DecidableEq, Repr

namespace BuildProgress

/-- Whether the process has ended. -/
def hasEnded (s : BuildProgress) : Bool :=
  s.exit.isSome

/-- Takes in bytes of the output, and with them every line they complete. -/
def takeOutput (fs : FileSystem) (recognise : Recogniser) (extra : List String) (s : BuildProgress)
    (bytes : List UInt8) : List Offer × Option Directory.Fault × BuildProgress :=
  let done := s.dispatcher.lines fs recognise extra (s.buffer.push bytes)
  (done.offers, done.fault, { s with dispatcher := done.dispatcher, buffer := done.buffer })

/-- Takes in bytes of the error output. -/
def takeErrors (s : BuildProgress) (bytes : List UInt8) : BuildProgress :=
  { s with errors := lastItems errorLimit (s.errors ++ bytes) }

@[simp] theorem dispatcher_takeErrors (s : BuildProgress) (bytes : List UInt8) :
    (s.takeErrors bytes).dispatcher = s.dispatcher := by
  rw [takeErrors]

@[simp] theorem buffer_takeErrors (s : BuildProgress) (bytes : List UInt8) :
    (s.takeErrors bytes).buffer = s.buffer := by
  rw [takeErrors]

@[simp] theorem exit_takeErrors (s : BuildProgress) (bytes : List UInt8) :
    (s.takeErrors bytes).exit = s.exit := by
  rw [takeErrors]

/-- Drops a last line that has not been ended. -/
def closeOutput (s : BuildProgress) : BuildProgress :=
  { s with buffer := s.buffer.discard.2 }

/-- Takes in pieces of output, up to a line that cannot be followed. -/
def takeChunks (fs : FileSystem) (recognise : Recogniser) (extra : List String)
    (s : BuildProgress) : List OutputChunk → List Offer × Option Directory.Fault × BuildProgress
  | [] => ([], none, s)
  | .errors bytes :: rest => takeChunks fs recognise extra (s.takeErrors bytes) rest
  | .output bytes :: rest =>
    match s.takeOutput fs recognise extra bytes with
    | (offers, some e, s) => (offers, some e, s)
    | (offers, none, s) =>
      let (later, fault, s) := takeChunks fs recognise extra s rest
      (offers ++ later, fault, s)

/-- Takes in all output, up to a line that cannot be followed. -/
def takeAll (fs : FileSystem) (recognise : Recogniser) (extra : List String) (s : BuildProgress)
    (chunks : List OutputChunk) : List Offer × Option Directory.Fault × BuildProgress :=
  match s.takeChunks fs recognise extra chunks with
  | (offers, some e, s) => (offers, some e, s)
  | (offers, none, s) => (offers, none, s.closeOutput)

/-- Takes in the end of the process. -/
def takeEnd (s : BuildProgress) (status : ExitStatus) : BuildProgress :=
  { s with exit := some status }

/-- The end of the error output as text; a character that is cut off in front is replaced. -/
def errorText (s : BuildProgress) : String :=
  Text.ofBytesLossy s.errors

/-- The outcome of a run that ended with `status`. -/
def outcome (s : BuildProgress) (status : ExitStatus) : BuildOutcome :=
  { exitCode := status.code?
    success := status.success
    sourceCount := s.dispatcher.sourceCount
    pchCount := s.dispatcher.pchCount
    stderr := s.errorText }

end BuildProgress
end BuildTrace
