import BuildTrace.Build.Progress

/-!
# Abandon — giving up a run

A run that is given up asks its process to end, waits for the grace period, and kills the process if
it is still there. It never leaves a process behind.

* `TerminationResponse` — what a process does when it is asked to end;
* `TerminationResponse.ending` — how it ends.
-/

namespace BuildTrace

/-- What a process does when it is asked to end. -/
inductive TerminationResponse where
  /-- It leaves the matter to the system. -/
  | none
  /-- It notes the request and ends by itself. -/
  | exits
  | ignores
deriving DecidableEq, Repr

namespace TerminationResponse

/-- Whether the process notes the request. -/
def notes (r : TerminationResponse) : Bool :=
  r = .exits

/-- How the process ends if it has time for its response. -/
def ending : TerminationResponse → ExitStatus
  | .none => .signaled 15
  | .exits => .exited 0
  | .ignores => .killed

end TerminationResponse

/-- What can be seen of a run that is given up: the session before, and how its process ends. -/
structure Abandoned where
  before : BuildProgress
  ending : ExitStatus
  noted : Bool
deriving DecidableEq, Repr

/-- Gives up a run whose process has not printed anything. -/
def abandon (directory : Path) (r : TerminationResponse) : Abandoned :=
  { before := { dispatcher := { stack := { root := directory } } }
    ending := r.ending
    noted := r.notes }

end BuildTrace
