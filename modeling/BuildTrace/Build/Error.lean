import BuildTrace.Directory.Follow

/-!
# Error — why a run has no outcome

* `BuildError` — the causes;
* `BuildError.message`, `code?`, `brokeOff` — the text, the number of the system if it refused
  something, and whether the run was broken off.
-/

namespace BuildTrace

/-- Why a run has no outcome. -/
inductive BuildError where
  /-- A run has been made already. -/
  | alreadyRun
  | noMakefile (path : Path) (cause : SystemError)
  | noStart (program : String) (cause : SystemError)
  | brokenOutput (cause : SystemError)
  | lostDirectory (cause : Directory.Fault)
deriving DecidableEq, Repr

namespace BuildError

/-- The text of an error. -/
def message : BuildError → String
  | .alreadyRun => "A build session is already active on this parser"
  | .noMakefile path cause =>
    "Build file " ++ path.spelling ++ " is not usable: " ++ cause.message
  | .noStart program cause => "Failed to spawn " ++ program ++ ": " ++ cause.message
  | .brokenOutput cause => "I/O error while reading build output: " ++ cause.message
  | .lostDirectory cause => "Directory tracking aborted the session: " ++ cause.message

/-- The number the system gave its refusal. -/
def code? : BuildError → Option Int
  | .noMakefile _ cause | .noStart _ cause | .brokenOutput cause => cause.code?
  | .alreadyRun | .lostDirectory _ => none

/-- Whether the run was broken off and must not go on. -/
def brokeOff : BuildError → Bool
  | .lostDirectory _ => true
  | _ => false

/-- The texts of the causes below an error, outermost first. -/
def causes : BuildError → List String
  | .alreadyRun => []
  | .noMakefile _ cause | .noStart _ cause => [cause.message]
  | .brokenOutput cause => [cause.message]
  | .lostDirectory cause =>
    cause.message :: match cause with
      | .notFound _ _ cause => [cause.message]
      | .atBottom .. => []

end BuildError
end BuildTrace
