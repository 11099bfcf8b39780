import BuildTrace.Path.Basic

/-!
# Basic — what a command line asks for

* `Command`, `Request` — the command, and the choices that hold for all commands;
* `UsageError` — why a command line asks for nothing;
* `versionText`, `logDirective` — the version of the program, and which messages it logs.
-/

namespace BuildTrace
namespace CommandLine

/-- What `run` is given. -/
structure RunOptions where
  makefile : Path
  format : String := "json"
  /-- Flags added to every invocation. -/
  extraFlags : List String := []
  /-- The build program, in place of the one in the settings. -/
  program : Option String := none
  /-- What the build program is given. -/
  arguments : List String := []
deriving DecidableEq, Repr

/-- What `headers` is given. -/
structure HeadersOptions where
  header : Path
  directories : List Path := []
  format : String := "text"
deriving DecidableEq, Repr

/-- A command. -/
inductive Command where
  /-- Runs a makefile and shows the compiler invocations. -/
  | run (o : RunOptions)
  /-- Shows the files a header depends on. -/
  | headers (o : HeadersOptions)
  /-- Shows the settings. -/
  | config
deriving DecidableEq, Repr

/-- What a command line asks for. -/
structure Request where
  command : Command
  /-- The settings file. -/
  config : Option Path := none
  verbose : Bool := false
  jsonLogs : Bool := false
deriving DecidableEq, Repr

/-- Why a command line asks for nothing that can be done. -/
inductive UsageError where
  /-- The usage is asked for. -/
  | help
  /-- The version is asked for. -/
  | version
  /-- There is nothing at all. -/
  | nothingGiven
  | missingCommand
  | unknownCommand
  | unknownArgument
  | missingOperand
  /-- An option stands without a value, or a path is empty. -/
  | missingValue
  /-- A value is given to an option that takes none. -/
  | unneededValue
  /-- An option stands twice. -/
  | repeatedOption
deriving DecidableEq, Repr

/-- The exit code; asking for the usage or the version is no mistake. -/
def UsageError.exitCode : UsageError → Nat
  | .help | .version => 0
  | _ => 2

/-- The version of the program. -/
def versionText : String := "0.1.0"

/-- Which messages are logged. -/
def logDirective (verbose : Bool) : String :=
  if verbose then "buildlore=debug,info" else "info"

end CommandLine
end BuildTrace
