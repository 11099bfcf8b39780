import BuildTrace.Build.Run
import BuildTrace.CommandLine.Basic
import BuildTrace.Invocation.Encoding
import BuildTrace.Json.Tree
import BuildTrace.Precompile.Encoding
import BuildTrace.Precompile.Expand
import BuildTrace.Settings.Printer
import BuildTrace.Settings.Source

/-!
# Outcome — what a request comes to

* `Outcome`, `Failure` — what the program writes, and how a mistake is told;
* `Surroundings` — what the program finds around it: files, variables, and what the build program
  does;
* `showBuild`, `showHeaders`, `showSettings` — the commands;
* `Request.perform` — the outcome of a request.

With the form `json`, `run` writes each invocation on a line of its own, and no line break stands
inside one.
-/

namespace BuildTrace
namespace CommandLine

/-- What the program writes, and its exit code. -/
structure Outcome where
  exit : Nat := 0
  output : String := ""
  errors : String := ""
deriving DecidableEq, Repr

/-- A mistake: what could not be done, and the causes, outermost first. -/
structure Failure where
  context : String
  causes : List String := []
deriving DecidableEq, Repr

namespace Failure

/-- The text with `lead` in front and as many blanks in front of each further line. -/
def indented (lead : String) (margin : Nat) (text : String) : String :=
  lead ++ String.ofList (text.toList.flatMap fun c =>
    if c = '\n' then c :: List.replicate margin ' ' else [c])

/-- The lines for the causes; a single one has no number. -/
def causeLines : List String → List String
  | [] => []
  | [cause] => ["", "Caused by:", indented "    " 4 cause]
  | causes =>
    "" :: "Caused by:" :: causes.zipIdx.map fun (cause, n) =>
      let number := toString n
      indented (String.ofList (List.replicate (5 - number.length) ' ') ++ number ++ ": ") 7 cause

/-- The text of a mistake. -/
def text (f : Failure) : String :=
  String.join ((("Error: " ++ f.context) :: causeLines f.causes).map (· ++ "\n"))

/-- The outcome of a mistake, behind what has been written already. -/
def outcome (f : Failure) (output : String) : Outcome :=
  { exit := 1, output := output, errors := f.text }

end Failure

/-- What the program finds around it. -/
structure Surroundings where
  files : FileSystem
  environment : Environment := []
  /-- Why the system refuses to start a program. -/
  refusal? : FileSystem → Launch → Option SystemError
  /-- What the build program does. -/
  script : ProcessScript := {}
  /-- How long the build takes. -/
  elapsed : String := ""

/-- A form of output that is not known. -/
def unknownFormat (format : String) : Failure :=
  { context := "Unknown output format: " ++ format }

/-! ## Builds -/

/-- The line for an invocation that is meant for people. -/
def plainLine (i : Invocation) : String :=
  (if i.makesPch then "pch" else "cc") ++ "\t" ++ i.workingDirectory.spelling ++ "\t" ++
    i.sourceFile.spelling

/-- How `run` shows an invocation. -/
def invocationLine? : String → Option (Invocation → String)
  | "json" => some fun i => i.toJson.render
  | "text" => some plainLine
  | _ => none

/-- The settings with the choices of the command line on top of them. -/
def RunOptions.settings (o : RunOptions) (s : Settings) : Settings :=
  { s with
    extraFlags := s.extraFlags ++ o.extraFlags
    make := { s.make with program := o.program.getD s.make.program } }

/-- What is said about a build that has come to its end. -/
def buildRemarks (verbose : Bool) (elapsed : String) (s : BuildOutcome) : String :=
  s.text ++ "\n" ++ (if s.success then "" else s.stderr) ++
    (if verbose then "Completed in " ++ elapsed ++ "\n" else "")

/-- Runs a makefile and shows the compiler invocations. -/
def showBuild (around : Surroundings) (settings : Settings) (verbose : Bool) (o : RunOptions) :
    Outcome :=
  match invocationLine? o.format with
  | none => (unknownFormat o.format).outcome ""
  | some line =>
    let builder : Builder := { settings := o.settings settings }
    let report :=
      (builder.run around.files around.refusal? o.makefile o.arguments around.script).1
    let output := String.join (report.invocations.map fun i => line i ++ "\n")
    match report.result with
    | .ok s =>
      { exit := if s.success then 0 else (s.exitCode.getD 1).toNat
        output := output
        errors := buildRemarks verbose around.elapsed s }
    | .error e =>
      Failure.outcome
        { context := "Failed to build " ++ o.makefile.spelling, causes := e.message :: e.causes }
        output

/-! ## Headers -/

/-- The line for a file and its stamp. -/
def stampLine : Path × FileStamp → String
  | (p, .modified time) => p.spelling ++ "\tModified(" ++ toString time ++ ")\n"
  | (p, .content digest) => p.spelling ++ "\tContent(" ++ Text.quote digest ++ ")\n"

/-- The header with its includes in place. -/
def expandHeader (files : FileSystem) (settings : PrecompileSettings) (o : HeadersOptions) :
    Except Failure ExpandedHeader :=
  match files.realPath o.header with
  | .error cause =>
    .error { context := "Header not found: " ++ o.header.spelling, causes := [cause.message] }
  | .ok header =>
    match files.readFile header with
    | .error cause =>
      .error { context := "Failed to read " ++ header.spelling, causes := [cause.message] }
    | .ok data =>
      let search : SearchPath :=
        { directories := o.directories
          systemDirectories := settings.systemIncludes
          kind := settings.fingerprintMode }
      match search.expand files header data with
      | .error e =>
        .error { context := "Failed to expand " ++ header.spelling
                 causes := [e.message, e.cause.message] }
      | .ok expanded => .ok expanded

/-- Shows the files a header depends on. -/
def showHeaders (around : Surroundings) (settings : Settings) (verbose : Bool)
    (o : HeadersOptions) : Outcome :=
  match expandHeader around.files settings.precompile o with
  | .error f => f.outcome ""
  | .ok expanded =>
    match o.format with
    | "json" => { output := expanded.stamps.toJson.pretty ++ "\n" }
    | "text" =>
      { output := String.join (expanded.stamps.entries.map stampLine)
        errors :=
          if verbose then
            toString expanded.dependencies.length ++ " dependencies, " ++
              toString expanded.source.length ++ " bytes after expansion\n"
          else "" }
    | format => (unknownFormat format).outcome ""

/-! ## Settings -/

/-- Shows the settings. -/
def showSettings (around : Surroundings) (settings : Settings) : Outcome :=
  match settings.tomlText with
  | .error e =>
    Failure.outcome { context := "Failed to serialize configuration", causes := [e.message] } ""
  | .ok text =>
    { output := text ++ "\n"
      errors := "Default config file: " ++ (defaultFile around.environment).spelling ++ "\n" }

/-! ## Requests -/

/-- The outcome of a request. -/
def Request.perform (around : Surroundings) (r : Request) : Outcome :=
  match Settings.load around.files around.environment r.config with
  | .error e =>
    let failure : Failure :=
      { context := "Failed to load configuration", causes := [e.message, e.detail] }
    failure.outcome ""
  | .ok settings =>
    match r.command with
    | .run o => showBuild around settings r.verbose o
    | .headers o => showHeaders around settings r.verbose o
    | .config => showSettings around settings

end CommandLine
end BuildTrace
