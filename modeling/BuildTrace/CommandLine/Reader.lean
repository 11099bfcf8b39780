import BuildTrace.CommandLine.Level

/-!
# Reader — a command line as a request

* `Level.top`, `Level.ofCommand?` — what stands in front of a command, and behind it;
* `parse` — the request of a command line.

Some options stand at both levels. The one behind the command counts, and the settings file that the
environment names counts only where no option names one.
-/

namespace BuildTrace
namespace CommandLine

/-! ## What may be given -/

/-- The option for the settings file. -/
def configRule : OptionRule :=
  { name := "config", short := some 'c', isPath := true }

/-- The variable that names the settings file. -/
def configVariable : String := "BUILDLORE_CONFIG"

/-- The options of every level. -/
def commonRules : List OptionRule :=
  [configRule,
    { name := "verbose", short := some 'v', role := .switch },
    { name := "json-logs", role := .switch },
    { name := "help", short := some 'h', role := .help }]

/-- The option for the form of the output. -/
def formatRule : OptionRule :=
  { name := "format", short := some 'f' }

namespace Level

/-- The words in front of a command. -/
def top : Level :=
  { options := { name := "version", short := some 'V', role := .version } :: commonRules
    commands := ["run", "headers", "config", "help"] }

/-- The words behind `run`. -/
def run : Level :=
  { options :=
      [formatRule,
        { name := "extra-flag", role := .repeated, takesAnyWord := true },
        { name := "program" }] ++ commonRules
    operand := some { name := "makefile", isPath := true }
    passedOn := some "arguments" }

/-- The words behind `headers`. -/
def headers : Level :=
  { options :=
      [{ name := "include", short := some 'I', role := .repeated, isPath := true }, formatRule] ++
        commonRules
    operand := some { name := "header", isPath := true } }

/-- The words behind `config`. -/
def config : Level :=
  { options := commonRules }

/-- The words behind a command. -/
def ofCommand? : String → Option Level
  | "run" => some run
  | "headers" => some headers
  | "config" => some config
  | _ => none

end Level

/-! ## The request -/

/-- The command of this name, with what it has been given. -/
def Command.ofGiven (name : String) (g : Given) : Command :=
  match name with
  | "run" =>
    .run
      { makefile := ⟨(g.value? "makefile").getD ""⟩
        format := (g.value? "format").getD "json"
        extraFlags := g.values "extra-flag"
        program := g.value? "program"
        arguments := g.values "arguments" }
  | "headers" =>
    .headers
      { header := ⟨(g.value? "header").getD ""⟩
        directories := (g.values "include").map Path.mk
        format := (g.value? "format").getD "text" }
  | _ => .config

/-- The answer to `help` with words behind it: at most one command can be asked about. -/
def helpAnswer : List String → UsageError
  | [] => .help
  | [name] => if Level.top.commands.contains name then .help else .unknownCommand
  | _ => .unknownCommand

/-- The request of a command line, where `file` is the settings file that the environment names. -/
def parse (file : Option String) (words : List String) : Except UsageError Request := do
  let fallback := file.map fun f => (configRule, f)
  let (outer, rest) ← Level.top.read {} words
  match rest with
  | [] =>
    let given ← Level.top.finish outer fallback
    .error (if given.isEmpty && file.isNone then .nothingGiven else .missingCommand)
  | name :: rest =>
    match Level.ofCommand? name with
    | none => .error (helpAnswer rest)
    | some level =>
      let (inner, _) ← level.read {} rest
      let below ← level.finish inner fallback
      let above ← Level.top.finish outer fallback
      return {
        command := Command.ofGiven name below
        config :=
          (((below.value? configRule.name).or (above.value? configRule.name)).or file).map Path.mk
        verbose := below.has "verbose" || above.has "verbose"
        jsonLogs := below.has "json-logs" || above.has "json-logs" }

end CommandLine
end BuildTrace
