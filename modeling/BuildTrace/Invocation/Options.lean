import BuildTrace.Path.Fold

/-!
# Options — command-line tokens that belong together

Some compiler options take the token behind them as their value.

* `wantsValue` — the options that do;
* `Unit`, `units` — a flag list cut into options, each with its value if it takes one;
* `withExtra` — a flag list with the options of another list that it lacks;
* `searchDirectories`, `pchCandidates` — the directories and artifacts named by a flag list.
-/

namespace BuildTrace
namespace Options

/-- The options whose value is the token behind them. -/
def optionsWithValue : List String :=
  ["-o", "-I", "-D", "-U", "-x", "-include", "-include-pch", "-imacros", "-isystem",
    "-iquote", "-idirafter", "-isysroot", "--sysroot", "-MF", "-MT", "-MQ", "-arch",
    "-target", "-Xclang", "-Xpreprocessor", "-Xassembler", "-Xlinker"]

/-- Whether a token takes the one behind it as its value. -/
def wantsValue (flag : String) : Bool :=
  optionsWithValue.contains flag

/-! ## Units -/

/-- One option of a flag list. -/
inductive Unit where
  /-- A token on its own. -/
  | lone (flag : String)
  /-- An option and its value. -/
  | paired (option value : String)
deriving DecidableEq, Repr

namespace Unit

/-- The tokens of an option. -/
def tokens : Unit → List String
  | .lone flag => [flag]
  | .paired option value => [option, value]

end Unit

/-- The flag list cut into options, from left to right. An option that takes a value stands alone
only at the very end. -/
def units : List String → List Unit
  | [] => []
  | [flag] => [.lone flag]
  | flag :: value :: rest =>
    if wantsValue flag then .paired flag value :: units rest
    else .lone flag :: units (value :: rest)

/-- The flags with those options of `extra` behind them that they do not contain. -/
def withExtra (flags extra : List String) : List String :=
  flags ++ ((units extra).filter fun u => !(units flags).contains u).flatMap Unit.tokens

/-! ## Files named by flags -/

/-- What stands behind `lead` in a token, unless that is nothing. -/
def attached? (lead flag : String) : Option String :=
  match lead.toList.isPrefixOf? flag.toList with
  | some (c :: cs) => some (String.ofList (c :: cs))
  | _ => none

/-- The directories named by `-I`, attached or as the next token, as seen from `cwd`. -/
def searchDirectories (cwd : Path) : List String → List Path
  | "-I" :: dir :: rest => cwd.lexicalJoin ⟨dir⟩ :: searchDirectories cwd rest
  | flag :: rest =>
    match attached? "-I" flag with
    | some dir => cwd.lexicalJoin ⟨dir⟩ :: searchDirectories cwd rest
    | none => searchDirectories cwd rest
  | [] => []

/-- The precompiled artifacts a flag list may use: the one named by `-include-pch`, and for a header
forced in by `-include` the two a compiler looks for beside it. -/
def pchCandidates (cwd : Path) : List String → List Path
  | "-include-pch" :: artifact :: rest => cwd.lexicalJoin ⟨artifact⟩ :: pchCandidates cwd rest
  | "-include" :: header :: rest =>
    let header := (cwd.lexicalJoin ⟨header⟩).spelling
    ⟨header ++ ".gch"⟩ :: ⟨header ++ ".pch"⟩ :: pchCandidates cwd rest
  | _ :: rest => pchCandidates cwd rest
  | [] => []

end Options
end BuildTrace
