import BuildTrace.CommandLine.Basic

/-!
# Level — reading the words of one level of a command line

A command line has two levels: the words up to the name of a command, and those behind it. Each
level has options, and maybe an operand. The value of an option is settled, and refused if it has to
be, only when the next option or operand turns up; so of two mistakes the one that is met first
counts.

* `OptionRule`, `Level` — what a level takes;
* `Scan` — the words read so far;
* `Level.step`, `Level.read` — one word, and all words up to the name of a command;
* `Level.finish` — what the level has been given.
-/

namespace BuildTrace
namespace CommandLine

/-- What comes of an option. -/
inductive OptionRole where
  | help
  | version
  /-- Stands for itself. -/
  | switch
  /-- Takes a value. -/
  | single
  /-- Takes a value, any number of times. -/
  | repeated
deriving DecidableEq, Repr

/-- An option, or an operand, which has no short name. -/
structure OptionRule where
  name : String
  short : Option Char := none
  role : OptionRole := .single
  /-- Whether a word that looks like an option can be the value. -/
  takesAnyWord : Bool := false
  /-- Whether the value is a path, which is never empty. -/
  isPath : Bool := false
deriving DecidableEq, Repr

/-- What a level takes. -/
structure Level where
  options : List OptionRule
  /-- The operand, which must be there. -/
  operand : Option OptionRule := none
  /-- The name for the words behind a double dash, if they are taken as they are. -/
  passedOn : Option String := none
  /-- The commands that have a level of their own. -/
  commands : List String := []
deriving DecidableEq, Repr

/-- Values by the names of what they were given to. -/
abbrev Given := List (String × List String)

/-- The values given to a name, in order. -/
def Given.values (g : Given) (name : String) : List String :=
  (g.lookup name).getD []

/-- Whether a name has been given. -/
def Given.has (g : Given) (name : String) : Bool :=
  (g.lookup name).isSome

/-- The value given to a name. -/
def Given.value? (g : Given) (name : String) : Option String :=
  (g.values name).head?

/-- Adds values behind those a name has. -/
def Given.add (g : Given) (name : String) (values : List String) : Given :=
  (name, g.values name ++ values) :: g.filter fun entry => entry.1 ≠ name

/-- The words read so far. -/
structure Scan where
  given : Given := []
  /-- The last option with a value, or operand, and the value if it has come. -/
  pending : Option (OptionRule × Option String) := none
  /-- Whether a double dash has been read. -/
  behindDash : Bool := false
  hasOperand : Bool := false
deriving DecidableEq, Repr

namespace Scan

/-- The option whose value is the next word. -/
def waiting? (s : Scan) : Option OptionRule :=
  match s.pending with
  | some (rule, none) => some rule
  | _ => none

/-- Records the value of an option. -/
def give (s : Scan) (rule : OptionRule) (value : String) : Except UsageError Scan :=
  if rule.role ≠ .repeated && s.given.has rule.name then .error .repeatedOption
  else if rule.isPath && value.isEmpty then .error .missingValue
  else .ok { s with given := s.given.add rule.name [value] }

/-- Records the value of the last option. -/
def settle (s : Scan) : Except UsageError Scan :=
  match s.pending with
  | none => .ok s
  | some (_, none) => .error .missingValue
  | some (rule, some value) => { s with pending := none }.give rule value

/-- Reads the name of an option that takes a value, and the value if it is attached. -/
def takeValue (s : Scan) (rule : OptionRule) (attached : Option String) :
    Except UsageError Scan := do
  let s ← s.settle
  match attached with
  | some value => s.give rule value
  | none => return { s with pending := some (rule, none) }

/-- Reads the name of an option that takes no value. -/
def takeSwitch (s : Scan) (rule : OptionRule) : Except UsageError Scan := do
  let s ← s.settle
  match rule.role with
  | .help => .error .help
  | .version => .error .version
  | _ =>
    if s.given.has rule.name then .error .repeatedOption
    else .ok { s with given := s.given.add rule.name [] }

end Scan

/-- Whether an option takes a value. -/
def OptionRule.takesValue (rule : OptionRule) : Bool :=
  rule.role = .single || rule.role = .repeated

/-! ## The shapes of words -/

/-- A text cut at its first equals sign. -/
def cutAtEquals (cs : List Char) : List Char × Option (List Char) :=
  match cs.dropWhile (· ≠ '=') with
  | [] => (cs, none)
  | _ :: value => (cs.takeWhile (· ≠ '='), some value)

/-- What a word looks like. -/
inductive WordShape where
  | doubleDash
  /-- Two dashes and a name, and maybe an equals sign and a value. -/
  | long (name : String) (value : Option String)
  /-- A dash and letters. -/
  | short (letters : List Char)
  | plain
deriving DecidableEq, Repr

/-- The shape of a word. -/
def WordShape.ofWord (w : String) : WordShape :=
  match w.toList with
  | ['-', '-'] => .doubleDash
  | '-' :: '-' :: cs =>
    let (name, value) := cutAtEquals cs
    .long (String.ofList name) (value.map String.ofList)
  | '-' :: c :: cs => .short (c :: cs)
  | _ => .plain

/-! ## One word -/

namespace Level

/-- Reads an option by its long name. -/
def long (l : Level) (s : Scan) (name : String) (value : Option String) : Except UsageError Scan :=
  match l.options.find? fun rule => rule.name = name with
  | none => .error .unknownArgument
  | some rule =>
    if rule.takesValue then s.takeValue rule value
    else if value.isSome then .error .unneededValue
    else s.takeSwitch rule

/-- The value behind the letter of an option; an equals sign in front of it does not count. -/
def attached? : List Char → Option String
  | [] => none
  | '=' :: cs => some (String.ofList cs)
  | cs => some (String.ofList cs)

/-- Reads options by their letters. -/
def letters (l : Level) (s : Scan) : List Char → Except UsageError Scan
  | [] => .ok s
  | c :: cs =>
    match l.options.find? fun rule => rule.short = some c with
    | none => .error .unknownArgument
    | some rule =>
      if rule.takesValue then s.takeValue rule (attached? cs)
      else do letters l (← s.takeSwitch rule) cs

/-- Reads a word that is no option and no value of one. -/
def plain (l : Level) (s : Scan) (w : String) : Except UsageError Scan :=
  match s.behindDash, l.passedOn with
  | true, some name => do
    let s ← s.settle
    return { s with given := s.given.add name [w] }
  | behindDash, _ =>
    match l.operand.filter fun _ => !s.hasOperand with
    | some rule => do
      let s ← s.settle
      return { s with pending := some (rule, some w), hasOperand := true }
    | none =>
      if l.commands.isEmpty || (behindDash && l.commands.contains w) then .error .unknownArgument
      else .error .unknownCommand

/-- Reads one word. -/
def step (l : Level) (s : Scan) (w : String) : Except UsageError Scan :=
  if s.behindDash then l.plain s w
  else
    match s.waiting?, WordShape.ofWord w with
    | some rule, .plain => .ok { s with pending := some (rule, some w) }
    | waiting, shape =>
      match waiting.filter OptionRule.takesAnyWord, shape with
      | some rule, _ => .ok { s with pending := some (rule, some w) }
      | none, .doubleDash => .ok { s with behindDash := true }
      | none, .long name value => l.long s name value
      | none, .short cs => l.letters s cs
      | none, .plain => l.plain s w

/-- Whether a word names a command where it stands. -/
def opensCommand (l : Level) (s : Scan) (w : String) : Bool :=
  !s.behindDash && s.waiting?.isNone && l.commands.contains w

/-- Reads all words up to the name of a command; the name and the words behind it are left. -/
def read (l : Level) (s : Scan) : List String → Except UsageError (Scan × List String)
  | [] => .ok (s, [])
  | w :: ws =>
    if l.opensCommand s w then .ok (s, w :: ws)
    else do read l (← l.step s w) ws

/-- Checks the value that stands for an option where the option does not stand. -/
def checkFallback (s : Scan) : Option (OptionRule × String) → Except UsageError Unit
  | some (rule, value) =>
    if s.given.has rule.name then .ok () else (s.give rule value).map fun _ => ()
  | none => .ok ()

/-- What the level has been given. -/
def finish (l : Level) (s : Scan) (fallback : Option (OptionRule × String)) :
    Except UsageError Given := do
  let s ← s.settle
  checkFallback s fallback
  if l.operand.isSome && !s.hasOperand then .error .missingOperand
  else return s.given

end Level
end CommandLine
end BuildTrace
