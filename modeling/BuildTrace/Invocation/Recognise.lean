import BuildTrace.Invocation.Basic
import BuildTrace.Shell.Words
import BuildTrace.Text.CharClass

/-!
# Recognise — compiler commands among the lines of a build

A line is a compiler command if its first word, launchers left aside, names a compiler and its
options name a source or header to work on.

* `isCompilerName` — `prefix-…-base-version`, with the usual bases;
* `Reading` — what the options of a command say, read from left to right;
* `Invocation.ofLine?` — the command a line stands for, if it stands for one.
-/

namespace BuildTrace
namespace Recognise

/-! ## Names -/

/-- The part of a token behind its last separator. -/
def baseName (token : List Char) : List Char :=
  (token.reverse.takeWhile (· ≠ '/')).reverse

/-- The parts of a name between hyphens. -/
def hyphenParts : List Char → List (List Char)
  | [] => [[]]
  | c :: cs =>
    if c = '-' then [] :: hyphenParts cs
    else
      match hyphenParts cs with
      | [] => [[c]]
      | s :: ss => (c :: s) :: ss

/-- The names of compilers without target or version. -/
def compilerBases : List String :=
  ["gcc", "g++", "cc", "c++", "clang", "clang++"]

/-- A part in front of the base: word characters, dots and plus signs. -/
def isTargetPart (part : List Char) : Bool :=
  !part.isEmpty && part.all fun c => Text.isWordChar c || c = '.' || c = '+'

/-- A part behind the base: digits and dots. -/
def isVersionPart (part : List Char) : Bool :=
  !part.isEmpty && part.all fun c => Text.isDecimalDigit c || c = '.'

/-- Whether a part is the name of a compiler. -/
def isBasePart (part : List Char) : Bool :=
  compilerBases.contains (String.ofList part)

/-- Whether a file name is the name of a compiler: target parts, a base, and perhaps a version, with
hyphens between them. -/
def isCompilerName (name : List Char) : Bool :=
  match (hyphenParts name).reverse with
  | [] => false
  | last :: before =>
    (isBasePart last && before.all isTargetPart) ||
      match before with
      | [] => false
      | base :: before => isVersionPart last && isBasePart base && before.all isTargetPart

/-- Programs that run the compiler named behind them. -/
def launchers : List String :=
  ["ccache", "distcc", "sccache", "icecc"]

/-- Whether a word names a launcher, in any directory. -/
def isLauncher (word : String) : Bool :=
  launchers.contains (String.ofList (baseName word.toList))

/-! ## Sources -/

/-- The part of a file name behind its last dot. -/
def nameEnding? (token : String) : Option String :=
  let reversed := (baseName token.toList).reverse
  if reversed.contains '.' then some (String.ofList (reversed.takeWhile (· ≠ '.')).reverse)
  else none

/-- The endings of source files. -/
def sourceEndings : List String :=
  ["c", "cc", "cpp", "cxx", "c++", "C", "m", "mm"]

/-- The endings of header files. -/
def headerEndings : List String :=
  ["h", "hh", "hpp", "hxx", "h++", "H"]

/-- Whether a token ends like a header. -/
def endsAsHeader (token : String) : Bool :=
  (nameEnding? token).any headerEndings.contains

/-- Whether a token ends like a source or a header. -/
def endsAsSource (token : String) : Bool :=
  (nameEnding? token).any fun e => sourceEndings.contains e || headerEndings.contains e

/-! ## Options -/

/-- What the options of a command say. -/
structure Reading where
  compileOnly : Bool := false
  headerLanguage : Bool := false
  output : Option String := none
  source : Option String := none
deriving DecidableEq, Repr

namespace Reading

/-- Takes in an option that takes a value, and the value unless the command ends in front of it. The
last output and the last language win. -/
def takeValue (r : Reading) : (option : String) → (value : Option String) → Reading
  | "-o", some value => { r with output := some value }
  | "-x", some value => { r with headerLanguage := "-header".toList.isSuffixOf value.toList }
  | _, _ => r

/-- Takes in a token on its own. The last output wins, the first source does. -/
def takeToken (r : Reading) (flag : String) : Reading :=
  if flag = "-c" then { r with compileOnly := true }
  else
    match Options.attached? "-o" flag with
    | some value => { r with output := some value }
    | none =>
      if flag.toList.head? ≠ some '-' && r.source.isNone && endsAsSource flag then
        { r with source := some flag }
      else r

/-- Reads on through the tokens of a command: two at a time where an option takes a value. -/
def readOn (r : Reading) : List String → Reading
  | [] => r
  | [flag] => if Options.wantsValue flag then r.takeValue flag none else r.takeToken flag
  | flag :: value :: rest =>
    if Options.wantsValue flag then readOn (r.takeValue flag (some value)) rest
    else readOn (r.takeToken flag) (value :: rest)

/-- The whole list of options. -/
def ofFlags (flags : List String) : Reading :=
  readOn {} flags

/-- What the command makes of its source, if it works on one. -/
def kind? (r : Reading) (source : String) : Option ProductKind :=
  if r.headerLanguage || endsAsHeader source then some .precompiledHeader
  else if r.compileOnly then some .compile
  else none

end Reading

/-- The line without what a wrapper prints in front of the command it runs. -/
def commandText (line : String) : List Char :=
  let trimmed := Text.trim line.toList
  match "libtool: compile:".toList.isPrefixOf? trimmed with
  | some rest => Text.trimStart rest
  | none => trimmed

end Recognise

open Recognise in
/-- The compiler command that `line`, printed while the build was in `cwd`, stands for. -/
def Invocation.ofLine? (cwd : Path) (line : String) : Option Invocation :=
  match (Shell.words? (commandText line)).map (·.dropWhile isLauncher) with
  | some (compiler :: flags) =>
    if isCompilerName (baseName compiler.toList) then
      let reading := Reading.ofFlags flags
      reading.source.bind fun source =>
        (reading.kind? source).map fun kind =>
          { workingDirectory := cwd
            compiler := compiler
            sourceFile := cwd.lexicalJoin ⟨source⟩
            kind := kind
            flags := flags
            output := reading.output.map fun o => cwd.lexicalJoin ⟨o⟩
            rawLine := line }
    else none
  | _ => none

end BuildTrace
