import BuildTrace.Text.Blank

/-!
# Words — a command line as a list of words

Build tools print the commands they run the way a shell would read them. The splitter takes one
character at a time; what a character means depends on the quotes that are open.

* `Quoting` — which quotes are open, and whether the next character is escaped;
* `Splitter.step` — one character;
* `words?` — the words of a line, or nothing if a quote stays open at the end.
-/

namespace BuildTrace
namespace Shell

/-- What is open at a place of the line. -/
inductive Quoting where
  | bare
  /-- Behind a backslash outside quotes. -/
  | escaped
  | single
  | double
  /-- Behind a backslash inside double quotes. -/
  | doubleEscaped
deriving DecidableEq, Repr

/-- A line read so far: the finished words, last one first; the word that is being read, last
character first, if there is one; and what is open. -/
structure Splitter where
  finished : List String := []
  current : Option (List Char) := none
  quoting : Quoting := .bare
deriving DecidableEq, Repr

/-- The characters a backslash stands in front of, inside double quotes, to mean themselves. -/
def isDoubleQuoteEscape (c : Char) : Bool :=
  c = '"' || c = '\\' || c = '$' || c = Char.ofNat 0x60

namespace Splitter

/-- Opens a word, unless one is open. -/
def openWord (s : Splitter) : Splitter :=
  { s with current := some (s.current.getD []) }

/-- Adds a character to the word. -/
def add (s : Splitter) (c : Char) : Splitter :=
  { s with current := some (c :: s.current.getD []) }

/-- Ends the word, if one is open. -/
def endWord (s : Splitter) : Splitter :=
  match s.current with
  | none => s
  | some cs => { s with finished := String.ofList cs.reverse :: s.finished, current := none }

/-- Changes what is open. -/
def withQuoting (s : Splitter) (q : Quoting) : Splitter :=
  { s with quoting := q }

/-- Reads one character. -/
def step (s : Splitter) (c : Char) : Splitter :=
  match s.quoting with
  | .bare =>
    if c = '\'' then s.openWord.withQuoting .single
    else if c = '"' then s.openWord.withQuoting .double
    else if c = '\\' then s.openWord.withQuoting .escaped
    else if Text.isBlank c then s.endWord
    else s.add c
  | .escaped => (s.add c).withQuoting .bare
  | .single => if c = '\'' then s.withQuoting .bare else s.add c
  | .double =>
    if c = '"' then s.withQuoting .bare
    else if c = '\\' then s.withQuoting .doubleEscaped
    else s.add c
  | .doubleEscaped =>
    (if isDoubleQuoteEscape c then s.add c else (s.add '\\').add c).withQuoting .double

/-- The words, if no quote is open. A backslash at the very end stands for nothing. -/
def finish? (s : Splitter) : Option (List String) :=
  match s.quoting with
  | .bare | .escaped => some s.endWord.finished.reverse
  | .single | .double | .doubleEscaped => none

end Splitter

/-- The words of a command line, or nothing if a quote stays open. -/
def words? (line : List Char) : Option (List String) :=
  (line.foldl Splitter.step {}).finish?

end Shell
end BuildTrace
