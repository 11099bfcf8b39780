import BuildTrace.Toml.Quoted

/-!
# Printer — writing TOML strings and lists of them

* `StringForm`, `formOf` — the way a string is written: the plainest that needs no escape, if there
  is one;
* `stringText` — a string;
* `stringsText` — a list of strings, one on a line if there are several.
-/

namespace BuildTrace
namespace Toml

/-- The ways to write a string. -/
inductive StringForm where
  | basic
  | literal
  | basicLines
  | literalLines
deriving DecidableEq, Repr

/-- Whether a character can only be written as an escape. -/
def needsEscape (c : Char) : Bool :=
  c ≠ '\t' && c ≠ '\n' && (c.toNat < 0x20 || c.toNat = 0x7F)

/-- The length of the longest run of a character. -/
def longestRun (mark : Char) (cs : List Char) : Nat :=
  (cs.foldl (fun (run, longest) c =>
    let run := if c = mark then run + 1 else 0
    (run, max run longest)) (0, 0)).2

/-- The way a string is written. -/
def formOf (cs : List Char) : StringForm :=
  let escapes := cs.any needsEscape
  let lines := cs.contains '\n'
  let backslash := cs.contains '\\'
  let quotes := longestRun '"' cs
  let apostrophes := longestRun '\'' cs
  if !escapes && !backslash && quotes = 0 && !lines then .basic
  else if !escapes && apostrophes = 0 && !lines then .literal
  else if !escapes && !backslash && quotes ≤ 2 then .basicLines
  else if !escapes && apostrophes ≤ 2 then .literalLines
  else if lines then .basicLines
  else .basic

/-- A digit of base sixteen, as a capital letter if it is one. -/
def hexDigit (n : Nat) : Char :=
  if n < 10 then Char.ofNat (48 + n) else Char.ofNat (55 + n)

/-- A character in quotes, other than a quote and a line feed. -/
def escapeChar (c : Char) : List Char :=
  if c = '\t' then ['\\', 't']
  else if c = '\\' then ['\\', '\\']
  else if c = '\r' then ['\\', 'r']
  else if c.toNat = 8 then ['\\', 'b']
  else if c.toNat = 12 then ['\\', 'f']
  else if needsEscape c then
    ['\\', 'u', '0', '0', hexDigit (c.toNat / 16), hexDigit (c.toNat % 16)]
  else [c]

/-- A text in quotes. -/
def basicBody : List Char → List Char
  | [] => []
  | c :: cs =>
    (if c = '"' then ['\\', '"'] else if c = '\n' then ['\\', 'n'] else escapeChar c) ++
      basicBody cs

/-- A text in triple quotes, behind so many quotes that are not escaped. Of three quotes in a row
the third is escaped. -/
def basicLinesBody (run : Nat) : List Char → List Char
  | [] => []
  | c :: cs =>
    if c = '"' then
      if run < 2 then c :: basicLinesBody (run + 1) cs else '\\' :: c :: basicLinesBody 0 cs
    else if c = '\n' then c :: basicLinesBody 0 cs
    else escapeChar c ++ basicLinesBody 0 cs

/-- The line break behind an opening, if the text has several lines. -/
def openingBreak (cs : List Char) : List Char :=
  if cs.contains '\n' then ['\n'] else []

/-- A string. -/
def stringText (s : String) : List Char :=
  let cs := s.toList
  match formOf cs with
  | .basic => '"' :: basicBody cs ++ ['"']
  | .literal => '\'' :: cs ++ ['\'']
  | .basicLines => ['"', '"', '"'] ++ openingBreak cs ++ basicLinesBody 0 cs ++ ['"', '"', '"']
  | .literalLines => ['\'', '\'', '\''] ++ openingBreak cs ++ cs ++ ['\'', '\'', '\'']

/-- The lines of the items of a list. -/
def itemLines (items : List String) : List Char :=
  items.flatMap fun s => "\n    ".toList ++ stringText s ++ [',']

/-- A list of strings. -/
def stringsText : List String → List Char
  | [] => ['[', ']']
  | [s] => '[' :: stringText s ++ [']']
  | items => '[' :: itemLines items ++ ['\n', ']']

end Toml
end BuildTrace
