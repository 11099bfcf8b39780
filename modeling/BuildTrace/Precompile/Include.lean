import BuildTrace.Text.Blank
import BuildTrace.Text.Utf8

/-!
# Include — the directives that name other files

* `IncludeDirective` — the name a directive gives, and whether it stands in quotes;
* `IncludeDirective.ofLine?` — reads a line of bytes;
* `physicalLines` — a text cut behind its line feeds.

A directive is recognised by its beginning alone: `#include`, with blanks where they may stand, then
a quote or an angle bracket, a name, and a quote or an angle bracket, whichever comes first. The
name has to be well-formed UTF-8; the rest of the line may be anything.
-/

namespace BuildTrace

/-- A directive that asks for another file. -/
structure IncludeDirective where
  quoted : Bool
  name : String
deriving DecidableEq, Repr

namespace IncludeDirective

/-- The bytes without the blanks in front of them. -/
def skipBlanks (bs : List UInt8) : List UInt8 :=
  match h : Text.Utf8.next? bs with
  | none => bs
  | some (c, rest) =>
    have := Text.Utf8.next?_length_lt h
    if Text.isBlank c then skipBlanks rest else bs
termination_by bs.length

/-- The bytes behind `lead`, if they begin with it. -/
def expect? (lead : String) (bs : List UInt8) : Option (List UInt8) :=
  (Text.bytes lead).isPrefixOf? bs

/-- Whether a character ends a name. -/
def isNameEnd (c : Char) : Bool :=
  c = '>' || c = '"'

/-- The characters up to the first that ends a name, if there is one and all before it is text. -/
def nameUpTo? (bs : List UInt8) : Option (List Char) :=
  match h : Text.Utf8.next? bs with
  | none => none
  | some (c, rest) =>
    have := Text.Utf8.next?_length_lt h
    if isNameEnd c then some [] else (nameUpTo? rest).map (c :: ·)
termination_by bs.length

/-- Whether the name opens with a quote, and what stands behind the opening. -/
def opening? : List UInt8 → Option (Bool × List UInt8)
  | b :: rest =>
    if b = 0x22 then some (true, rest)
    else if b = 0x3C then some (false, rest)
    else none
  | [] => none

/-- The directive in a line, if it begins with one. -/
def ofLine? (line : List UInt8) : Option IncludeDirective := do
  let rest ← expect? "#" (skipBlanks line)
  let rest ← expect? "include" (skipBlanks rest)
  let (quoted, rest) ← opening? (skipBlanks rest)
  match ← nameUpTo? rest with
  | [] => none
  | name => return { quoted := quoted, name := String.ofList name }

end IncludeDirective

/-- The lines of a text, each with its line feed; only the last may be without. -/
def physicalLines : List UInt8 → List (List UInt8)
  | [] => []
  | b :: bs =>
    if b = 10 then [b] :: physicalLines bs
    else
      match physicalLines bs with
      | [] => [[b]]
      | line :: lines => (b :: line) :: lines

/-- Cutting loses nothing. -/
theorem flatten_physicalLines (bs : List UInt8) : (physicalLines bs).flatten = bs := by
  induction bs with
  | nil => rfl
  | cons b bs ih =>
      simp only [physicalLines]
      split
      · simp [ih]
      · cases h : physicalLines bs with
        | nil =>
            rw [h] at ih
            simp [← ih]
        | cons line lines =>
            rw [h] at ih
            simpa using ih

end BuildTrace
