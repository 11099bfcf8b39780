/-!
# Announcement — what `make` says about directories

When asked to, `make` prints a line for every directory it changes to and from:
`make[1]: Entering directory 'lib'`.

* `Announcement` — the verb and the directory of such a line;
* `Announcement.after?` — what stands behind one occurrence of `make`;
* `Announcement.find?` — the announcement of a line, read from the leftmost `make` that begins one.
-/

namespace BuildTrace
namespace Directory

/-- The verb and the directory of an announcement. -/
structure Announcement where
  verb : String
  dir : String
deriving DecidableEq, Repr

namespace Announcement

/-- Whether a character may open the directory. -/
def isOpeningQuote (c : Char) : Bool :=
  c = Char.ofNat 0x60 || c = '\''

/-- The directory between the quote just read and the next apostrophe, if it is not empty. -/
def quoted? (cs : List Char) : Option String :=
  match cs.takeWhile (· ≠ '\''), cs.dropWhile (· ≠ '\'') with
  | c :: dir, _ :: _ => some (String.ofList (c :: dir))
  | _, _ => none

/-- The announcement whose verb is next. -/
def fromVerb? (cs : List Char) : Option Announcement :=
  match cs.takeWhile (· ≠ ' ') with
  | [] => none
  | v :: verb =>
    match " directory ".toList.isPrefixOf? (cs.dropWhile (· ≠ ' ')) with
    | some (q :: rest) =>
      if isOpeningQuote q then
        (quoted? rest).map fun dir => { verb := String.ofList (v :: verb), dir := dir }
      else none
    | _ => none

/-- The announcement that goes on behind a `make`: anything up to a colon, then a space, a verb
without spaces, the word `directory` and the directory in quotes. -/
def after? (cs : List Char) : Option Announcement :=
  match cs.dropWhile (· ≠ ':') with
  | ':' :: ' ' :: rest => fromVerb? rest
  | _ => none

/-- The announcement in a text, at the leftmost `make` that begins one. What stands behind a `make`
hangs on the next colon alone, so one that fails rules out all others in front of that colon. -/
def find? (cs : List Char) : Option Announcement :=
  match cs with
  | [] => none
  | c :: cs =>
    if "make".toList.isPrefixOf (c :: cs) then (after? cs).or (find? (cs.dropWhile (· ≠ ':')))
    else find? cs
termination_by cs.length
decreasing_by
  · exact Nat.lt_succ_of_le (List.dropWhile_sublist _).length_le
  · exact Nat.lt_succ_self _

end Announcement
end Directory
end BuildTrace
