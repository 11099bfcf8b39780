import BuildTrace.Text.Letter

/-!
# Case — words compared without regard to capital letters

* `lower` — a text in small letters.

Every capital letter has its small one, except that the capital sigma has two: one at the end of a
word, and one everywhere else.
-/

namespace BuildTrace
namespace Text

/-- The capital sigma. -/
def capitalSigma : Char := Char.ofNat 0x3A3

/-- The small sigma at the end of a word. -/
def finalSigma : Char := Char.ofNat 0x3C2

/-- Whether there is a letter next to a place in a text, going along the given characters. -/
def hasLetterNext (cs : List Char) : Bool :=
  (cs.dropWhile isCaseNeutral).head?.any isCased

/-- Small letters for `cs`, behind the characters `before`, last one first. -/
def lowerBehind (before : List Char) : List Char → List Char
  | [] => []
  | c :: cs =>
    let small :=
      if c = capitalSigma && hasLetterNext before && !hasLetterNext cs then [finalSigma]
      else smallOf c
    small ++ lowerBehind (c :: before) cs

/-- A text in small letters. -/
def lower (s : String) : String :=
  String.ofList (lowerBehind [] s.toList)

end Text
end BuildTrace
