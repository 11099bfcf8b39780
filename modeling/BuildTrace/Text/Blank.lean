/-!
# Blank — white space between words

The characters that separate words and surround a command line, over the whole of Unicode.

* `isBlank c` — `c` carries the Unicode property `White_Space`;
* `trimStart`, `trimEnd`, `trim` — a text without the blanks at its ends.
-/

namespace BuildTrace
namespace Text

/-- The `White_Space` property: twenty-five characters in ten ranges. -/
def isBlank (c : Char) : Bool :=
  c = ' ' || (9 ≤ c.toNat && c.toNat ≤ 13) || c.toNat = 0x85 || c.toNat = 0xA0 ||
    c.toNat = 0x1680 || (0x2000 ≤ c.toNat && c.toNat ≤ 0x200A) || c.toNat = 0x2028 ||
    c.toNat = 0x2029 || c.toNat = 0x202F || c.toNat = 0x205F || c.toNat = 0x3000

/-! ## Trimming -/

/-- Drops the blanks in front. -/
def trimStart (cs : List Char) : List Char :=
  cs.dropWhile isBlank

/-- Drops the blanks behind. -/
def trimEnd (cs : List Char) : List Char :=
  (cs.reverse.dropWhile isBlank).reverse

/-- Drops the blanks on both sides. -/
def trim (cs : List Char) : List Char :=
  trimEnd (trimStart cs)

end Text
end BuildTrace
