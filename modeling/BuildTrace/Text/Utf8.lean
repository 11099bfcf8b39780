/-!
# Utf8 — text as bytes and back

Program output is bytes; everything that looks at it works on characters.

* `encode` — the UTF-8 form of a list of characters;
* `Decoder` — a reader that takes one byte at a time. A sequence that cannot be completed is
  replaced by one U+FFFD, and the byte that broke it is read again as a new start, so each maximal
  beginning of a well-formed sequence costs exactly one replacement;
* `decodeLossy`, `decode?` — the text the decoder has read; the second only if nothing was replaced;
* `next?` — the first character of well-formed text and what follows it.
-/

namespace BuildTrace
namespace Text

/-- The UTF-8 form of a list of characters. -/
def encode (cs : List Char) : List UInt8 :=
  cs.flatMap String.utf8EncodeChar

/-- The UTF-8 form of a text. -/
def bytes (s : String) : List UInt8 :=
  encode s.toList

namespace Utf8

/-! ## One sequence -/

/-- A sequence that has begun: how many bytes are still due, the bits read so far, and the range the
next byte has to lie in. The range rules out overlong forms, surrogates and values above U+10FFFF.
-/
structure Partial where
  due : Nat
  bits : Nat
  low : UInt8 := 0x80
  high : UInt8 := 0xBF
deriving DecidableEq, Repr

/-- What the first byte of a sequence says about the rest of it. -/
inductive Lead where
  | complete (c : Char)
  | opens (p : Partial)
  | stray
deriving DecidableEq, Repr

/-- Reads the first byte of a sequence. -/
def Lead.ofByte (b : UInt8) : Lead :=
  if b < 0x80 then .complete (Char.ofNat b.toNat)
  else if b < 0xC2 then .stray
  else if b < 0xE0 then .opens { due := 1, bits := b.toNat - 0xC0 }
  else if b = 0xE0 then .opens { due := 2, bits := 0, low := 0xA0 }
  else if b = 0xED then .opens { due := 2, bits := 0xD, high := 0x9F }
  else if b < 0xF0 then .opens { due := 2, bits := b.toNat - 0xE0 }
  else if b = 0xF0 then .opens { due := 3, bits := 0, low := 0x90 }
  else if b < 0xF4 then .opens { due := 3, bits := b.toNat - 0xF0 }
  else if b = 0xF4 then .opens { due := 3, bits := 4, high := 0x8F }
  else .stray

namespace Partial

/-- Whether `b` may be the next byte. -/
def accepts (p : Partial) (b : UInt8) : Bool :=
  p.low ≤ b && b ≤ p.high

/-- The bits with those of the next byte behind them. -/
def withByte (p : Partial) (b : UInt8) : Nat :=
  p.bits * 64 + (b.toNat - 0x80)

/-- The sequence after one more byte, of which more are due. -/
def extend (p : Partial) (b : UInt8) : Partial :=
  { due := p.due - 1, bits := p.withByte b }

end Partial

/-! ## The decoder -/

/-- The character that stands for bytes that are not text. -/
def replacement : Char := Char.ofNat 0xFFFD

/-- What has been read so far: the characters, last one first, the sequence that is open, and
whether every byte so far belongs to well-formed text. -/
structure Decoder where
  out : List Char := []
  pending : Option Partial := none
  clean : Bool := true
deriving DecidableEq, Repr

namespace Decoder

/-- Adds a character. -/
def emit (d : Decoder) (c : Char) : Decoder :=
  { d with out := c :: d.out, pending := none }

/-- Adds the replacement character. -/
def replace (d : Decoder) : Decoder :=
  { out := replacement :: d.out, pending := none, clean := false }

/-- Reads `b` as the beginning of a sequence. -/
def start (d : Decoder) (b : UInt8) : Decoder :=
  match Lead.ofByte b with
  | .complete c => d.emit c
  | .opens p => { d with pending := some p }
  | .stray => d.replace

/-- Reads one byte. -/
def feed (d : Decoder) (b : UInt8) : Decoder :=
  match d.pending with
  | none => d.start b
  | some p =>
    if p.accepts b then
      if p.due ≤ 1 then d.emit (Char.ofNat (p.withByte b))
      else { d with pending := some (p.extend b) }
    else d.replace.start b

/-- The end of the bytes: a sequence still open is replaced. -/
def finish (d : Decoder) : Decoder :=
  match d.pending with
  | none => d
  | some _ => d.replace

/-- Reads a whole list of bytes. -/
def run (bs : List UInt8) : Decoder :=
  (bs.foldl feed {}).finish

end Decoder

/-! ## One character -/

/-- Completes the open sequence `p`. -/
def completed? (p : Partial) : List UInt8 → Option (Char × List UInt8)
  | [] => none
  | b :: rest =>
    if p.accepts b then
      if p.due ≤ 1 then some (Char.ofNat (p.withByte b), rest)
      else completed? (p.extend b) rest
    else none

/-- The first character and the bytes behind it, if the bytes begin with a well-formed sequence. -/
def next? : List UInt8 → Option (Char × List UInt8)
  | [] => none
  | b :: rest =>
    match Lead.ofByte b with
    | .complete c => some (c, rest)
    | .opens p => completed? p rest
    | .stray => none

theorem completed?_length_lt {p : Partial} {bs rest : List UInt8} {c : Char}
    (h : completed? p bs = some (c, rest)) : rest.length < bs.length := by
  induction bs generalizing p with
  | nil => simp [completed?] at h
  | cons b bs ih =>
      unfold completed? at h
      split at h
      · split at h
        · simp only [Option.some.injEq, Prod.mk.injEq] at h
          simp [← h.2]
        · exact Nat.lt_succ_of_lt (ih h)
      · exact absurd h (by simp)

theorem next?_length_lt {bs rest : List UInt8} {c : Char}
    (h : next? bs = some (c, rest)) : rest.length < bs.length := by
  cases bs with
  | nil => simp [next?] at h
  | cons b bs =>
      simp only [next?] at h
      split at h
      · simp only [Option.some.injEq, Prod.mk.injEq] at h
        simp [← h.2]
      · exact Nat.lt_succ_of_lt (completed?_length_lt h)
      · exact absurd h (by simp)

end Utf8

/-! ## Whole texts -/

/-- The text of the bytes, with U+FFFD for whatever is not UTF-8. -/
def decodeLossy (bs : List UInt8) : List Char :=
  (Utf8.Decoder.run bs).out.reverse

/-- The text of the bytes, if they are UTF-8. -/
def decode? (bs : List UInt8) : Option (List Char) :=
  let d := Utf8.Decoder.run bs
  if d.clean then some d.out.reverse else none

/-- `decodeLossy` as a string. -/
def ofBytesLossy (bs : List UInt8) : String :=
  String.ofList (decodeLossy bs)

end Text
end BuildTrace
