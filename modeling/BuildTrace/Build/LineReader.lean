import BuildTrace.Text.Utf8

/-!
# LineReader — output that arrives in pieces

* `LineReader.push` — adds bytes behind those that are waiting;
* `LineReader.next?` — takes the first complete line;
* `decodeLine` — the text of a line: without the line feed, one carriage return in front of it, and
  with whatever is not UTF-8 replaced.
-/

namespace BuildTrace

/-- The byte that ends a line. -/
def lineFeed : UInt8 := 10

/-- The byte that may stand in front of it. -/
def carriageReturn : UInt8 := 13

/-- The text of a line whose line feed has been taken off. -/
def decodeLine (bs : List UInt8) : String :=
  Text.ofBytesLossy (if bs.getLast? = some carriageReturn then bs.dropLast else bs)

/-- Bytes that are waiting for the end of their line. -/
structure LineReader where
  data : List UInt8 := []
deriving DecidableEq, Repr

namespace LineReader

/-- Adds bytes. -/
def push (b : LineReader) (bs : List UInt8) : LineReader :=
  { data := b.data ++ bs }

/-- How many bytes are waiting. -/
def pending (b : LineReader) : Nat :=
  b.data.length

/-- Takes the first complete line. -/
def next? (b : LineReader) : Option (String × LineReader) :=
  match b.data.dropWhile (· ≠ lineFeed) with
  | [] => none
  | _ :: rest => some (decodeLine (b.data.takeWhile (· ≠ lineFeed)), { data := rest })

theorem pending_lt_of_next? {b b' : LineReader} {line : String}
    (h : b.next? = some (line, b')) : b'.pending < b.pending := by
  unfold next? at h
  split at h
  · exact absurd h (by simp)
  · next f rest hs =>
      simp only [Option.some.injEq, Prod.mk.injEq] at h
      obtain ⟨-, rfl⟩ := h
      have h1 := (List.dropWhile_sublist (fun x => decide (x ≠ lineFeed)) (l := b.data)).length_le
      rw [hs] at h1
      exact h1

/-- Drops the bytes that are waiting, and says how many there were. -/
def discard (b : LineReader) : Nat × LineReader :=
  (b.pending, {})

end LineReader
end BuildTrace
