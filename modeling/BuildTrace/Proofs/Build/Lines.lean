import BuildTrace.Build.LineReader
import BuildTrace.Proofs.Text.Cut
import BuildTrace.Proofs.Text.Decoding
import Mathlib.Data.List.Forall2

/-!
# Lines — the lines of a whole stream

A reader gets its stream in pieces, but what it hands out hangs on the stream alone:

* `LinesThen`, `LineText`, `ReadsAs` — the rule: where a stream has its lines, what each of them
  says, and the lines of all of it;
* `completeLines`, `unfinishedLine` — a stream cut at its line feeds: the texts of the lines it
  ends, and the bytes behind the last of them;
* `readsAs_iff` — the two say what the rule says;
* `stream_induction` — proofs about a stream, line by line;
* `completeLines_append`, `unfinishedLine_append` — a stream that goes on;
* `LineReader.next?_of_line`, `LineReader.next?_eq_none` — one line taken from a stream.
-/

namespace BuildTrace

/-! ## The lines of a stream

A line feed is the byte 10, a carriage return the byte 13. -/

/-- The stream is these lines, each with a line feed behind it and none inside, then the rest. -/
structure LinesThen (stream : List UInt8) (bodies : List (List UInt8)) (rest : List UInt8) :
    Prop where
  eq : stream = bodies.flatMap (· ++ [10]) ++ rest
  unbroken : ∀ body ∈ bodies, 10 ∉ body

/-- The text of a line: its bytes but for one carriage return at the end, read as a whole, with
U+FFFD for whatever is not UTF-8. -/
inductive LineText : List UInt8 → String → Prop where
  | plain {body : List UInt8} {text : String} :
      body.getLast? ≠ some 13 → Text.Lossy body text.toList → LineText body text
  | returned {body : List UInt8} {text : String} :
      Text.Lossy body text.toList → LineText (body ++ [13]) text

/-- The lines that a stream ends say these texts, and `rest` is what stands behind the last of them.
-/
structure ReadsAs (stream : List UInt8) (lines : List String) (rest : List UInt8) : Prop where
  cut : ∃ bodies, LinesThen stream bodies rest ∧ List.Forall₂ LineText bodies lines
  unended : 10 ∉ rest

theorem ofBytesLossy_iff {bs : List UInt8} {text : String} :
    Text.Lossy bs text.toList ↔ text = Text.ofBytesLossy bs := by
  rw [Text.lossy_iff, Text.ofBytesLossy, ← String.toList_inj, String.toList_ofList]

/-- The reader decodes a line by the rule. -/
theorem lineText_iff {body : List UInt8} {text : String} :
    LineText body text ↔ text = decodeLine body := by
  constructor
  · intro h
    cases h with
    | plain hlast htext =>
        have hlast' : body.getLast? ≠ some carriageReturn := hlast
        rw [decodeLine, if_neg hlast']
        exact ofBytesLossy_iff.1 htext
    | @returned body _ htext =>
        have hlast : (body ++ [13]).getLast? = some carriageReturn := List.getLast?_concat
        rw [decodeLine, if_pos hlast, List.dropLast_concat]
        exact ofBytesLossy_iff.1 htext
  · rintro rfl
    by_cases hlast : body.getLast? = some carriageReturn
    · rcases List.getLast?_eq_some_iff.1 hlast with ⟨front, rfl⟩
      rw [decodeLine, if_pos hlast, List.dropLast_concat]
      exact .returned (ofBytesLossy_iff.2 rfl)
    · rw [decodeLine, if_neg hlast]
      exact .plain hlast (ofBytesLossy_iff.2 rfl)

theorem forall₂_lineText_iff {bodies : List (List UInt8)} {lines : List String} :
    List.Forall₂ LineText bodies lines ↔ lines = bodies.map decodeLine := by
  have hrule : LineText = fun body text => decodeLine body = text := by
    funext body text
    exact propext (lineText_iff.trans eq_comm)
  rw [hrule, ← List.forall₂_map_left_iff (R := (· = ·)), List.forall₂_eq_eq_eq, eq_comm]

/-! ## Cutting a stream -/

/-- The texts of the lines that a stream ends, in order. -/
def completeLines (stream : List UInt8) : List String :=
  (stream.splitOn lineFeed).dropLast.map decodeLine

/-- The bytes behind the last line feed of a stream. -/
def unfinishedLine (stream : List UInt8) : List UInt8 :=
  (stream.splitOn lineFeed).getLastD []

section Cutting

variable {body bs : List UInt8}

theorem completeLines_of_not_mem (h : lineFeed ∉ bs) : completeLines bs = [] := by
  simp [completeLines, List.splitOn_eq_singleton h]

theorem unfinishedLine_of_not_mem (h : lineFeed ∉ bs) : unfinishedLine bs = bs := by
  simp [unfinishedLine, List.splitOn_eq_singleton h]

theorem completeLines_of_line (h : lineFeed ∉ body) (bs : List UInt8) :
    completeLines (body ++ lineFeed :: bs) = decodeLine body :: completeLines bs := by
  have hcut := List.splitOn_append_cons_self_of_not_mem h bs
  have hne := List.splitOn_ne_nil lineFeed bs
  simp [completeLines, hcut, List.dropLast_cons_of_ne_nil hne]

theorem unfinishedLine_of_line (h : lineFeed ∉ body) (bs : List UInt8) :
    unfinishedLine (body ++ lineFeed :: bs) = unfinishedLine bs := by
  have hcut := List.splitOn_append_cons_self_of_not_mem h bs
  have hne := List.splitOn_ne_nil lineFeed bs
  cases hs : bs.splitOn lineFeed with
  | nil => exact absurd hs hne
  | cons part parts => simp [unfinishedLine, hcut, hs]

end Cutting

/-- A stream is a line that has not been ended, or a line, its line feed and a stream. -/
theorem stream_induction {motive : List UInt8 → Prop}
    (rest : ∀ bs, lineFeed ∉ bs → motive bs)
    (line : ∀ body bs, lineFeed ∉ body → motive bs → motive (body ++ lineFeed :: bs)) :
    ∀ stream, motive stream := by
  intro stream
  -- What comes behind a line feed is shorter than the stream.
  induction hn : stream.length using Nat.strongRecOn generalizing stream with
  | ind n ih =>
    by_cases hmem : lineFeed ∈ stream
    · rcases List.eq_append_cons_of_mem hmem with ⟨body, bs, rfl, hbody⟩
      refine line body bs hbody (ih bs.length ?_ bs rfl)
      simp only [List.length_append, List.length_cons] at hn
      omega
    · exact rest stream hmem

theorem not_mem_unfinishedLine : ∀ stream, lineFeed ∉ unfinishedLine stream := by
  refine stream_induction ?rest ?line
  case rest =>
    intro bs h
    rwa [unfinishedLine_of_not_mem h]
  case line =>
    intro body bs h ih
    rwa [unfinishedLine_of_line h]

namespace LinesThen

variable {stream body rest : List UInt8} {bodies : List (List UInt8)}

theorem append (h : LinesThen stream bodies rest) (bs : List UInt8) :
    LinesThen (stream ++ bs) bodies (rest ++ bs) where
  eq := by rw [h.eq, List.append_assoc]
  unbroken := h.unbroken

theorem snoc (h : LinesThen stream bodies (body ++ lineFeed :: rest)) (hbody : lineFeed ∉ body) :
    LinesThen stream (bodies ++ [body]) rest where
  eq := by simp [h.eq, lineFeed]
  unbroken := by
    intro b hb
    rcases List.mem_append.1 hb with hb | hb
    · exact h.unbroken b hb
    · rwa [List.mem_singleton.1 hb]

theorem splitOn_eq (h : LinesThen stream bodies rest) :
    stream.splitOn lineFeed = bodies ++ rest.splitOn lineFeed := by
  rcases h with ⟨rfl, hunbroken⟩
  -- By lines: the first line feed of all ends the first line, since none is inside it.
  induction bodies with
  | nil => rfl
  | cons body bodies ih =>
      rcases List.forall_mem_cons.1 hunbroken with ⟨hbody, hbodies⟩
      have hbody' : lineFeed ∉ body := hbody
      calc
        ((body :: bodies).flatMap (· ++ [10]) ++ rest).splitOn lineFeed
            = (body ++ lineFeed :: (bodies.flatMap (· ++ [10]) ++ rest)).splitOn lineFeed := by
              simp [lineFeed]
        _ = body :: (bodies.flatMap (· ++ [10]) ++ rest).splitOn lineFeed :=
              List.splitOn_append_cons_self_of_not_mem hbody' _
        _ = body :: bodies ++ rest.splitOn lineFeed := by rw [ih hbodies, List.cons_append]

theorem completeLines_eq (h : LinesThen stream bodies rest) :
    completeLines stream = bodies.map decodeLine ++ completeLines rest := by
  rw [completeLines, h.splitOn_eq,
    List.dropLast_append_of_ne_nil (List.splitOn_ne_nil lineFeed rest), List.map_append]
  rfl

end LinesThen

theorem readsAs_completeLines : ∀ stream,
    ReadsAs stream (completeLines stream) (unfinishedLine stream) := by
  refine stream_induction ?rest ?line
  case rest =>
    intro bs h
    rw [completeLines_of_not_mem h, unfinishedLine_of_not_mem h]
    exact ⟨⟨[], ⟨rfl, by simp⟩, .nil⟩, h⟩
  case line =>
    intro body bs h ih
    rw [completeLines_of_line h, unfinishedLine_of_line h]
    rcases ih.cut with ⟨bodies, hcut, htexts⟩
    have hcut' : LinesThen (body ++ lineFeed :: bs) (body :: bodies) (unfinishedLine bs) := by
      refine ⟨?_, List.forall_mem_cons.2 ⟨h, hcut.unbroken⟩⟩
      calc
        body ++ lineFeed :: bs
            = body ++ lineFeed :: (bodies.flatMap (· ++ [10]) ++ unfinishedLine bs) := by
              rw [← hcut.eq]
        _ = (body :: bodies).flatMap (· ++ [10]) ++ unfinishedLine bs := by simp [lineFeed]
    exact ⟨⟨_, hcut', .cons (lineText_iff.2 rfl) htexts⟩, ih.unended⟩

/-- Cut at its line feeds, a stream is read by the rule, and the rule reads it in no other way. -/
theorem readsAs_iff {stream rest : List UInt8} {lines : List String} :
    ReadsAs stream lines rest ↔ lines = completeLines stream ∧ rest = unfinishedLine stream := by
  constructor
  · rintro ⟨⟨bodies, hcut, htexts⟩, hrest⟩
    have hlines := hcut.completeLines_eq
    rw [completeLines_of_not_mem hrest, List.append_nil] at hlines
    have hbehind : unfinishedLine stream = rest := by
      have hrest' : lineFeed ∉ rest := hrest
      rw [unfinishedLine, hcut.splitOn_eq, List.splitOn_eq_singleton hrest']
      simp
    exact ⟨(forall₂_lineText_iff.1 htexts).trans hlines.symm, hbehind.symm⟩
  · rintro ⟨rfl, rfl⟩
    exact readsAs_completeLines stream

/-! ## A stream that goes on -/

/-- The line that has not been ended goes on with the bytes that follow. -/
theorem completeLines_append (more : List UInt8) :
    ∀ stream, completeLines (stream ++ more) =
      completeLines stream ++ completeLines (unfinishedLine stream ++ more) := by
  -- By lines: each stands in front on both sides, until one is left that has not been ended.
  refine stream_induction ?rest ?line
  case rest =>
    intro bs h
    rw [completeLines_of_not_mem h, unfinishedLine_of_not_mem h, List.nil_append]
  case line =>
    intro body bs h ih
    rw [List.append_assoc, List.cons_append, completeLines_of_line h, completeLines_of_line h,
      unfinishedLine_of_line h, ih, List.cons_append]

theorem unfinishedLine_append (more : List UInt8) :
    ∀ stream, unfinishedLine (stream ++ more) = unfinishedLine (unfinishedLine stream ++ more) := by
  refine stream_induction ?rest ?line
  case rest =>
    intro bs h
    rw [unfinishedLine_of_not_mem h]
  case line =>
    intro body bs h ih
    rw [List.append_assoc, List.cons_append, unfinishedLine_of_line h, unfinishedLine_of_line h, ih]

/-! ## Taking lines -/

namespace LineReader

variable {body bs : List UInt8}

theorem next?_eq_none (h : lineFeed ∉ bs) : next? { data := bs } = none := by
  simp only [next?, Text.dropWhile_ne_of_not_mem h]

theorem next?_of_line (h : lineFeed ∉ body) (bs : List UInt8) :
    next? { data := body ++ lineFeed :: bs } = some (decodeLine body, { data := bs }) := by
  simp only [next?, Text.dropWhile_ne_append h, Text.takeWhile_ne_append h]

end LineReader
end BuildTrace
