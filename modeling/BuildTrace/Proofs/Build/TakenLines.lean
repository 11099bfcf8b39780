import BuildTrace.Proofs.Build.Lines
import Mathlib.Data.List.Induction
import Mathlib.Data.List.ReduceOption

/-!
# TakenLines — lines taken early, late or in vain

Bytes are pushed as they arrive, and lines are asked for at any time, also while none is complete.
What is handed out does not hang on the order of the two:

* `bytesBehind` — what a stream has behind its first lines;
* `LineReader.NextOutcome` — all that asking for a line can do;
* `LineReader.Call`, `LineReader.Session` — bytes pushed and lines asked for, in any order;
* `LineReader.Session.Accounts` — the invariant: the bytes pushed are the lines handed out, each
  with its line feed, and then those that are waiting;
* `LineReader.lines_of_calls` — what any calls leave, and what the next one answers.
-/

namespace BuildTrace

/-! ## A stream and its first lines -/

/-- The bytes behind the first `n` line feeds of a stream. -/
def bytesBehind (n : Nat) (stream : List UInt8) : List UInt8 :=
  [10].intercalate ((stream.splitOn 10).drop n)

theorem LinesThen.bytesBehind_eq {stream rest : List UInt8} {bodies : List (List UInt8)}
    (h : LinesThen stream bodies rest) : bytesBehind bodies.length stream = rest := by
  have hcut : stream.splitOn 10 = bodies ++ rest.splitOn 10 := h.splitOn_eq
  rw [bytesBehind, hcut, List.drop_left, List.intercalate_splitOn]

namespace LineReader

/-! ## Asking for a line -/

/-- All that asking for a line can do: none is complete, or the first one comes off. -/
inductive NextOutcome (b : LineReader) : Option (String × LineReader) → Prop where
  | waiting : lineFeed ∉ b.data → NextOutcome b none
  | line {body rest : List UInt8} : lineFeed ∉ body → b.data = body ++ lineFeed :: rest →
      NextOutcome b (some (decodeLine body, { data := rest }))

theorem nextOutcome (b : LineReader) : NextOutcome b b.next? := by
  by_cases hmem : lineFeed ∈ b.data
  · -- The first line feed cuts off the line, whatever stands behind it.
    rcases List.eq_append_cons_of_mem hmem with ⟨body, rest, hdata, hbody⟩
    have hnext : b.next? = some (decodeLine body, { data := rest }) := by
      rw [← next?_of_line hbody rest, ← hdata]
    rw [hnext]
    exact .line hbody hdata
  · have hnext : b.next? = none := next?_eq_none hmem
    rw [hnext]
    exact .waiting hmem

theorem head?_completeLines (b : LineReader) :
    (completeLines b.data).head? = b.next?.map Prod.fst := by
  have houtcome := nextOutcome b
  generalize b.next? = answer at houtcome
  cases houtcome with
  | waiting hdata =>
      rw [completeLines_of_not_mem hdata]
      rfl
  | line hbody hdata =>
      rw [hdata, completeLines_of_line hbody]
      rfl

theorem next?_eq_none_iff (b : LineReader) : b.next? = none ↔ completeLines b.data = [] := by
  rw [← List.head?_eq_none_iff, head?_completeLines, Option.map_eq_none_iff]

/-! ## Calls in any order -/

/-- What the owner of a reader can do. -/
inductive Call where
  | push (bytes : List UInt8)
  | next
deriving DecidableEq, Repr

/-- The bytes that a call adds. -/
def Call.bytes : Call → List UInt8
  | .push bytes => bytes
  | .next => []

/-- All bytes that were pushed, in order. -/
def pushed (calls : List Call) : List UInt8 :=
  calls.flatMap Call.bytes

/-- A reader and its answers so far, `none` where no line was complete. -/
structure Session where
  reader : LineReader := {}
  answers : List (Option String) := []
deriving DecidableEq, Repr

namespace Session

/-- One more call. -/
def call (s : Session) : Call → Session
  | .push bytes => { s with reader := s.reader.push bytes }
  | .next =>
    match s.reader.next? with
    | none => { s with answers := s.answers ++ [none] }
    | some (line, reader) => { reader := reader, answers := s.answers ++ [some line] }

/-- The lines handed out. -/
def lines (s : Session) : List String :=
  s.answers.reduceOption

theorem answers_call_next (s : Session) :
    (s.call .next).answers = s.answers ++ [(completeLines s.reader.data).head?] := by
  rw [head?_completeLines, call]
  cases s.reader.next? with
  | none => rfl
  | some taken => rfl

/-- What was pushed is what was handed out, each line with its line feed, and then what is waiting.
-/
def Accounts (s : Session) (stream : List UInt8) : Prop :=
  ∃ bodies, LinesThen stream bodies s.reader.data ∧ s.lines = bodies.map decodeLine

variable {s : Session} {stream : List UInt8}

theorem Accounts.call (h : s.Accounts stream) (c : Call) :
    (s.call c).Accounts (stream ++ c.bytes) := by
  rcases h with ⟨bodies, hstream, hlines⟩
  cases c with
  | push bytes => exact ⟨bodies, hstream.append bytes, hlines⟩
  | next =>
      have houtcome := nextOutcome s.reader
      rw [Call.bytes, List.append_nil, Session.call]
      generalize s.reader.next? = answer at houtcome
      cases houtcome with
      | waiting =>
          -- An answer without a line changes nothing but the record.
          refine ⟨bodies, hstream, ?_⟩
          simpa [lines, List.reduceOption_append] using hlines
      | @line body rest hbody hdata =>
          -- The line comes off what was waiting, and is the last one handed out.
          rw [hdata] at hstream
          refine ⟨bodies ++ [body], hstream.snoc hbody, ?_⟩
          rw [List.map_append, ← hlines]
          simp [lines, List.reduceOption_append]

end Session

/-- A reader that is empty at first, after some calls. -/
def session (calls : List Call) : Session :=
  calls.foldl Session.call {}

theorem accounts_session (calls : List Call) : (session calls).Accounts (pushed calls) := by
  induction calls using List.reverseRecOn with
  | nil => exact ⟨[], ⟨rfl, by simp⟩, rfl⟩
  | append_singleton calls c ih =>
      have hstep := ih.call c
      simpa [session, pushed] using hstep

/-- **A reader hands out the lines of its bytes, whenever they are asked for.** Push bytes in any
pieces and ask for lines at any time. The stream that was pushed has its lines by a rule of its own,
and there is one way to read it. The lines handed out are the first ones of them. The next answer is
the first line that has not been handed out, and no line just if there is none. The bytes waiting
are those behind the line feed of the last line handed out: the stream is the lines handed out, byte
for byte, each with its line feed, and then what is waiting. -/
theorem lines_of_calls (calls : List Call) :
    let stream := pushed calls
    let s := session calls
    ∃ lines rest, ReadsAs stream lines rest ∧
      (∀ lines' rest', ReadsAs stream lines' rest' → lines' = lines ∧ rest' = rest) ∧
      s.lines <+: lines ∧
      (s.call .next).answers = s.answers ++ [lines[s.lines.length]?] ∧
      (s.reader.next? = none ↔ s.lines = lines) ∧
      s.reader.pending = (bytesBehind s.lines.length stream).length ∧
      ∃ bodies, LinesThen stream bodies s.reader.data ∧ List.Forall₂ LineText bodies s.lines := by
  intro stream s
  rcases accounts_session calls with ⟨bodies, hstream, hlines⟩
  -- What was handed out and what still can be are all complete lines, in this order.
  have hall : completeLines stream = s.lines ++ completeLines s.reader.data := by
    rw [hlines]
    exact hstream.completeLines_eq
  have hcount : s.lines.length = bodies.length := by rw [hlines, List.length_map]
  refine ⟨completeLines stream, unfinishedLine stream, readsAs_completeLines stream,
    fun _ _ h => readsAs_iff.1 h, ⟨_, hall.symm⟩, ?_, ?_, ?_, bodies, hstream,
    forall₂_lineText_iff.2 hlines⟩
  · rw [Session.answers_call_next, hall, List.getElem?_append_right (Nat.le_refl _), Nat.sub_self,
      List.head?_eq_getElem?]
  · rw [next?_eq_none_iff, hall, List.self_eq_append_right]
  · rw [hcount, hstream.bytesBehind_eq, pending]

/-- A line whose pieces end inside a character and in front of its line feed. -/
example :
    (session [.push [99, 195], .next, .push [169, 13], .next, .push [10, 10, 97], .next, .next,
      .next]).answers = [none, none, some "cé", some "", none] := by
  decide +kernel

end LineReader
end BuildTrace
