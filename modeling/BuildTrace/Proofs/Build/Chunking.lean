import BuildTrace.Build.Progress
import BuildTrace.Proofs.Build.Lines
import BuildTrace.Proofs.Build.Log

/-!
# Chunking — the pieces a build log arrives in do not matter

A session gets the output of its process in pieces that are cut anywhere, inside a character or
between the two bytes that end a line. What it delivers is said here without them:

* `Dispatcher.log_lines` — the complete lines of a buffer are read as a log;
* `BuildProgress.log_takeChunks` — so are those of a stream that arrives in pieces;
* `BuildProgress.takeChunks_reads_lines` — the whole account: what is offered, delivered, counted
  and dropped, however the stream is cut.
-/

namespace BuildTrace

/-! ## From a buffer to a log -/

/-- The log that the complete lines of a buffer were read as. -/
def Dispatched.log (done : Dispatched) : LogReading :=
  { offers := done.offers, dispatcher := done.dispatcher, fault := done.fault }

namespace Dispatcher

variable {fs : FileSystem} {recognise : Recogniser} {extra : List String}

theorem lines_of_not_mem {bs : List UInt8} (h : lineFeed ∉ bs) (d : Dispatcher) :
    d.lines fs recognise extra { data := bs } =
      { offers := [], dispatcher := d, buffer := { data := bs }, fault := none } := by
  rw [lines]
  split
  · rfl
  · next text b' hnext => simp [LineReader.next?_eq_none h] at hnext

theorem lines_of_line {body : List UInt8} (h : lineFeed ∉ body) (bs : List UInt8)
    (d : Dispatcher) :
    d.lines fs recognise extra { data := body ++ lineFeed :: bs } =
      match d.line fs recognise extra (decodeLine body) with
      | (offer, .error e) =>
        { offers := [offer], dispatcher := d, buffer := { data := bs }, fault := some e }
      | (offer, .ok d') =>
        let rest := d'.lines fs recognise extra { data := bs }
        { rest with offers := offer :: rest.offers } := by
  -- The reader hands out the line and keeps what is behind it; the rest is the recursion itself.
  rw [lines]
  split
  · next hnext => simp [LineReader.next?_of_line h] at hnext
  · next text b' hnext =>
      simp only [LineReader.next?_of_line h, Option.some.injEq, Prod.mk.injEq] at hnext
      rcases hnext with ⟨rfl, rfl⟩
      rfl

/-- The complete lines of a buffer are read as a log. -/
theorem log_lines : ∀ (bs : List UInt8) (d : Dispatcher),
    (d.lines fs recognise extra { data := bs }).log =
      d.readLog fs recognise extra (completeLines bs) := by
  refine stream_induction ?rest ?line
  case rest =>
    intro bs h d
    rw [lines_of_not_mem h, completeLines_of_not_mem h]
    rfl
  case line =>
    intro body bs h ih d
    rw [completeLines_of_line h, lines_of_line h]
    rcases hl : d.line fs recognise extra (decodeLine body) with ⟨offer, r⟩
    cases r with
    | error e =>
        rw [readLog_cons_of_error hl]
        rfl
    | ok d' =>
        rw [readLog_cons_of_ok hl, ← ih d']
        rfl

/-- A buffer keeps the line that has not been ended, unless a line before it ends the reading. -/
theorem buffer_lines : ∀ (bs : List UInt8) (d : Dispatcher),
    (d.lines fs recognise extra { data := bs }).fault = none →
      (d.lines fs recognise extra { data := bs }).buffer = { data := unfinishedLine bs } := by
  refine stream_induction ?rest ?line
  case rest =>
    intro bs h d _
    rw [lines_of_not_mem h, unfinishedLine_of_not_mem h]
  case line =>
    intro body bs h ih d hfault
    rw [lines_of_line h] at hfault ⊢
    rw [unfinishedLine_of_line h]
    rcases hl : d.line fs recognise extra (decodeLine body) with ⟨offer, r⟩
    cases r with
    | error e => simp [hl] at hfault
    | ok d' =>
        simp only [hl] at hfault
        exact ih d' hfault

end Dispatcher

/-! ## From pieces to a log -/

/-- The bytes of a piece that belong to the output. -/
def OutputChunk.outputBytes : OutputChunk → List UInt8
  | .output bytes => bytes
  | .errors _ => []

/-- The output that arrives in pieces; what is printed as errors is no part of it. -/
def outputOf (chunks : List OutputChunk) : List UInt8 :=
  chunks.flatMap OutputChunk.outputBytes

theorem outputOf_errors (bytes : List UInt8) (rest : List OutputChunk) :
    outputOf (.errors bytes :: rest) = outputOf rest := by
  simp [outputOf, OutputChunk.outputBytes]

theorem outputOf_output (bytes : List UInt8) (rest : List OutputChunk) :
    outputOf (.output bytes :: rest) = bytes ++ outputOf rest := by
  simp [outputOf, OutputChunk.outputBytes]

namespace BuildProgress

/-- The log that the output taken in was read as. -/
def logOf (run : List Offer × Option Directory.Fault × BuildProgress) : LogReading :=
  { offers := run.1, dispatcher := run.2.2.dispatcher, fault := run.2.1 }

variable {fs : FileSystem} {recognise : Recogniser} {extra : List String}

/-- A piece of output is read, and the pieces behind it from where that leaves the session. -/
theorem takeChunks_output (s : BuildProgress) (bytes : List UInt8) (rest : List OutputChunk) :
    let done := s.dispatcher.lines fs recognise extra (s.buffer.push bytes)
    let s' : BuildProgress := { s with dispatcher := done.dispatcher, buffer := done.buffer }
    s.takeChunks fs recognise extra (.output bytes :: rest) =
      match done.fault with
      | some e => (done.offers, some e, s')
      | none =>
        let later := s'.takeChunks fs recognise extra rest
        (done.offers ++ later.1, later.2) := by
  intro done s'
  cases hfault : done.fault with
  | some e => simp [takeChunks, takeOutput, done, s', hfault]
  | none => simp [takeChunks, takeOutput, done, s', hfault]

/-- What arrives in pieces is read as the log that the waiting bytes and the pieces make. -/
theorem log_takeChunks : ∀ (chunks : List OutputChunk) (s : BuildProgress),
    lineFeed ∉ s.buffer.data →
    logOf (s.takeChunks fs recognise extra chunks) =
      s.dispatcher.readLog fs recognise extra
        (completeLines (s.buffer.data ++ outputOf chunks)) := by
  intro chunks
  induction chunks with
  | nil =>
      intro s hs
      have hstream : s.buffer.data ++ outputOf [] = s.buffer.data := List.append_nil _
      rw [hstream, completeLines_of_not_mem hs]
      rfl
  | cons chunk rest ih =>
      intro s hs
      cases chunk with
      | errors bytes =>
          -- What is printed as errors changes neither the dispatcher nor the buffer.
          have hrest := ih (s.takeErrors bytes) (by rwa [buffer_takeErrors])
          rw [buffer_takeErrors, dispatcher_takeErrors] at hrest
          rw [takeChunks, outputOf_errors, hrest]
      | output bytes =>
          -- The bytes so far are read first; the pieces that follow go on from there.
          rw [outputOf_output, ← List.append_assoc, completeLines_append, Dispatcher.readLog_append,
            ← Dispatcher.log_lines]
          have hbuffer := @Dispatcher.buffer_lines fs recognise extra
            (s.buffer.data ++ bytes) s.dispatcher
          simp only [takeChunks_output, LineReader.push, Dispatched.log]
          generalize s.dispatcher.lines fs recognise extra { data := s.buffer.data ++ bytes } = done
            at hbuffer ⊢
          cases hfault : done.fault with
          | some e => rfl
          | none =>
              -- The invariant: between pieces the buffer holds the line that has not been ended.
              rw [hbuffer hfault]
              have hrest := ih
                { s with
                  dispatcher := done.dispatcher
                  buffer := { data := unfinishedLine (s.buffer.data ++ bytes) } }
                (not_mem_unfinishedLine _)
              simp only [← hrest, logOf]

/-- After the pieces the line that the stream has not ended is waiting. -/
theorem buffer_takeChunks : ∀ (chunks : List OutputChunk) (s : BuildProgress),
    lineFeed ∉ s.buffer.data → (s.takeChunks fs recognise extra chunks).2.1 = none →
      (s.takeChunks fs recognise extra chunks).2.2.buffer.data =
        unfinishedLine (s.buffer.data ++ outputOf chunks) := by
  intro chunks
  induction chunks with
  | nil =>
      intro s hs _
      have hstream : s.buffer.data ++ outputOf [] = s.buffer.data := List.append_nil _
      rw [hstream, unfinishedLine_of_not_mem hs]
      rfl
  | cons chunk rest ih =>
      intro s hs hfault
      cases chunk with
      | errors bytes =>
          rw [takeChunks] at hfault ⊢
          have hrest := ih (s.takeErrors bytes) (by rwa [buffer_takeErrors]) hfault
          rwa [buffer_takeErrors, ← outputOf_errors bytes] at hrest
      | output bytes =>
          have hbuffer := @Dispatcher.buffer_lines fs recognise extra (s.buffer.data ++ bytes)
            s.dispatcher
          rw [outputOf_output, ← List.append_assoc, unfinishedLine_append]
          simp only [takeChunks_output, LineReader.push] at hfault ⊢
          generalize s.dispatcher.lines fs recognise extra { data := s.buffer.data ++ bytes } = done
            at hbuffer hfault ⊢
          cases hd : done.fault with
          | some e => simp [hd] at hfault
          | none =>
              simp only [hd, hbuffer hd] at hfault ⊢
              refine ih
                { s with
                  dispatcher := done.dispatcher
                  buffer := { data := unfinishedLine (s.buffer.data ++ bytes) } }
                (not_mem_unfinishedLine _) hfault

/-- **A session does with its output what its lines say, however they arrive.** The stream has its
lines by a rule of its own, and there is one way to read it. The run is the reading of the lines
that the stream ends, each offered once and in order; its counts are those of the commands
delivered, by kind; and what is dropped at the end is the line that was not ended. -/
theorem takeChunks_reads_lines (fs : FileSystem) (recognise : Recogniser) (extra : List String)
    (stack : Directory.Stack) (aliases : PchOrigins) (chunks : List OutputChunk) :
    let start : BuildProgress := { dispatcher := { stack := stack, aliases := aliases } }
    let stream := outputOf chunks
    let run := start.takeChunks fs recognise extra chunks
    ∃ lines rest, ReadsAs stream lines rest ∧
      (∀ lines' rest', ReadsAs stream lines' rest' → lines' = lines ∧ rest' = rest) ∧
      let log := start.dispatcher.readLog fs recognise extra lines
      logOf run = log ∧
      (∀ chunks', outputOf chunks' = stream →
        logOf (start.takeChunks fs recognise extra chunks') = log) ∧
      log.offers.map Offer.line <+: lines ∧
      (log.fault = none → log.offers.map Offer.line = lines) ∧
      run.2.2.dispatcher.sourceCount = log.delivered.countP (!·.makesPch) ∧
      run.2.2.dispatcher.pchCount = log.delivered.countP (·.makesPch) ∧
      run.2.2.dispatcher.sourceCount + run.2.2.dispatcher.pchCount = log.delivered.length ∧
      (log.fault = none →
        run.2.2.buffer.data = rest ∧
        run.2.2.buffer.discard.1 = rest.length ∧
        start.takeAll fs recognise extra chunks =
          (log.offers, none, { run.2.2 with buffer := {} })) := by
  intro start stream run
  refine ⟨completeLines stream, unfinishedLine stream, readsAs_completeLines stream,
    fun _ _ h => readsAs_iff.1 h, ?_⟩
  intro log
  have hempty : lineFeed ∉ start.buffer.data := by simp [start]
  have hread : ∀ chunks', outputOf chunks' = stream →
      logOf (start.takeChunks fs recognise extra chunks') = log := by
    intro chunks' hsame
    rw [log_takeChunks chunks' start hempty, hsame]
    rfl
  have hlog : logOf run = log := hread chunks rfl
  rcases Dispatcher.lines_readLog (completeLines stream) start.dispatcher with ⟨hoffered, hall⟩
  rcases Dispatcher.counts_readLog (completeLines stream) start.dispatcher with ⟨hsource, hpch⟩
  have hdispatcher : run.2.2.dispatcher = log.dispatcher := congrArg LogReading.dispatcher hlog
  have hsource' : run.2.2.dispatcher.sourceCount = log.delivered.countP (!·.makesPch) := by
    rw [hdispatcher]
    simpa [start] using hsource
  have hpch' : run.2.2.dispatcher.pchCount = log.delivered.countP (·.makesPch) := by
    rw [hdispatcher]
    simpa [start] using hpch
  refine ⟨hlog, hread, hoffered, hall, hsource', hpch', ?_, ?_⟩
  · -- Every command is of one of the two kinds.
    have hkinds : log.delivered.length =
        log.delivered.countP (·.makesPch) + log.delivered.countP (!·.makesPch) := by
      simpa using List.length_eq_countP_add_countP Invocation.makesPch
    rw [hsource', hpch', hkinds, Nat.add_comm]
  · intro hnone
    have hfault : run.2.1 = none := (congrArg LogReading.fault hlog).trans hnone
    have hbuffer : run.2.2.buffer.data = unfinishedLine stream :=
      buffer_takeChunks chunks start hempty hfault
    have hrun : start.takeChunks fs recognise extra chunks = (log.offers, none, run.2.2) :=
      Prod.ext (congrArg LogReading.offers hlog) (Prod.ext hfault rfl)
    refine ⟨hbuffer, congrArg List.length hbuffer, ?_⟩
    rw [takeAll, hrun]
    rfl

end BuildProgress
end BuildTrace
