import BuildTrace.Proofs.Build.Chunking

/-!
# Interleaving — two streams that are read as they come

A process prints its output and its errors on two streams, and the session takes in whichever has
something to give. It comes to the same however the pieces of the two are cut and mixed:

* `lastItems_append_lastItems` — an end that is cut short with every piece is the end of the whole;
* `errorsOf` — the bytes that were printed as errors;
* `BuildProgress.errors_takeChunks` — the session keeps the end of them;
* `BuildProgress.takeChunks_of_followed`, `takeChunks_of_lost` — what the pieces come to, said of
  the two streams alone.
-/

namespace BuildTrace

/-! ## The end of a list -/

section LastItems

variable {α : Type} (n : Nat) (xs ys : List α)

theorem lastItems_suffix : lastItems n xs <:+ xs :=
  List.drop_suffix _ xs

theorem length_lastItems : (lastItems n xs).length = min xs.length n := by
  rw [lastItems, List.length_drop]
  omega

theorem lastItems_of_length_le (h : xs.length ≤ n) : lastItems n xs = xs := by
  rw [lastItems, Nat.sub_eq_zero_of_le h, List.drop_zero]

/-- Cutting a list short before more is added changes nothing in how it ends. -/
theorem lastItems_append_lastItems :
    lastItems n (lastItems n xs ++ ys) = lastItems n (xs ++ ys) := by
  have hcut : lastItems n xs ++ ys = (xs ++ ys).drop (xs.length - n) :=
    (List.drop_append_of_le_length (Nat.sub_le ..)).symm
  -- What is dropped now and what was dropped before make up what is dropped at once.
  have hdropped : xs.length - n + ((xs ++ ys).length - (xs.length - n) - n) =
      (xs ++ ys).length - n := by
    rw [List.length_append]
    omega
  calc
    lastItems n (lastItems n xs ++ ys)
        = ((xs ++ ys).drop (xs.length - n)).drop ((xs ++ ys).length - (xs.length - n) - n) := by
          rw [hcut, lastItems, List.length_drop]
    _ = lastItems n (xs ++ ys) := by
          rw [List.drop_drop, hdropped, lastItems]

end LastItems

/-! ## The two streams -/

/-- The bytes of a piece that were printed as errors. -/
def OutputChunk.errorBytes : OutputChunk → List UInt8
  | .output _ => []
  | .errors bytes => bytes

/-- The errors that arrive in pieces. -/
def errorsOf (chunks : List OutputChunk) : List UInt8 :=
  chunks.flatMap OutputChunk.errorBytes

theorem errorsOf_errors (bytes : List UInt8) (rest : List OutputChunk) :
    errorsOf (.errors bytes :: rest) = bytes ++ errorsOf rest := by
  simp [errorsOf, OutputChunk.errorBytes]

theorem errorsOf_output (bytes : List UInt8) (rest : List OutputChunk) :
    errorsOf (.output bytes :: rest) = errorsOf rest := by
  simp [errorsOf, OutputChunk.errorBytes]

namespace BuildProgress

variable {fs : FileSystem} {recognise : Recogniser} {extra : List String}

/-- The session keeps the end of what was printed as errors, however it arrived. -/
theorem errors_takeChunks : ∀ (chunks : List OutputChunk) (s : BuildProgress),
    s.errors.length ≤ errorLimit → (s.takeChunks fs recognise extra chunks).2.1 = none →
      (s.takeChunks fs recognise extra chunks).2.2.errors =
        lastItems errorLimit (s.errors ++ errorsOf chunks) := by
  intro chunks
  induction chunks with
  | nil =>
      intro s hkept _
      have hstream : s.errors ++ errorsOf [] = s.errors := List.append_nil _
      rw [hstream, lastItems_of_length_le errorLimit s.errors hkept]
      rfl
  | cons chunk rest ih =>
      intro s hkept hfault
      cases chunk with
      | errors bytes =>
          -- The invariant: no more is kept than the limit, since every piece cuts what it adds to.
          have hcut : (s.takeErrors bytes).errors.length ≤ errorLimit :=
            (length_lastItems errorLimit (s.errors ++ bytes)).trans_le (Nat.min_le_right ..)
          rw [takeChunks] at hfault ⊢
          calc
            ((s.takeErrors bytes).takeChunks fs recognise extra rest).2.2.errors
              = lastItems errorLimit (lastItems errorLimit (s.errors ++ bytes) ++ errorsOf rest) :=
                ih (s.takeErrors bytes) hcut hfault
            _ = lastItems errorLimit (s.errors ++ errorsOf (.errors bytes :: rest)) := by
                rw [lastItems_append_lastItems, errorsOf_errors, List.append_assoc]
      | output bytes =>
          rw [takeChunks_output] at hfault ⊢
          rw [errorsOf_output]
          cases hlines : (s.dispatcher.lines fs recognise extra (s.buffer.push bytes)).fault with
          | some e => simp [hlines] at hfault
          | none =>
              simp only [hlines] at hfault ⊢
              exact ih { s with dispatcher := _, buffer := _ } hkept hfault

theorem exit_takeChunks : ∀ (chunks : List OutputChunk) (s : BuildProgress),
    (s.takeChunks fs recognise extra chunks).2.2.exit = s.exit := by
  intro chunks
  induction chunks with
  | nil =>
      intro s
      rfl
  | cons chunk rest ih =>
      intro s
      cases chunk with
      | errors bytes =>
          rw [takeChunks, ih, exit_takeErrors]
      | output bytes =>
          rw [takeChunks_output]
          cases (s.dispatcher.lines fs recognise extra (s.buffer.push bytes)).fault with
          | some e => rfl
          | none => exact ih { s with dispatcher := _, buffer := _ }

/-- What two streams come to if every line can be followed. -/
theorem takeChunks_of_followed {s : BuildProgress} {chunks : List OutputChunk} {log : LogReading}
    (hline : lineFeed ∉ s.buffer.data) (hkept : s.errors.length ≤ errorLimit)
    (hlog : s.dispatcher.readLog fs recognise extra
      (completeLines (s.buffer.data ++ outputOf chunks)) = log) (hnone : log.fault = none) :
    s.takeChunks fs recognise extra chunks =
      (log.offers, none,
        { dispatcher := log.dispatcher
          buffer := { data := unfinishedLine (s.buffer.data ++ outputOf chunks) }
          errors := lastItems errorLimit (s.errors ++ errorsOf chunks)
          exit := s.exit }) := by
  have hread : logOf (s.takeChunks fs recognise extra chunks) = log :=
    (log_takeChunks chunks s hline).trans hlog
  have hfault := (congrArg LogReading.fault hread).trans hnone
  have hbuffer := buffer_takeChunks chunks s hline hfault
  have herrors := errors_takeChunks chunks s hkept hfault
  have hexit : (s.takeChunks fs recognise extra chunks).2.2.exit = s.exit :=
    exit_takeChunks chunks s
  rcases hrun : s.takeChunks fs recognise extra chunks with
    ⟨offers, fault, ⟨d, ⟨data⟩, errors, exit⟩⟩
  rw [hrun] at hread hfault hbuffer herrors hexit
  subst hread hfault hbuffer herrors hexit
  rfl

/-- Where a line cannot be followed, the output alone says how far the run came. -/
theorem takeChunks_of_lost {s : BuildProgress} {chunks : List OutputChunk} {log : LogReading}
    {e : Directory.Fault} (hline : lineFeed ∉ s.buffer.data)
    (hlog : s.dispatcher.readLog fs recognise extra
      (completeLines (s.buffer.data ++ outputOf chunks)) = log) (hlost : log.fault = some e) :
    ∃ s', s.takeChunks fs recognise extra chunks = (log.offers, some e, s') ∧
      s'.dispatcher = log.dispatcher ∧ s'.exit = s.exit := by
  have hread : logOf (s.takeChunks fs recognise extra chunks) = log :=
    (log_takeChunks chunks s hline).trans hlog
  refine ⟨(s.takeChunks fs recognise extra chunks).2.2, ?_, ?_, exit_takeChunks chunks s⟩
  · exact Prod.ext (congrArg LogReading.offers hread)
      (Prod.ext ((congrArg LogReading.fault hread).trans hlost) rfl)
  · exact congrArg LogReading.dispatcher hread

end BuildProgress
end BuildTrace
