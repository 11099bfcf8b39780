import BuildTrace.Proofs.Precompile.History

/-!
# Provenance — the text a unit was made of

A unit may be handed out long after it was parsed, and text may have been added since. This module
says which text it was made of:

* `SharedHeader.IsCall` — a call for a unit, from the question to the answer;
* `SharedHeader.ParsedFrom` — a parse in a history, and the text it began with;
* `Run.told` — whoever calls is told a unit that was parsed from all the text of an earlier moment,
  with no clear since; without a unit at hand, that moment is the call itself;
* `not_parsedFrom_lateText` — text that is added after a parse has begun is not in its unit.
-/

namespace BuildTrace
namespace SharedHeader

variable {s : SharedHeader} {h : PrecompiledHeader} {before call : HeaderHistory}
  {unit : TranslationUnit}

/-! ## Calls and parses -/

/-- A call that is answered with `unit`: it is there, or a parse of the caller comes to it, during
which others may go on. -/
inductive IsCall (unit : TranslationUnit) : HeaderHistory → Prop where
  | held (fs : FileSystem) (dirs : List Path) : IsCall unit [(.ask fs dirs, some (.ok unit))]
  | parsed (fs : FileSystem) (dirs : List Path) {during : HeaderHistory} :
      (∀ l ∈ during, l.1.endsParse = false) →
        IsCall unit ((.ask fs dirs, none) :: during ++ [(.parsed unit, some (.ok unit))])

/-- In `log` a parse was begun after `earlier` and came to `unit`, and it was given what all the
text there was then expands to. -/
def ParsedFrom (start : SharedHeader) (earlier log : HeaderHistory) (unit : TranslationUnit) :
    Prop :=
  ∃ h fs dirs j x during, ∃ after : HeaderHistory, Begun start earlier h fs dirs j during ∧
    log = earlier ++ (.ask fs dirs, none) :: during ++ (.parsed unit, some (.ok unit)) :: after ∧
    (h.searchPath dirs).expand fs h.file earlier.text = .ok x ∧ j.source = x.source

/-- A parse begins with the text of its history. -/
theorem Begun.expands {earlier during : HeaderHistory} {old : PrecompiledHeader} {fs : FileSystem}
    {dirs : List Path} {j : ParseJob} (hnew : h.data = [] ∧ h.unit = none)
    (hbegun : Begun { header := h } earlier old fs dirs j during) :
    ∃ x, (old.searchPath dirs).expand fs old.file earlier.text = .ok x ∧ j.source = x.source := by
  have hdata : old.data = earlier.text := (hbegun.run.recorded hnew).data
  rcases PrecompiledHeader.expand_of_begin_job hbegun.begins with ⟨x, hx, hsource, -⟩
  rw [hdata] at hx
  exact ⟨x, hx, hsource⟩

/-! ## What a call is told -/

/-- A unit that is held was parsed from the text of an earlier moment. -/
theorem ParsedSinceClear.parsedFrom {log : HeaderHistory} (hnew : h.data = [] ∧ h.unit = none)
    (hparsed : ParsedSinceClear { header := h } log unit) (more : HeaderHistory) :
    ∃ earlier, ∃ since : HeaderHistory, log = earlier ++ since ∧ since.clears = 0 ∧
      ParsedFrom { header := h } earlier (log ++ more) unit := by
  rcases hparsed with ⟨earlier, old, fs, dirs, j, during, after, hbegun, hlog, hduring, hafter⟩
  rcases hbegun.expands hnew with ⟨x, hx, hsource⟩
  -- All that lies between that moment and now is the parse, and what came after it.
  have hclears : HeaderHistory.clears
      ((.ask fs dirs, none) :: during ++ (.parsed unit, some (.ok unit)) :: after) = 0 := by
    have hbegin : HeaderHistory.clears ((.ask fs dirs, none) :: during) = 0 := by
      simpa [HeaderHistory.clears] using hduring
    have hend : HeaderHistory.clears ((.parsed unit, some (.ok unit)) :: after) = 0 := by
      simpa [HeaderHistory.clears] using hafter
    rw [HeaderHistory.clears_append, hbegin, hend]
  refine ⟨earlier, _, ?_, hclears,
    old, fs, dirs, j, x, during, after ++ more, hbegun, ?_, hx, hsource⟩
  · simpa using hlog
  · simp [hlog]

/-- **What a call is told.** In every run of a new header, whoever calls is told a unit that was
parsed from all the text of some earlier moment; nothing has been cleared since, and what the text
has more at the call was added since. If no unit is held when the call begins, the moment is that
of the call, and no text is missing. -/
theorem Run.told (hnew : h.data = [] ∧ h.unit = none)
    (hrun : Run { header := h } (before ++ call) s) (hcall : IsCall unit call) :
    ∃ m earlier, ∃ since : HeaderHistory, Run { header := h } before m ∧ Run m call s ∧
      before = earlier ++ since ∧ since.clears = 0 ∧
      ParsedFrom { header := h } earlier (before ++ call) unit ∧
      before.text = earlier.text ++ since.flatMap (·.1.text) ∧
      (m.header.unit = none → since = []) := by
  rcases hrun.split with ⟨m, hbefore, hanswer⟩
  have hrecord : Recorded { header := h } before m := hbefore.recorded hnew
  cases hcall with
  | held fs dirs =>
      -- The unit that is handed out is the one that is held.
      have hunit : m.header.unit = some unit := by
        cases hanswer.step with
        | cached hbegin => exact PrecompiledHeader.of_begin_cached hbegin
      rcases (hrecord.unit unit hunit).parsedFrom hnew _ with
        ⟨earlier, since, hlog, hclears, hparsed⟩
      have htext : before.text = earlier.text ++ since.flatMap (·.1.text) := by
        rw [hlog]
        exact HeaderHistory.text_append hclears earlier
      refine ⟨m, earlier, since, hbefore, hanswer, hlog, hclears, hparsed, htext, ?_⟩
      intro hnone
      exact absurd (hunit.symm.trans hnone) nofun
  | @parsed fs dirs during hgoesOn =>
      -- The parse is the caller's own, so it begins where the call does.
      have hcut : Run m ([(.ask fs dirs, none)] ++
          (during ++ [(.parsed unit, some (.ok unit))])) s := hanswer
      rcases hcut.split with ⟨m', hask, -⟩
      cases hask.step with
      | @begun old _ _ j hbegin =>
          have hbegun : Begun { header := h } before old fs dirs j during :=
            ⟨hbefore, hbegin, hgoesOn⟩
          rcases hbegun.expands hnew with ⟨x, hx, hsource⟩
          have hparsed : ParsedFrom { header := h } before
              (before ++ ((.ask fs dirs, none) :: during ++ [(.parsed unit, some (.ok unit))]))
              unit :=
            ⟨old, fs, dirs, j, x, during, [], hbegun, by simp, hx, hsource⟩
          exact ⟨_, before, [], hbefore, hanswer, (List.append_nil _).symm, rfl, hparsed,
            (List.append_nil _).symm, fun _ => rfl⟩

/-! ### Text that comes too late -/

/-- An empty line is parsed; a blank is added before the unit is there, and another one after. -/
def lateText : HeaderHistory :=
  [(.append [10], none), (.ask {} [], none), (.append [32], none), (.parsed ⟨1⟩, some (.ok ⟨1⟩)),
    (.append [32], none)]

/-- The call that follows. -/
def lateCall : HeaderHistory :=
  [(.ask {} [], some (.ok ⟨1⟩))]

theorem run_lateText : ∃ s, Run { header := blankHeader } (lateText ++ lateCall) s := by
  rcases begin_emptyLine with ⟨j, hbegin⟩
  have hkept : ((((blankHeader.append [10]).append [32]).finish j ⟨1⟩).append [32]).unit =
      some ⟨1⟩ := by
    have hgeneration : blankHeader.generation = j.generation :=
      (PrecompiledHeader.of_begin_job hbegin).2.symm
    exact congrArg PrecompiledHeader.unit (if_pos hgeneration)
  exact ⟨_, (((((Run.nil.snoc (.append _ [10])).snoc (.begun hbegin)).snoc (.append _ [32])).snoc
    (.parsed _ _ ⟨1⟩)).snoc (.append _ [32])).snoc
      (.cached (PrecompiledHeader.begin_of_held hkept {} []))⟩

theorem told_lateText :
    (blankHeader.data = [] ∧ blankHeader.unit = none) ∧ IsCall ⟨1⟩ lateCall ∧
      ∃ s, Run { header := blankHeader } (lateText ++ lateCall) s ∧
        ∃ earlier, ∃ since : HeaderHistory, lateText = earlier ++ since ∧
          ParsedFrom { header := blankHeader } earlier (lateText ++ lateCall) ⟨1⟩ ∧
          earlier.text ++ since.flatMap (·.1.text) = [10, 32, 32] := by
  rcases run_lateText with ⟨s, hrun⟩
  have hcall : IsCall ⟨1⟩ lateCall := .held {} []
  rcases Run.told ⟨rfl, rfl⟩ hrun hcall with
    ⟨m, earlier, since, -, -, hlog, -, hparsed, htext, -⟩
  exact ⟨⟨rfl, rfl⟩, hcall, s, hrun, earlier, since, hlog, hparsed, htext.symm⟩

/-- The call is told a unit, nothing is cleared, and no parse of all the text has come to it. -/
theorem not_parsedFrom_lateText :
    IsCall ⟨1⟩ lateCall ∧ (∃ s, Run { header := blankHeader } (lateText ++ lateCall) s) ∧
      lateCall.clears = 0 ∧
      ¬ ∃ earlier, ParsedFrom { header := blankHeader } earlier (lateText ++ lateCall) ⟨1⟩ ∧
        earlier.text = lateText.text := by
  refine ⟨.held {} [], run_lateText, rfl, ?_⟩
  rintro ⟨earlier, ⟨_, fs, dirs, _, _, during, after, -, hlog, -⟩, htext⟩
  have hlog' : lateText ++ lateCall = earlier ++ (.ask fs dirs, none) ::
      (during ++ (.parsed ⟨1⟩, some (.ok ⟨1⟩)) :: after) := by simpa using hlog
  -- Only the first question was left open, and before it there was no more than one line of text.
  rcases earlier with _ | ⟨l, _ | ⟨l', rest⟩⟩
  · simp [lateText] at hlog'
  · have hfirst : l = (.append [10], none) := by
      simp only [lateText, List.cons_append, List.cons.injEq] at hlog'
      exact hlog'.1.symm
    rw [hfirst] at htext
    exact absurd htext (by decide)
  · have hmem : (HeaderEvent.ask fs dirs, (none : Option HeaderReply)) ∈
        (lateText ++ lateCall).drop 2 := by
      rw [hlog']
      simp
    simp [lateText, lateCall] at hmem

end SharedHeader
end BuildTrace
