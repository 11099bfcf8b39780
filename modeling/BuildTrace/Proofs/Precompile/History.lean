import BuildTrace.Precompile.Header
import Mathlib.Data.List.Induction

/-!
# History — what a shared header has been through

Many may work with one precompiled header at a time. Only one parse runs, but text may be added or
cleared, and stamps replaced, while it does. The history of a header is what happened to it, with
the answers its callers got:

* `SharedHeader.Step`, `SharedHeader.Run` — what can happen, and when;
* `HeaderHistory.text`, `ParsedSinceClear` — what a history says about text and unit;
* `Recorded` — the invariant: the header is what its history says (`Recorded.step`, `Run.recorded`);
* `Run.held`, `Run.parsed` — units that stay, and units that are never kept;
* `Run.history` — all of it, for every run of a new header.
-/

namespace BuildTrace

/-! ## Shared headers -/

/-- What can happen to a header that is shared. -/
inductive HeaderEvent where
  | append (bytes : List UInt8)
  | clear
  | setStamps (stamps : StampTable)
  /-- Someone asks for the unit, having waited for the parse of another. -/
  | ask (fs : FileSystem) (systemDirectories : List Path)
  /-- The engine has made a unit of the running parse. -/
  | parsed (unit : TranslationUnit)
  | failed (e : EngineFailure)
deriving DecidableEq, Repr

namespace HeaderEvent

/-- Whether the running parse ends here. -/
def endsParse : HeaderEvent → Bool
  | .parsed _ | .failed _ => true
  | .append _ | .clear | .setStamps _ | .ask .. => false

/-- The text that is added. -/
def text : HeaderEvent → List UInt8
  | .append bytes => bytes
  | _ => []

end HeaderEvent

/-- What someone who asked for the unit is told. -/
abbrev HeaderReply := Except PrecompileFailure TranslationUnit

/-- What happened to a header, each event with the reply it made. -/
abbrev HeaderHistory := List (HeaderEvent × Option HeaderReply)

namespace HeaderHistory

/-- What happened since the last clear. -/
def sinceClear (log : HeaderHistory) : HeaderHistory :=
  (log.reverse.takeWhile (·.1 ≠ .clear)).reverse

/-- The text added since the last clear. -/
def text (log : HeaderHistory) : List UInt8 :=
  log.sinceClear.flatMap (·.1.text)

/-- How often the text was cleared. -/
def clears (log : HeaderHistory) : Nat :=
  log.countP (·.1 = .clear)

variable {log : HeaderHistory} {e : HeaderEvent}

theorem text_snoc_clear (log : HeaderHistory) (r : Option HeaderReply) :
    text (log ++ [(.clear, r)]) = [] := by
  simp [text, sinceClear]

theorem text_snoc (he : e ≠ .clear) (log : HeaderHistory) (r : Option HeaderReply) :
    text (log ++ [(e, r)]) = log.text ++ e.text := by
  simp [text, sinceClear, he]

/-- Without a clear, text is only added. -/
theorem text_append {since : HeaderHistory} (hclears : since.clears = 0) (log : HeaderHistory) :
    text (log ++ since) = log.text ++ since.flatMap (·.1.text) := by
  induction since using List.reverseRecOn with
  | nil => simp
  | append_singleton since l ih =>
      rw [clears, List.countP_append, Nat.add_eq_zero_iff] at hclears
      have hne : l.1 ≠ .clear := by simpa using hclears.2
      calc
        text (log ++ (since ++ [l]))
            = text (log ++ since) ++ l.1.text := by rw [← List.append_assoc, text_snoc hne]
        _ = log.text ++ (since ++ [l]).flatMap (·.1.text) := by
              simp [ih hclears.1]

theorem clears_append (log log' : HeaderHistory) :
    clears (log ++ log') = log.clears + log'.clears :=
  List.countP_append

theorem clears_snoc (he : e ≠ .clear) (log : HeaderHistory) (r : Option HeaderReply) :
    clears (log ++ [(e, r)]) = log.clears := by
  simp [clears, he]

end HeaderHistory

/-- A header, and the parse of it that is running. -/
structure SharedHeader where
  header : PrecompiledHeader
  running : Option ParseJob := none
deriving DecidableEq, Repr

namespace SharedHeader

/-- What an event makes of a header, and what it replies. Nobody asks while a parse is running, and
only a running parse can end. -/
inductive Step : SharedHeader → HeaderEvent → Option HeaderReply → SharedHeader → Prop where
  | append (s : SharedHeader) (bytes : List UInt8) :
      Step s (.append bytes) none { s with header := s.header.append bytes }
  | clear (s : SharedHeader) : Step s .clear none { s with header := s.header.clear }
  | setStamps (s : SharedHeader) (stamps : StampTable) :
      Step s (.setStamps stamps) none { s with header := s.header.setStamps stamps }
  | refused {h : PrecompiledHeader} {fs : FileSystem} {dirs : List Path} {f : PrecompileFailure} :
      h.begin fs dirs = .error f →
        Step { header := h } (.ask fs dirs) (some (.error f)) { header := h }
  | cached {h : PrecompiledHeader} {fs : FileSystem} {dirs : List Path} {unit : TranslationUnit} :
      h.begin fs dirs = .ok (.cached unit) →
        Step { header := h } (.ask fs dirs) (some (.ok unit)) { header := h }
  | begun {h : PrecompiledHeader} {fs : FileSystem} {dirs : List Path} {j : ParseJob} :
      h.begin fs dirs = .ok (.job j) →
        Step { header := h } (.ask fs dirs) none { header := h, running := some j }
  | parsed (h : PrecompiledHeader) (j : ParseJob) (unit : TranslationUnit) :
      Step { header := h, running := some j } (.parsed unit) (some (.ok unit))
        { header := h.finish j unit }
  | failed (h : PrecompiledHeader) (j : ParseJob) (e : EngineFailure) :
      Step { header := h, running := some j } (.failed e) (some (.error (.engine e)))
        { header := h }

/-- The runs of a header, the last event last. -/
inductive Run (s : SharedHeader) : HeaderHistory → SharedHeader → Prop where
  | nil : Run s [] s
  | snoc {log : HeaderHistory} {t u : SharedHeader} {e : HeaderEvent} {r : Option HeaderReply} :
      Run s log t → Step t e r u → Run s (log ++ [(e, r)]) u

end SharedHeader

/-! ## What `begin` and `finish` do -/

namespace PrecompiledHeader

variable {h : PrecompiledHeader} {fs : FileSystem} {dirs : List Path} {j : ParseJob}
  {unit : TranslationUnit}

/-- A unit that is held is handed out, whatever the files are like now. -/
theorem begin_of_held (hunit : h.unit = some unit) (fs : FileSystem) (dirs : List Path) :
    h.begin fs dirs = .ok (.cached unit) := by
  simp only [begin, hunit]

/-- A parse begins only without a unit, and remembers how often the text was cleared before. -/
theorem of_begin_job (hbegin : h.begin fs dirs = .ok (.job j)) :
    h.unit = none ∧ j.generation = h.generation := by
  unfold begin at hbegin
  split at hbegin
  · cases hbegin
  · next hunit =>
      split at hbegin
      · cases hbegin
      · split at hbegin
        · cases hbegin
        · cases hbegin
          exact ⟨hunit, rfl⟩

theorem begin_of_expand {x : ExpandedHeader} (hunit : h.unit = none) (hdata : h.data ≠ [])
    (hx : (h.searchPath dirs).expand fs h.file h.data = .ok x) :
    h.begin fs dirs = .ok (.job
      { file := h.file
        source := x.source
        flags := h.key.flags
        stamps := x.stamps
        generation := h.generation }) := by
  simp only [begin, hunit, if_neg hdata, hx]

/-- A parse is given all the text there is, with its includes in place. -/
theorem expand_of_begin_job (hbegin : h.begin fs dirs = .ok (.job j)) :
    ∃ x, (h.searchPath dirs).expand fs h.file h.data = .ok x ∧
      j.source = x.source ∧ j.stamps = x.stamps := by
  unfold begin at hbegin
  split at hbegin
  · cases hbegin
  · split at hbegin
    · cases hbegin
    · split at hbegin
      · cases hbegin
      · next x hx =>
          cases hbegin
          exact ⟨x, hx, rfl, rfl⟩

/-- A unit that is handed out without a parse was held. -/
theorem of_begin_cached (hbegin : h.begin fs dirs = .ok (.cached unit)) :
    h.unit = some unit := by
  unfold begin at hbegin
  split at hbegin
  · next hunit =>
      cases hbegin
      exact hunit
  · split at hbegin
    · cases hbegin
    · split at hbegin
      · cases hbegin
      · cases hbegin

theorem finish_of_ne (hne : h.generation ≠ j.generation) (unit : TranslationUnit) :
    h.finish j unit = h :=
  if_neg hne

end PrecompiledHeader

/-! ## The invariant -/

namespace SharedHeader

variable {start s t : SharedHeader} {log more : HeaderHistory} {e : HeaderEvent}
  {r : Option HeaderReply} {j : ParseJob} {unit : TranslationUnit}

/-- A parse was begun at the end of `before`, and nothing has ended it during `during`. -/
structure Begun (start : SharedHeader) (before : HeaderHistory) (h : PrecompiledHeader)
    (fs : FileSystem) (dirs : List Path) (j : ParseJob) (during : HeaderHistory) : Prop where
  run : Run start before { header := h }
  begins : h.begin fs dirs = .ok (.job j)
  goesOn : ∀ l ∈ during, l.1.endsParse = false

/-- The unit came from a parse that was begun, and ended well, since the last clear. -/
def ParsedSinceClear (start : SharedHeader) (log : HeaderHistory) (unit : TranslationUnit) : Prop :=
  ∃ before h fs dirs j during, ∃ after : HeaderHistory, Begun start before h fs dirs j during ∧
    log = before ++ (.ask fs dirs, none) :: during ++ (.parsed unit, some (.ok unit)) :: after ∧
    during.clears = 0 ∧ after.clears = 0

/-- The parse `j` is running; `generation` tells how often the text was cleared meanwhile. -/
def IsRunning (start : SharedHeader) (log : HeaderHistory) (j : ParseJob) (generation : Nat) :
    Prop :=
  ∃ before h fs dirs during, Begun start before h fs dirs j during ∧
    log = before ++ (.ask fs dirs, none) :: during ∧
    generation = j.generation + during.clears

/-- A header is what its history says. While a parse is running there is no unit. -/
structure Recorded (start : SharedHeader) (log : HeaderHistory) (s : SharedHeader) : Prop where
  run : Run start log s
  data : s.header.data = log.text
  unit : ∀ unit, s.header.unit = some unit → ParsedSinceClear start log unit
  running : ∀ j, s.running = some j →
    s.header.unit = none ∧ IsRunning start log j s.header.generation

theorem ParsedSinceClear.snoc (h : ParsedSinceClear start log unit) (he : e ≠ .clear)
    (r : Option HeaderReply) :
    ParsedSinceClear start (log ++ [(e, r)]) unit := by
  rcases h with ⟨before, h, fs, dirs, j, during, after, hbegun, rfl, hduring, hafter⟩
  refine ⟨before, h, fs, dirs, j, during, after ++ [(e, r)], hbegun, ?_, hduring, ?_⟩
  · simp only [List.append_assoc, List.cons_append]
  · rw [HeaderHistory.clears_snoc he, hafter]

theorem IsRunning.snoc {generation : Nat} (h : IsRunning start log j generation)
    (he : e.endsParse = false) (r : Option HeaderReply) :
    IsRunning start (log ++ [(e, r)]) j (generation + HeaderHistory.clears [(e, r)]) := by
  rcases h with ⟨before, h, fs, dirs, during, hbegun, rfl, rfl⟩
  refine ⟨before, h, fs, dirs, during ++ [(e, r)], ⟨hbegun.run, hbegun.begins, ?_⟩, ?_, ?_⟩
  · intro l hl
    rcases List.mem_append.1 hl with hl | hl
    · exact hbegun.goesOn l hl
    · rw [List.mem_singleton.1 hl]
      exact he
  · simp only [List.append_assoc, List.cons_append]
  · rw [HeaderHistory.clears_append, Nat.add_assoc]

/-- A step that leaves the unit alone, and clears nothing. -/
theorem Recorded.of_unit_eq (h : Recorded start log s) (hstep : Step s e r t) (he : e ≠ .clear)
    (hdata : t.header.data = s.header.data ++ e.text) (hunit : t.header.unit = s.header.unit)
    (hrunning : ∀ j, t.running = some j →
      s.header.unit = none ∧ IsRunning start (log ++ [(e, r)]) j t.header.generation) :
    Recorded start (log ++ [(e, r)]) t := by
  refine ⟨h.run.snoc hstep, ?_, ?_, ?_⟩
  · rw [hdata, h.data, HeaderHistory.text_snoc he]
  · intro unit hu
    rw [hunit] at hu
    exact (h.unit unit hu).snoc he r
  · intro j hj
    rw [hunit]
    exact hrunning j hj

/-- A step keeps the record. -/
theorem Recorded.step (h : Recorded start log s) (hstep : Step s e r t) :
    Recorded start (log ++ [(e, r)]) t := by
  have hrun : Run start (log ++ [(e, r)]) t := h.run.snoc hstep
  cases hstep with
  | append _ bytes =>
      refine h.of_unit_eq (.append s bytes) (by simp) rfl rfl ?_
      intro j hj
      exact ⟨(h.running j hj).1, (h.running j hj).2.snoc rfl none⟩
  | clear =>
      -- A clear drops the unit, and counts for a parse that is running.
      refine ⟨hrun, (HeaderHistory.text_snoc_clear log none).symm, nofun, ?_⟩
      intro j hj
      exact ⟨rfl, (h.running j hj).2.snoc rfl none⟩
  | setStamps _ stamps =>
      refine h.of_unit_eq (.setStamps s stamps) (by simp) (List.append_nil _).symm rfl ?_
      intro j hj
      exact ⟨(h.running j hj).1, (h.running j hj).2.snoc rfl none⟩
  | refused hbegin =>
      exact h.of_unit_eq (.refused hbegin) (by simp) (List.append_nil _).symm rfl nofun
  | cached hbegin =>
      exact h.of_unit_eq (.cached hbegin) (by simp) (List.append_nil _).symm rfl nofun
  | @begun header fs dirs job hbegin =>
      -- A parse begins without a unit, so the record of the unit is empty.
      rcases PrecompiledHeader.of_begin_job hbegin with ⟨hnone, hgeneration⟩
      refine h.of_unit_eq (.begun hbegin) (by simp) (List.append_nil _).symm rfl ?_
      intro j hj
      cases hj
      exact ⟨hnone, log, header, fs, dirs, [], ⟨h.run, hbegin, nofun⟩, rfl, hgeneration.symm⟩
  | parsed header job unit =>
      -- The generation tells whether the text was cleared since the parse began.
      rcases h.running job rfl with ⟨hnone, before, h₀, fs, dirs, during, hbegun, hlog, hgeneration⟩
      by_cases hclears : during.clears = 0
      · -- Nothing was cleared meanwhile, so the unit is kept.
        have hsame : header.generation = job.generation := by rw [hgeneration, hclears]; rfl
        refine ⟨hrun, ?_, ?_, nofun⟩
        · rw [HeaderHistory.text_snoc (by simp), PrecompiledHeader.finish, if_pos hsame]
          exact h.data.trans (List.append_nil _).symm
        · intro unit' hunit'
          rw [PrecompiledHeader.finish, if_pos hsame, Option.some.injEq] at hunit'
          subst hunit'
          exact ⟨before, h₀, fs, dirs, job, during, [], hbegun, by rw [hlog], hclears, rfl⟩
      · -- A clear came between; the header is left as it is, without a unit.
        have hne : header.generation ≠ job.generation := by
          have hlater : header.generation = job.generation + during.clears := hgeneration
          omega
        have hsame : header.finish job unit = header := PrecompiledHeader.finish_of_ne hne unit
        refine h.of_unit_eq (.parsed header job unit) (by simp) ?_ ?_ nofun
        · rw [hsame]
          exact (List.append_nil _).symm
        · rw [hsame]
  | failed header job f =>
      exact h.of_unit_eq (.failed header job f) (by simp) (List.append_nil _).symm rfl nofun

/-- Every run of a new header keeps the record. -/
theorem Run.recorded {h : PrecompiledHeader} (hnew : h.data = [] ∧ h.unit = none)
    (hrun : Run { header := h } log s) : Recorded { header := h } log s := by
  induction hrun with
  | nil => exact ⟨.nil, hnew.1, fun unit hu => absurd (hnew.2.symm.trans hu) nofun, nofun⟩
  | snoc _ hstep ih => exact ih.step hstep

/-! ## Units that stay -/

/-- The event is not the work of an engine, and whoever asks is told the unit. -/
def Answers (unit : TranslationUnit) (l : HeaderEvent × Option HeaderReply) : Prop :=
  l.1.endsParse = false ∧ ∀ fs dirs, l.1 = .ask fs dirs → l.2 = some (.ok unit)

theorem Step.held (hstep : Step s e r t) (hunit : s.header.unit = some unit)
    (hidle : s.running = none) (he : e ≠ .clear) :
    t.header.unit = some unit ∧ t.running = none ∧ Answers unit (e, r) := by
  cases hstep with
  | append _ bytes => exact ⟨hunit, hidle, rfl, nofun⟩
  | clear => exact absurd rfl he
  | setStamps _ stamps => exact ⟨hunit, hidle, rfl, nofun⟩
  | refused hbegin =>
      rw [PrecompiledHeader.begin_of_held hunit] at hbegin
      cases hbegin
  | cached hbegin =>
      rw [PrecompiledHeader.begin_of_held hunit] at hbegin
      cases hbegin
      exact ⟨hunit, hidle, rfl, fun _ _ _ => rfl⟩
  | begun hbegin =>
      rw [PrecompiledHeader.begin_of_held hunit] at hbegin
      cases hbegin
  | parsed => cases hidle
  | failed => cases hidle

/-- As long as nothing is cleared, a unit that is held stays and is what everyone is told. -/
theorem Run.held (hrun : Run s more t) (hunit : s.header.unit = some unit)
    (hidle : s.running = none) (hclears : more.clears = 0) :
    t.header.unit = some unit ∧ t.running = none ∧ ∀ l ∈ more, Answers unit l := by
  induction hrun with
  | nil => exact ⟨hunit, hidle, nofun⟩
  | @snoc log _ _ e _ _ hstep ih =>
      rw [HeaderHistory.clears_append, Nat.add_eq_zero_iff] at hclears
      rcases ih hclears.1 with ⟨hmid, hmidle, hbefore⟩
      have hne : e ≠ .clear := by simpa [HeaderHistory.clears] using hclears.2
      rcases hstep.held hmid hmidle hne with ⟨hlast, hlidle, hanswer⟩
      refine ⟨hlast, hlidle, ?_⟩
      intro l hl
      rcases List.mem_append.1 hl with hl | hl
      · exact hbefore l hl
      · rw [List.mem_singleton.1 hl]
        exact hanswer

/-! ## Units that are not kept -/

/-- While a parse runs, only clears move the generation on. -/
theorem Run.running (hrun : Run s more t) (hjob : s.running = some j)
    (hgoesOn : ∀ l ∈ more, l.1.endsParse = false) :
    t.running = some j ∧ t.header.generation = s.header.generation + more.clears := by
  induction hrun with
  | nil => exact ⟨hjob, rfl⟩
  | @snoc more m u e r _ hstep ih =>
      -- Nobody asks and nothing ends the parse, so only the first three kinds of steps are left.
      rcases ih (fun l hl => hgoesOn l (List.mem_append_left _ hl)) with ⟨hmid, hgeneration⟩
      have he : e.endsParse = false := hgoesOn (e, r) (by simp)
      rw [HeaderHistory.clears_append, ← Nat.add_assoc, ← hgeneration]
      cases hstep with
      | append => exact ⟨hmid, rfl⟩
      | clear => exact ⟨hmid, rfl⟩
      | setStamps => exact ⟨hmid, rfl⟩
      | refused => cases hmid
      | cached => cases hmid
      | begun => cases hmid
      | parsed => cases he
      | failed => cases he

theorem Run.last (hrun : Run s (log ++ [(e, r)]) t) : ∃ m, Run s log m ∧ Step m e r t := by
  generalize hwhole : log ++ [(e, r)] = whole at hrun
  cases hrun with
  | nil => simp at hwhole
  | snoc hbefore hstep =>
      rcases List.append_inj' hwhole rfl with ⟨rfl, hlast⟩
      cases hlast
      exact ⟨_, hbefore, hstep⟩

/-- A run of one event is a step. -/
theorem Run.step (hrun : Run s [(e, r)] t) : Step s e r t := by
  have hlast : Run s ([] ++ [(e, r)]) t := hrun
  rcases hlast.last with ⟨m, hbefore, hstep⟩
  generalize hnil : ([] : HeaderHistory) = log at hbefore
  cases hbefore with
  | nil => exact hstep
  | snoc => simp at hnil

/-- A run may be cut at any event. -/
theorem Run.split (hrun : Run s (log ++ more) t) : ∃ m, Run s log m ∧ Run m more t := by
  -- On the second part, from its end, since runs grow at the end.
  induction more using List.reverseRecOn generalizing t with
  | nil => exact ⟨t, by simpa using hrun, .nil⟩
  | append_singleton more l ih =>
      rw [← List.append_assoc] at hrun
      rcases hrun.last with ⟨m, hbefore, hstep⟩
      rcases ih hbefore with ⟨mid, hmid, hrest⟩
      exact ⟨mid, hmid, hrest.snoc hstep⟩

/-- The parse that was begun ends: its unit goes to whoever asked, and is kept, with the stamps of
the parse, if and only if nothing was cleared meanwhile. -/
theorem Run.parsed {before during : HeaderHistory} {fs : FileSystem} {dirs : List Path}
    (hrun : Run start (before ++ (.ask fs dirs, none) :: during) s)
    (hgoesOn : ∀ l ∈ during, l.1.endsParse = false) (hstep : Step s (.parsed unit) r t) :
    r = some (.ok unit) ∧ ∃ j, s.running = some j ∧
      t.header = if during.clears = 0 then { s.header with stamps := j.stamps, unit := some unit }
        else s.header := by
  have hcut : before ++ (.ask fs dirs, none) :: during =
      (before ++ [(.ask fs dirs, none)]) ++ during := by simp
  rw [hcut] at hrun
  -- The run is cut where the parse begins, and its job is followed from there.
  rcases hrun.split with ⟨m, hbefore, hduring⟩
  rcases hbefore.last with ⟨m₀, -, hask⟩
  cases hask with
  | @begun h₀ _ _ j hbegin =>
      have hsame := (PrecompiledHeader.of_begin_job hbegin).2
      rcases hduring.running rfl hgoesOn with ⟨hjob, hgeneration⟩
      cases hstep with
      | parsed header job =>
          cases hjob
          refine ⟨rfl, j, rfl, ?_⟩
          have hlater : header.generation = j.generation + during.clears := by
            rw [hsame]
            exact hgeneration
          by_cases hclears : during.clears = 0
          · rw [if_pos hclears]
            exact if_pos (by omega)
          · rw [if_neg hclears]
            exact PrecompiledHeader.finish_of_ne (by omega) unit

/-! ## The whole history -/

/-- **What a header has been through.** In every run of a new header its text is what was added
since the last clear; a unit it holds was parsed since the last clear, from beginning to end; once
it holds a unit, everyone who asks is told that unit until a clear; and a parse hands its unit out
and leaves it, with the stamps it began with, in the header, but for one that was cleared meanwhile,
which leaves the header alone. -/
theorem Run.history {h : PrecompiledHeader} (hnew : h.data = [] ∧ h.unit = none)
    (hrun : Run { header := h } log s) :
    s.header.data = log.text ∧
      (∀ unit, s.header.unit = some unit → ParsedSinceClear { header := h } log unit) ∧
      (∀ unit more t, s.header.unit = some unit → Run s more t → more.clears = 0 →
        t.header.unit = some unit ∧ t.running = none ∧ ∀ l ∈ more, Answers unit l) ∧
      (∀ unit before fs dirs, ∀ during : HeaderHistory, ∀ r t,
        log = before ++ (.ask fs dirs, none) :: during →
        (∀ l ∈ during, l.1.endsParse = false) → Step s (.parsed unit) r t →
          r = some (.ok unit) ∧ ∃ j, s.running = some j ∧
            (during.clears = 0 →
              t.header = { s.header with stamps := j.stamps, unit := some unit }) ∧
            (during.clears ≠ 0 → t.header = s.header)) := by
  have hrecord : Recorded { header := h } log s := hrun.recorded hnew
  refine ⟨hrecord.data, hrecord.unit, ?_, ?_⟩
  · intro unit more t hunit hmore hclears
    -- While a parse is running there would be no unit.
    have hidle : s.running = none := by
      cases hjob : s.running with
      | none => rfl
      | some j => exact absurd (hunit.symm.trans (hrecord.running j hjob).1) nofun
    exact hmore.held hunit hidle hclears
  · intro unit before fs dirs during r t hlog hgoesOn hstep
    rw [hlog] at hrun
    rcases hrun.parsed hgoesOn hstep with ⟨hreply, j, hjob, hheader⟩
    exact ⟨hreply, j, hjob, fun hclears => hheader.trans (if_pos hclears),
      fun hclears => hheader.trans (if_neg hclears)⟩

/-! ### One parse that is left alone, and one with a clear while it is running -/

/-- A header without text. -/
def blankHeader : PrecompiledHeader :=
  { key := { digest := "", header := ⟨"pch.h"⟩, flags := [] }, kind := .mtime, file := ⟨"pch.h"⟩ }

/-- An empty line is added and parsed; before the unit is there, the text is cleared and a blank
added. -/
def clearedWhileParsing : HeaderHistory :=
  [(.append [10], none), (.ask {} [], none), (.clear, none), (.append [32], none),
    (.parsed ⟨1⟩, some (.ok ⟨1⟩))]

/-- A parse of one empty line begins. -/
theorem begin_emptyLine : ∃ j, (blankHeader.append [10]).begin {} [] = .ok (.job j) := by
  have hline : IncludeDirective.ofLine? [10] = none := by decide +kernel
  have hexpand : ∃ x, ((blankHeader.append [10]).searchPath []).expand {} ⟨"pch.h"⟩ [10] =
      .ok x := by
    simp [SearchPath.expand, physicalLines, Expansion.ofTasks, hline, Except.map]
  rcases hexpand with ⟨x, hx⟩
  exact ⟨_, PrecompiledHeader.begin_of_expand (h := blankHeader.append [10]) rfl (by decide) hx⟩

theorem run_parsing : ∃ s j, Run { header := blankHeader }
    [(.append [10], none), (.ask {} [], none)] s ∧ s.running = some j := by
  rcases begin_emptyLine with ⟨j, hbegin⟩
  exact ⟨_, j, (Run.nil.snoc (.append _ [10])).snoc (.begun hbegin), rfl⟩

theorem run_clearedWhileParsing : ∃ s, Run { header := blankHeader } clearedWhileParsing s := by
  rcases begin_emptyLine with ⟨j, hbegin⟩
  exact ⟨_, ((((Run.nil.snoc (.append _ [10])).snoc (.begun hbegin)).snoc (.clear _)).snoc
    (.append _ [32])).snoc (.parsed _ _ ⟨1⟩)⟩

theorem history_clearedWhileParsing :
    (blankHeader.data = [] ∧ blankHeader.unit = none) ∧
      (∃ s, Run { header := blankHeader } clearedWhileParsing s ∧ s.header.data = [32]) ∧
      ∃ s t, Run { header := blankHeader } [(.append [10], none), (.ask {} [], none)] s ∧
        Step s (.parsed ⟨1⟩) (some (.ok ⟨1⟩)) t ∧ t.header.unit = some ⟨1⟩ := by
  rcases run_clearedWhileParsing with ⟨s, hrun⟩
  rcases run_parsing with ⟨⟨header, _⟩, j, hbefore, rfl⟩
  have hstep := Step.parsed header j ⟨1⟩
  rcases (Run.history ⟨rfl, rfl⟩ hbefore).2.2.2 ⟨1⟩ [(.append [10], none)] {} [] [] _ _ rfl nofun
    hstep with ⟨-, _, -, hkept, -⟩
  refine ⟨⟨rfl, rfl⟩, ⟨s, hrun, (Run.history ⟨rfl, rfl⟩ hrun).1⟩, _, _, hbefore, hstep, ?_⟩
  exact congrArg PrecompiledHeader.unit (hkept rfl)

end SharedHeader
end BuildTrace
