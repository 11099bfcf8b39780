import BuildTrace.Build.Dispatch

/-!
# Log — the lines of a build, read one after the other

A session is compared with the plain reading of its log:

* `Dispatcher.readLog` — the lines of a log, up to one that cannot be followed;
* `Dispatcher.LineOutcome` — all that one line can do;
* `Dispatcher.readLog_induction`, `readLog_append` — proofs about a log, line by line or cut in two;
* `counts_readLog`, `lines_readLog` — what a log delivers, and which lines it offers;
* `Dispatcher.events` — what the lines that are no commands did to the directories.
-/

namespace BuildTrace

/-! ## Reading a log -/

/-- What a log has come to: the lines offered, where the build is now, and why the last line could
not be followed. -/
structure LogReading where
  offers : List Offer
  dispatcher : Dispatcher
  fault : Option Directory.Fault
deriving DecidableEq, Repr

namespace LogReading

/-- The log with one more line in front. -/
def after (offer : Offer) (log : LogReading) : LogReading :=
  { log with offers := offer :: log.offers }

/-- The commands delivered. -/
def delivered (log : LogReading) : List Invocation :=
  log.offers.filterMap Offer.invocation

end LogReading

namespace Dispatcher

variable (fs : FileSystem) (recognise : Recogniser) (extra : List String)

/-- Reads the lines of a log. Each is offered as a command of the innermost directory. A command is
delivered with the flags of the session, and leaves the directories alone; any other line is
followed, and the first that cannot be followed ends the reading. -/
def readLog (d : Dispatcher) : List String → LogReading
  | [] => { offers := [], dispatcher := d, fault := none }
  | text :: rest =>
    match recognise d.stack.top text with
    | some i =>
      let i := i.withSessionFlags extra
      ((d.deliver i).readLog rest).after { cwd := d.stack.top, line := text, invocation := some i }
    | none =>
      let offer : Offer := { cwd := d.stack.top, line := text, invocation := none }
      match Directory.follow fs d.stack text with
      | (.ok _, stack) => ({ d with stack := stack }.readLog rest).after offer
      | (.error e, _) => { offers := [offer], dispatcher := d, fault := some e }

variable {fs recognise extra} {d d' : Dispatcher} {text : String} {offer : Offer}
  {e : Directory.Fault}

variable (fs recognise extra) in
/-- All that one line can do. -/
inductive LineOutcome (d : Dispatcher) (text : String) :
    Offer → Except Directory.Fault Dispatcher → Prop where
  /-- The line is a command, and is delivered. -/
  | command {i : Invocation} : recognise d.stack.top text = some i →
      LineOutcome d text
        { cwd := d.stack.top, line := text, invocation := some (i.withSessionFlags extra) }
        (.ok (d.deliver (i.withSessionFlags extra)))
  /-- The line is no command, and is followed. -/
  | followed {ev : Directory.Event} {stack : Directory.Stack} :
      recognise d.stack.top text = none → Directory.follow fs d.stack text = (.ok ev, stack) →
        LineOutcome d text { cwd := d.stack.top, line := text, invocation := none }
          (.ok { d with stack := stack })
  /-- The line is no command, and cannot be followed. -/
  | lost {e : Directory.Fault} {stack : Directory.Stack} :
      recognise d.stack.top text = none → Directory.follow fs d.stack text = (.error e, stack) →
        LineOutcome d text { cwd := d.stack.top, line := text, invocation := none } (.error e)

theorem lineOutcome {r : Except Directory.Fault Dispatcher}
    (h : d.line fs recognise extra text = (offer, r)) :
    LineOutcome fs recognise extra d text offer r := by
  unfold line at h
  cases hr : recognise d.stack.top text with
  | some i =>
      simp only [hr, Prod.mk.injEq] at h
      rcases h with ⟨rfl, rfl⟩
      exact .command hr
  | none =>
      rcases hf : Directory.follow fs d.stack text with ⟨res, stack⟩
      cases res with
      | ok ev =>
          simp only [hr, hf, Prod.mk.injEq] at h
          rcases h with ⟨rfl, rfl⟩
          exact .followed hr hf
      | error e =>
          simp only [hr, hf, Prod.mk.injEq] at h
          rcases h with ⟨rfl, rfl⟩
          exact .lost hr hf

theorem readLog_cons_of_ok (h : d.line fs recognise extra text = (offer, .ok d'))
    (rest : List String) :
    d.readLog fs recognise extra (text :: rest) =
      (d'.readLog fs recognise extra rest).after offer := by
  cases lineOutcome h with
  | command hr => simp only [readLog, hr]
  | followed hr hf => simp only [readLog, hr, hf]

theorem readLog_cons_of_error (h : d.line fs recognise extra text = (offer, .error e))
    (rest : List String) :
    d.readLog fs recognise extra (text :: rest) =
      { offers := [offer], dispatcher := d, fault := some e } := by
  cases lineOutcome h with
  | lost hr hf => simp only [readLog, hr, hf]

/-- Every line of a log is read by `Dispatcher.line`; induction on a log follows what it does. -/
theorem readLog_induction {motive : Dispatcher → List String → Prop}
    (nil : ∀ d, motive d [])
    (ok : ∀ d d' text rest offer, d.line fs recognise extra text = (offer, .ok d') →
      motive d' rest → motive d (text :: rest))
    (error : ∀ d text rest offer e, d.line fs recognise extra text = (offer, .error e) →
      motive d (text :: rest)) :
    ∀ lines d, motive d lines := by
  intro lines
  induction lines with
  | nil => exact nil
  | cons text rest ih =>
      intro d
      rcases hl : d.line fs recognise extra text with ⟨offer, r⟩
      cases r with
      | ok d' => exact ok d d' text rest offer hl (ih d')
      | error e => exact error d text rest offer e hl

/-- A log that goes on is read from where the reading of its beginning ended. -/
theorem readLog_append (more : List String) : ∀ lines (d : Dispatcher),
    d.readLog fs recognise extra (lines ++ more) =
      let log := d.readLog fs recognise extra lines
      match log.fault with
      | some _ => log
      | none =>
        let rest := log.dispatcher.readLog fs recognise extra more
        { rest with offers := log.offers ++ rest.offers } := by
  refine @readLog_induction fs recognise extra _ ?nil ?ok ?error
  case nil =>
    intro d
    rfl
  case ok =>
    intro d d' text rest offer h ih
    -- The line is read the same way in both logs, and stands in front of what the rest comes to.
    rw [List.cons_append, readLog_cons_of_ok h, readLog_cons_of_ok h, ih]
    cases hfault : (d'.readLog fs recognise extra rest).fault with
    | some e => simp [LogReading.after, hfault]
    | none => simp [LogReading.after, hfault]
  case error =>
    intro d text rest offer e h
    rw [List.cons_append, readLog_cons_of_error h, readLog_cons_of_error h]

theorem readLog_append_of_ok {lines : List String}
    (h : (d.readLog fs recognise extra lines).fault = none) (more : List String) :
    d.readLog fs recognise extra (lines ++ more) =
      let log := d.readLog fs recognise extra lines
      let rest := log.dispatcher.readLog fs recognise extra more
      { rest with offers := log.offers ++ rest.offers } := by
  rw [readLog_append]
  simp only [h]

/-! ### What a log delivers -/

/-- What one line adds to the counts: one by kind for a command, nothing for another line. -/
theorem counts_of_line (h : d.line fs recognise extra text = (offer, .ok d')) :
    d'.sourceCount = d.sourceCount + offer.invocation.toList.countP (!·.makesPch) ∧
      d'.pchCount = d.pchCount + offer.invocation.toList.countP (·.makesPch) := by
  cases lineOutcome h with
  | @command i _ =>
      cases hpch : (i.withSessionFlags extra).makesPch with
      | true => simp [deliver, hpch]
      | false => simp [deliver, hpch]
  | followed => simp

theorem invocation_of_line_error (h : d.line fs recognise extra text = (offer, .error e)) :
    offer.invocation = none := by
  cases lineOutcome h with
  | lost => rfl

theorem line_eq_of_line {r : Except Directory.Fault Dispatcher}
    (h : d.line fs recognise extra text = (offer, r)) : offer.line = text := by
  cases lineOutcome h with
  | command => rfl
  | followed => rfl
  | lost => rfl

/-- The commands of a log are counted by their kind. -/
theorem counts_readLog : ∀ lines (d : Dispatcher),
    let log := d.readLog fs recognise extra lines
    log.dispatcher.sourceCount = d.sourceCount + log.delivered.countP (!·.makesPch) ∧
      log.dispatcher.pchCount = d.pchCount + log.delivered.countP (·.makesPch) := by
  refine @readLog_induction fs recognise extra _ ?nil ?ok ?error
  case nil =>
    intro d
    simp [readLog, LogReading.delivered]
  case ok =>
    intro d d' text rest offer h ih
    rcases counts_of_line h with ⟨hsource, hpch⟩
    rw [readLog_cons_of_ok h]
    simp only [LogReading.after, LogReading.delivered, List.filterMap_cons] at ih ⊢
    cases hi : offer.invocation with
    | none => simpa [hi, hsource, hpch] using ih
    | some i =>
        simp only [hi, Option.toList_some, List.countP_cons, List.countP_nil] at hsource hpch
        simp only [List.countP_cons]
        omega
  case error =>
    intro d text rest offer e h
    simp [readLog_cons_of_error h, LogReading.delivered, invocation_of_line_error h]

/-- The lines of a log are offered once each, in order, and all of them if all can be followed. -/
theorem lines_readLog : ∀ lines (d : Dispatcher),
    let log := d.readLog fs recognise extra lines
    log.offers.map Offer.line <+: lines ∧
      (log.fault = none → log.offers.map Offer.line = lines) := by
  refine @readLog_induction fs recognise extra _ ?nil ?ok ?error
  case nil =>
    intro d
    simp [readLog]
  case ok =>
    intro d d' text rest offer h ih
    rw [readLog_cons_of_ok h]
    simp only [LogReading.after, List.map_cons, line_eq_of_line h]
    exact ⟨List.cons_prefix_cons.2 ⟨rfl, ih.1⟩, fun hfault => by rw [ih.2 hfault]⟩
  case error =>
    intro d text rest offer e h
    simp [readLog_cons_of_error h, line_eq_of_line h]

/-! ### What a log does to the directories -/

variable (fs recognise extra) in
/-- What the lines of a log did to the directories, up to one that cannot be followed. A command
does nothing to them. -/
def events (d : Dispatcher) : List String → List Directory.Event
  | [] => []
  | text :: rest =>
    match recognise d.stack.top text with
    | some i => (d.deliver (i.withSessionFlags extra)).events rest
    | none =>
      match Directory.follow fs d.stack text with
      | (.ok ev, stack) => ev :: { d with stack := stack }.events rest
      | (.error _, _) => []

theorem events_append (more : List String) : ∀ lines (d : Dispatcher),
    (d.readLog fs recognise extra lines).fault = none →
      d.events fs recognise extra (lines ++ more) =
        d.events fs recognise extra lines ++
          (d.readLog fs recognise extra lines).dispatcher.events fs recognise extra more := by
  intro lines
  induction lines with
  | nil =>
      intro d _
      rfl
  | cons text rest ih =>
      intro d hfault
      rw [List.cons_append]
      cases hr : recognise d.stack.top text with
      | some i =>
          -- A command makes no event, here or in the longer log.
          simp only [readLog, hr, LogReading.after] at hfault
          simp only [events, readLog, hr, LogReading.after, ih _ hfault]
      | none =>
          rcases hf : Directory.follow fs d.stack text with ⟨res, stack⟩
          cases res with
          | error e => simp [readLog, hr, hf] at hfault
          | ok ev =>
              simp only [readLog, hr, hf, LogReading.after] at hfault
              simp only [events, readLog, hr, hf, LogReading.after, ih _ hfault, List.cons_append]

end Dispatcher
end BuildTrace
