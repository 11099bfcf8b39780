import BuildTrace.Proofs.Precompile.SharedCache

/-!
# FailedCalls — what is left of a call that comes to no unit

A call for a unit may be refused at once, because there is no text or a file cannot be read, or fail
when the engine is done. In between anything may happen to the cache and to the header itself.

* `SharedCache.FailedCall` — a failed call, with what went on meanwhile;
* `SharedCache.dropParse` — a cache in which a parse has been forgotten: `Run.dropParse` says that
  nothing else depends on it until it ends;
* `HeaderHistory.changed` — what the changes of a history alone make of a header;
* `SharedCache.StartsOver` — the next call expands and parses the text there is then;
* `Run.of_failedCall` — a failed call leaves behind what went on meanwhile, and nothing else.
-/

namespace BuildTrace

/-! ## Headers without a unit -/

/-- What an event makes of a header to which no unit comes. -/
def HeaderEvent.change : HeaderEvent → PrecompiledHeader → PrecompiledHeader
  | .append bytes, h => h.append bytes
  | .clear, h => h.clear
  | .setStamps stamps, h => h.setStamps stamps
  | .ask .., h | .parsed _, h | .failed _, h => h

/-- What the changes of a history make of a header. -/
def HeaderHistory.changed (log : HeaderHistory) (h : PrecompiledHeader) : PrecompiledHeader :=
  log.foldl (fun h l => l.1.change h) h

theorem HeaderEvent.unit_change {h : PrecompiledHeader} (hnone : h.unit = none) (e : HeaderEvent) :
    (e.change h).unit = none := by
  cases e with
  | append | setStamps | ask | parsed | failed => exact hnone
  | clear => rfl

theorem HeaderHistory.changed_append (log more : HeaderHistory) (h : PrecompiledHeader) :
    changed (log ++ more) h = more.changed (log.changed h) :=
  List.foldl_append

theorem HeaderHistory.unit_changed {h : PrecompiledHeader} (hnone : h.unit = none)
    (log : HeaderHistory) : (log.changed h).unit = none := by
  induction log using List.reverseRecOn with
  | nil => exact hnone
  | append_singleton log l ih =>
      rw [changed_append]
      exact l.1.unit_change ih

namespace SharedHeader

variable {s t t' x y : SharedHeader} {log : HeaderHistory} {e : HeaderEvent}
  {r : Option HeaderReply}

theorem Step.header_eq_change (hstep : Step s e r t) (he : ∀ unit, e ≠ .parsed unit) :
    t.header = e.change s.header := by
  cases hstep with
  | append | clear | setStamps | refused | cached | begun | failed => rfl
  | parsed _ _ unit => exact absurd rfl (he unit)

theorem Run.header_eq_changed (hrun : Run s log t) (hlog : ∀ l ∈ log, ∀ unit, l.1 ≠ .parsed unit) :
    t.header = log.changed s.header := by
  induction hrun with
  | nil => rfl
  | @snoc log m u e r _ hstep ih =>
      have hmid : m.header = log.changed s.header :=
        ih fun l hl => hlog l (List.mem_append_left _ hl)
      have he : ∀ unit, e ≠ .parsed unit := hlog (e, r) (by simp)
      rw [HeaderHistory.changed_append, ← hmid]
      exact hstep.header_eq_change he

/-- While nobody asks, no parse begins, and so none ends. -/
theorem Run.idle (hrun : Run s log t) (hidle : s.running = none)
    (hlog : ∀ l ∈ log, ∀ fs dirs, l.1 ≠ .ask fs dirs) :
    t.running = none ∧ ∀ l ∈ log, ∀ unit, l.1 ≠ .parsed unit := by
  induction hrun with
  | nil => exact ⟨hidle, nofun⟩
  | @snoc log m u e r _ hstep ih =>
      rcases ih fun l hl => hlog l (List.mem_append_left _ hl) with ⟨hmid, hbefore⟩
      have he : ∀ fs dirs, e ≠ .ask fs dirs := hlog (e, r) (by simp)
      have hlast : u.running = none ∧ ∀ unit, e ≠ .parsed unit := by
        cases hstep with
        | append | clear | setStamps => exact ⟨hmid, nofun⟩
        | @refused _ fs dirs | @cached _ fs dirs | @begun _ fs dirs =>
            exact absurd rfl (he fs dirs)
        | parsed => cases hmid
        | failed => cases hmid
      refine ⟨hlast.1, ?_⟩
      intro l hl
      rcases List.mem_append.1 hl with hl | hl
      · exact hbefore l hl
      · rw [List.mem_singleton.1 hl]
        exact hlast.2

/-- What goes on while a parse is running could go on without it. -/
theorem Step.dropParse (hstep : Step x e r y) (hjob : x.running ≠ none)
    (he : e.endsParse = false) : Step { header := x.header } e r { header := y.header } := by
  cases hstep with
  | append _ bytes => exact .append { header := x.header } bytes
  | clear => exact .clear { header := x.header }
  | setStamps _ stamps => exact .setStamps { header := x.header } stamps
  | refused | cached | begun => exact absurd rfl hjob
  | parsed => cases he
  | failed => cases he

/-- What someone who asks for the unit of a header is told, and what is left of the header. -/
def asked (h : PrecompiledHeader) (fs : FileSystem) (dirs : List Path) :
    Option HeaderReply × SharedHeader :=
  match h.begin fs dirs with
  | .error f => (some (.error f), { header := h })
  | .ok (.cached unit) => (some (.ok unit), { header := h })
  | .ok (.job j) => (none, { header := h, running := some j })

/-- A question can always be asked of a header that is not parsed, and has one answer. -/
theorem step_ask_iff {h : PrecompiledHeader} {fs : FileSystem} {dirs : List Path} :
    Step { header := h } (.ask fs dirs) r t ↔ (r, t) = asked h fs dirs := by
  constructor
  · intro hstep
    cases hstep with
    | refused hbegin => rw [asked, hbegin]
    | cached hbegin => rw [asked, hbegin]
    | begun hbegin => rw [asked, hbegin]
  · intro hasked
    rw [asked] at hasked
    split at hasked
    · next f hbegin => cases hasked; exact .refused hbegin
    · next unit hbegin => cases hasked; exact .cached hbegin
    · next j hbegin => cases hasked; exact .begun hbegin

/-- An event and its reply decide what comes of them. -/
theorem Step.unique (hstep : Step s e r t) (hstep' : Step s e r t') : t' = t := by
  cases hstep with
  | append | clear | setStamps | refused | cached | parsed | failed =>
      cases hstep'
      rfl
  | begun hbegin =>
      cases hstep' with
      | begun hbegin' =>
          rw [hbegin, Except.ok.injEq, ParseStart.job.injEq] at hbegin'
          rw [hbegin']

end SharedHeader

/-! ## Caches in which a parse is forgotten -/

namespace SharedCache

variable {s t t' u : SharedCache} {m : CacheMove} {log more during call : CacheHistory}
  {handle : HeaderHandle} {x y : SharedHeader} {h k : PrecompiledHeader} {fs : FileSystem}
  {dirs : List Path}

/-- The cache without the parse that is running of a header. -/
def dropParse (s : SharedCache) (handle : HeaderHandle) : SharedCache :=
  { s with running := Function.update s.running handle none }

theorem put_self (hx : s.header? handle = some x) : s.put handle x = s := by
  have hcache : s.cache.update handle (fun _ => x.header) = s.cache :=
    HeaderCache.update_eq_self (at?_of_header? hx) rfl
  rw [put, hcache, ← running_of_header? hx, Function.update_eq_self]

theorem put_eq_dropParse (hx : s.header? handle = some x) :
    s.put handle { header := x.header } = s.dropParse handle := by
  rw [put, HeaderCache.update_eq_self (at?_of_header? hx) rfl]
  rfl

theorem dropParse_self (hx : s.header? handle = some { header := h }) :
    s.dropParse handle = s := by
  rw [← put_eq_dropParse hx, put_self hx]

theorem dropParse_put (s : SharedCache) (handle : HeaderHandle) (y : SharedHeader) :
    (s.put handle y).dropParse handle =
      (s.dropParse handle).put handle { header := y.header } := by
  simp [put, dropParse]

theorem dropParse_put_of_ne {other : HeaderHandle} (hne : other ≠ handle) (y : SharedHeader) :
    (s.put other y).dropParse handle = (s.dropParse handle).put other y := by
  simp [put, dropParse, Function.update_comm hne]

theorem header?_dropParse (hx : s.header? handle = some x) :
    (s.dropParse handle).header? handle = some { header := x.header } := by
  have hheader : (s.dropParse handle).cache.at? handle = some x.header := at?_of_header? (s := s) hx
  rw [header?_of_at? hheader]
  simp [dropParse]

theorem header?_dropParse_of_ne {other : HeaderHandle} (hne : other ≠ handle) :
    (s.dropParse handle).header? other = s.header? other := by
  simp only [header?, dropParse, Function.update_of_ne hne]

theorem Step.dropParse (hstep : Step s m t) (hx : s.header? handle = some x)
    (hjob : x.running ≠ none) (hm : ∀ l, m.on? handle = some l → l.1.endsParse = false) :
    Step (s.dropParse handle) m (t.dropParse handle) := by
  cases hstep with
  | call hcall => exact .call (s.dropParse handle) hcall
  | @work target x' y e r hx' hwork =>
      by_cases htarget : target = handle
      · subst htarget
        rw [hx] at hx'
        cases hx'
        have he : e.endsParse = false := hm (e, r) (if_pos rfl)
        rw [dropParse_put]
        exact .work (header?_dropParse hx) (hwork.dropParse hjob he)
      · rw [dropParse_put_of_ne htarget]
        exact .work ((header?_dropParse_of_ne htarget).trans hx') hwork

theorem Run.dropParse (hrun : Run s log t) (hx : s.header? handle = some x)
    (hjob : x.running ≠ none) (hgoesOn : ∀ l ∈ log.on handle, l.1.endsParse = false) :
    Run (s.dropParse handle) log (t.dropParse handle) := by
  induction hrun with
  | nil => exact .nil
  | @snoc log u v m hbefore hstep ih =>
      rw [CacheHistory.on_snoc] at hgoesOn
      have hgoesOn' : ∀ l ∈ log.on handle, l.1.endsParse = false := fun l hl =>
        hgoesOn l (List.mem_append_left _ hl)
      rcases hbefore.header? hx with ⟨y, hy, hown⟩
      -- The parse is still running where the last move is made.
      have hjob' : y.running ≠ none := by
        rcases Option.ne_none_iff_exists'.1 hjob with ⟨j, hj⟩
        rw [(hown.running hj hgoesOn').1]
        exact nofun
      refine (ih hgoesOn').snoc (hstep.dropParse hy hjob' ?_)
      intro l hl
      exact hgoesOn l (by simp [hl])

/-! ## Runs and their moves -/

theorem Step.unique (hstep : Step s m t) (hstep' : Step s m t') : t' = t := by
  cases hstep with
  | call =>
      cases hstep' with
      | call => rfl
  | work hx hwork =>
      cases hstep' with
      | work hx' hwork' =>
          rw [hx, Option.some.injEq] at hx'
          subst hx'
          rw [hwork.unique hwork']

theorem Run.last (hrun : Run s (log ++ [m]) t) : ∃ u, Run s log u ∧ Step u m t := by
  generalize hwhole : log ++ [m] = whole at hrun
  cases hrun with
  | nil => simp at hwhole
  | snoc hbefore hstep =>
      rcases List.append_singleton_inj.1 hwhole with ⟨rfl, rfl⟩
      exact ⟨_, hbefore, hstep⟩

/-- The moves of a run, with their answers, decide where it ends. -/
theorem Run.unique (hrun : Run s log t) (hrun' : Run s log t') : t' = t := by
  induction hrun generalizing t' with
  | nil =>
      generalize hnil : ([] : CacheHistory) = log at hrun'
      cases hrun' with
      | nil => rfl
      | snoc => simp at hnil
  | snoc _ hstep ih =>
      rcases hrun'.last with ⟨u', hbefore', hstep'⟩
      rw [ih hbefore'] at hstep'
      exact hstep.unique hstep'

theorem Run.split (hrun : Run s (log ++ more) t) : ∃ u, Run s log u ∧ Run u more t := by
  -- On the second part, from its end, since runs grow at the end.
  induction more using List.reverseRecOn generalizing t with
  | nil => exact ⟨t, by simpa using hrun, .nil⟩
  | append_singleton more m ih =>
      rw [← List.append_assoc] at hrun
      rcases hrun.last with ⟨u, hbefore, hstep⟩
      rcases ih hbefore with ⟨mid, hmid, hrest⟩
      exact ⟨mid, hmid, hrest.snoc hstep⟩

/-- A run of one move is a step. -/
theorem Run.step (hrun : Run s [m] t) : Step s m t := by
  have hlast : Run s ([] ++ [m]) t := hrun
  rcases hlast.last with ⟨u, hbefore, hstep⟩
  rwa [Run.nil.unique hbefore] at hstep

/-! ## Failed calls -/

/-- A call for the unit of a header that comes to no unit; `during` is what went on while the engine
was at work. -/
inductive FailedCall (handle : HeaderHandle) : PrecompileFailure → CacheHistory → CacheHistory → Prop
  where
  | refused (fs : FileSystem) (dirs : List Path) (f : PrecompileFailure) :
      FailedCall handle f [] [.work handle (.ask fs dirs) (some (.error f))]
  | failed (fs : FileSystem) (dirs : List Path) (e : EngineFailure) {during : CacheHistory} :
      (∀ l ∈ during.on handle, l.1.endsParse = false) →
        FailedCall handle (.engine e) during
          (.work handle (.ask fs dirs) none :: during ++
            [.work handle (.failed e) (some (.error (.engine e)))])

/-- Whoever asks for the unit of the header `k` has the text there is expanded, and if that succeeds
the engine is given what it expands to. -/
def StartsOver (s : SharedCache) (handle : HeaderHandle) (k : PrecompiledHeader) (fs : FileSystem)
    (dirs : List Path) : Prop :=
  match (k.searchPath dirs).expand fs k.file k.data with
  | .error cause => ∀ r t, Step s (.work handle (.ask fs dirs) r) t ↔
      r = some (.error (.read cause)) ∧ t = s
  | .ok x => ∀ r t, Step s (.work handle (.ask fs dirs) r) t ↔
      r = none ∧ t = s.put handle
        { header := k
          running := some
            { file := k.file
              source := x.source
              flags := k.key.flags
              stamps := x.stamps
              generation := k.generation } }

/-- Working with a header changes it as if it were alone. -/
theorem step_work_iff {e : HeaderEvent} {r : Option HeaderReply}
    (hx : s.header? handle = some x) :
    Step s (.work handle e r) t ↔ ∃ y, SharedHeader.Step x e r y ∧ t = s.put handle y := by
  constructor
  · intro hstep
    cases hstep with
    | @work _ _ y _ _ hx' hwork =>
        rw [hx, Option.some.injEq] at hx'
        subst hx'
        exact ⟨y, hwork, rfl⟩
  · rintro ⟨y, hwork, rfl⟩
    exact .work hx hwork

theorem step_ask_iff {r : Option HeaderReply} (hx : s.header? handle = some { header := k }) :
    Step s (.work handle (.ask fs dirs) r) t ↔
      r = (SharedHeader.asked k fs dirs).1 ∧ t = s.put handle (SharedHeader.asked k fs dirs).2 := by
  simp [step_work_iff hx, SharedHeader.step_ask_iff, Prod.ext_iff]

theorem startsOver_of_unit_eq_none (hx : s.header? handle = some { header := k })
    (hnone : k.unit = none) (hdata : k.data ≠ []) (fs : FileSystem) (dirs : List Path) :
    s.StartsOver handle k fs dirs := by
  cases hexpand : (k.searchPath dirs).expand fs k.file k.data with
  | error cause =>
      have hbegin : k.begin fs dirs = .error (.read cause) := by
        simp only [PrecompiledHeader.begin, hnone, if_neg hdata, hexpand]
      simp only [StartsOver, hexpand]
      intro r t
      rw [step_ask_iff hx, SharedHeader.asked, hbegin, put_self hx]
  | ok x =>
      have hbegin := PrecompiledHeader.begin_of_expand hnone hdata hexpand
      simp only [StartsOver, hexpand]
      intro r t
      rw [step_ask_iff hx, SharedHeader.asked, hbegin]

/-- A call that was refused leaves all as it was. -/
theorem of_refused {f : PrecompileFailure} (hx : s.header? handle = some { header := h })
    (hstep : Step s (.work handle (.ask fs dirs) (some (.error f))) t) :
    t = s ∧ h.unit = none := by
  rcases (step_ask_iff hx).1 hstep with ⟨hreply, rfl⟩
  rw [SharedHeader.asked] at hreply ⊢
  cases hunit : h.unit with
  | some unit =>
      rw [PrecompiledHeader.begin_of_held hunit] at hreply
      cases hreply
  | none =>
      refine ⟨?_, rfl⟩
      cases hbegin : h.begin fs dirs with
      | error => exact put_self hx
      | ok start =>
          rw [hbegin] at hreply
          cases start with
          | cached => cases hreply
          | job => cases hreply

/-- A parse that fails is forgotten. -/
theorem of_failed {e : EngineFailure} (hx : s.header? handle = some { header := h })
    (hgoesOn : ∀ l ∈ during.on handle, l.1.endsParse = false)
    (hrun : Run s (.work handle (.ask fs dirs) none :: during ++
      [.work handle (.failed e) (some (.error (.engine e)))]) t) :
    Run s during t ∧ t.header? handle = some { header := (during.on handle).changed h } ∧
      h.unit = none := by
  rcases hrun.last with ⟨v, hbefore, hend⟩
  have hcut : Run s ([.work handle (.ask fs dirs) none] ++ during) v := hbefore
  rcases hcut.split with ⟨u, hask, hduring⟩
  cases hask.step with
  | work hx' hwork =>
      rw [hx, Option.some.injEq] at hx'
      subst hx'
      cases hwork with
      | @begun _ _ _ j hbegin =>
          have hu := header?_put hx { header := h, running := some j }
          rcases hduring.header? hu with ⟨y, hy, hown⟩
          have hheader : y.header = (during.on handle).changed h := by
            apply hown.header_eq_changed
            rintro l hl unit hparsed
            have hends := hgoesOn l hl
            rw [hparsed] at hends
            cases hends
          -- The engine reports to the header it was begun for, and nothing is kept of its parse.
          rcases (step_work_iff hy).1 hend with ⟨z, hfailed, rfl⟩
          have hz : z = { header := y.header } := by
            cases hfailed
            rfl
          subst hz
          refine ⟨?_, by rw [header?_put hy, hheader], (PrecompiledHeader.of_begin_job hbegin).1⟩
          have hforgotten := hduring.dropParse hu nofun hgoesOn
          rwa [dropParse_put, dropParse_self hx, put_self hx, ← put_eq_dropParse hy]
            at hforgotten

/-- What a failed call leaves behind. -/
structure LeavesNothing (s : SharedCache) (handle : HeaderHandle) (h : PrecompiledHeader)
    (during : CacheHistory) (t : SharedCache) : Prop where
  /-- All is as if nobody had called. -/
  uncalled : ∀ t', Run s during t' ↔ t' = t
  /-- Only what went on meanwhile has changed the header. -/
  header : t.header? handle = some { header := (during.on handle).changed h }
  noUnit : ((during.on handle).changed h).unit = none
  /-- Until the next call there is no unit. If there is text by then, that call starts over. -/
  next : ∀ more u, Run t more u → (∀ l ∈ more.on handle, ∀ fs dirs, l.1 ≠ .ask fs dirs) →
    ∃ k, k = (more.on handle).changed ((during.on handle).changed h) ∧
      u.header? handle = some { header := k } ∧ k.unit = none ∧
      (k.data ≠ [] → ∀ fs dirs, u.StartsOver handle k fs dirs)

/-- **Failed calls leave nothing behind.** However a call for a unit fails, on any files and with
anything going on meanwhile, the cache and all its headers are afterwards what the rest alone would
have made of them. The header has no unit, and with text in it the next call expands and parses the
text it has then. -/
theorem Run.of_failedCall {f : PrecompileFailure} (hcall : FailedCall handle f during call)
    (hx : s.header? handle = some { header := h }) (hrun : Run s call t) :
    s.LeavesNothing handle h during t := by
  have hforgotten : Run s during t ∧
      t.header? handle = some { header := (during.on handle).changed h } ∧ h.unit = none := by
    cases hcall with
    | refused fs dirs f =>
        rcases of_refused hx hrun.step with ⟨rfl, hnone⟩
        exact ⟨.nil, hx, hnone⟩
    | failed fs dirs e hgoesOn => exact of_failed hx hgoesOn hrun
  rcases hforgotten with ⟨hduring, hheader, hnone⟩
  have hstill := HeaderHistory.unit_changed hnone (during.on handle)
  refine ⟨?_, hheader, hstill, ?_⟩
  · intro t'
    constructor
    · exact hduring.unique
    · rintro rfl
      exact hduring
  · -- While nobody asks nothing is parsed, so no unit comes to the header.
    intro more u hmore hunasked
    rcases hmore.header? hheader with ⟨⟨k, running⟩, hu, hown⟩
    rcases hown.idle rfl hunasked with ⟨hidle, hunparsed⟩
    subst hidle
    have hk : k = (more.on handle).changed ((during.on handle).changed h) :=
      hown.header_eq_changed hunparsed
    have hnone' : k.unit = none := by
      rw [hk]
      exact HeaderHistory.unit_changed hstill _
    exact ⟨k, hk, hu, hnone', fun hdata => startsOver_of_unit_eq_none hu hnone' hdata⟩

/-! ### An engine that is not there -/

open SharedHeader (blankHeader begin_emptyLine)

/-- While an empty line is parsed a blank is added, and the header is dropped from use. -/
def droppedWhileParsing : CacheHistory :=
  [.work 0 (.append [32]) none, .call .dropAll .done]

/-- The engine turns out not to be there. Whoever still has the header may try again, with the
empty line and the blank. -/
theorem leavesNothing_droppedWhileParsing : ∃ call s t,
    FailedCall 0 (.engine (.unavailable "")) droppedWhileParsing call ∧
    s.header? 0 = some { header := blankHeader.append [10] } ∧ Run s call t ∧
    s.LeavesNothing 0 (blankHeader.append [10]) droppedWhileParsing t ∧
    t.StartsOver 0 ((blankHeader.append [10]).append [32]) {} [] := by
  rcases run_emptyLineLog with ⟨s, -, -, hx⟩
  rcases begin_emptyLine with ⟨j, hbegin⟩
  have hcall : FailedCall 0 (.engine (.unavailable "")) droppedWhileParsing _ :=
    .failed {} [] (.unavailable "") (by decide)
  have hdrop := @Step.call ((s.put 0 ⟨blankHeader.append [10], some j⟩).put 0
    ⟨(blankHeader.append [10]).append [32], some j⟩) .dropAll trivial
  have hlast := header?_put (header?_put hx ⟨blankHeader.append [10], some j⟩)
    ⟨(blankHeader.append [10]).append [32], some j⟩
  have hrun := (((Run.nil.snoc (.work hx (.begun hbegin))).snoc
    (.work (header?_put hx _) (.append _ [32]))).snoc hdrop).snoc
      (.work (hdrop.header?_of_call hlast) (.failed _ j (.unavailable "")))
  have hnothing := Run.of_failedCall hcall hx hrun
  rcases hnothing.next [] _ .nil nofun with ⟨k, hk, -, -, hstartsOver⟩
  subst hk
  exact ⟨_, s, _, hcall, hx, hrun, hnothing, hstartsOver (by decide) {} []⟩

end SharedCache
end BuildTrace
