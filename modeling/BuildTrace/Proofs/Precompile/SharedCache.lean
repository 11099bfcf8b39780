import BuildTrace.Proofs.Precompile.CacheOrder
import BuildTrace.Proofs.Precompile.History
import Mathlib.Logic.Function.Basic

/-!
# SharedCache — headers that are worked with while others come and go

A cache hands out its headers by their handles, and whoever has a handle may work with the header:
add text, have it parsed, and go on with that while headers are requested, replaced and dropped.
This module runs all of it at once, with parses under way on any number of headers:

* `SharedCache`, `CacheMove` — a cache with the parses that are running, and what can happen to it;
* `SharedCache.Step`, `SharedCache.Run` — when it can happen, and whole runs;
* `Step.header?`, `Run.header?` — a header is what its own history makes of it;
* `Run.exists_calls` — the cache of a run is one that calls come to, so all that holds after calls
  (`CacheSession.kept_run`) holds here;
* `SharedCache.IsDetached` — a header that was made and is not in use;
* `Run.isolated` — headers are kept apart, whether they are in use or were replaced or dropped.
-/

namespace BuildTrace

/-! ## What can happen -/

/-- A call that is about the cache, and not about a header that was handed out. -/
def CacheCall.IsOfCache : CacheCall → Prop
  | .change .. => False
  | _ => True

/-- The headers that an answer leads to. -/
def CacheAnswer.handles : CacheAnswer → List HeaderHandle
  | .header handle => [handle]
  | .found handle? => handle?.toList
  | .all handles => handles
  | .number _ | .done => []

/-- Something that happens to a cache or to one of its headers, with the answer. -/
inductive CacheMove where
  | call (call : CacheCall) (answer : CacheAnswer)
  /-- Someone works with the header of a handle. -/
  | work (handle : HeaderHandle) (event : HeaderEvent) (reply : Option HeaderReply)

/-- What happened to a cache and its headers, the last move last. -/
abbrev CacheHistory := List CacheMove

/-- What a move is to the header of a handle. -/
def CacheMove.on? (handle : HeaderHandle) : CacheMove → Option (HeaderEvent × Option HeaderReply)
  | .call .. => none
  | .work target event reply => if target = handle then some (event, reply) else none

/-- What happened to the header of a handle. -/
def CacheHistory.on (handle : HeaderHandle) (log : CacheHistory) : HeaderHistory :=
  log.filterMap (CacheMove.on? handle)

theorem CacheHistory.on_snoc (handle : HeaderHandle) (log : CacheHistory) (m : CacheMove) :
    on handle (log ++ [m]) = log.on handle ++ (m.on? handle).toList := by
  cases hon : m.on? handle with
  | none => simp [on, hon]
  | some l => simp [on, hon]

/-- A cache, and for each of its headers the parse that is running. -/
structure SharedCache where
  cache : HeaderCache
  running : HeaderHandle → Option ParseJob := fun _ => none

namespace SharedCache

/-- The header of a handle, with the parse of it that is running. -/
def header? (s : SharedCache) (handle : HeaderHandle) : Option SharedHeader :=
  (s.cache.at? handle).map fun h => { header := h, running := s.running handle }

/-- The cache with the header of a handle, and the parse of it, as they are in `x`. -/
def put (s : SharedCache) (handle : HeaderHandle) (x : SharedHeader) : SharedCache :=
  { cache := s.cache.update handle fun _ => x.header
    running := Function.update s.running handle x.running }

/-- What a move makes of a cache. The cache can always be asked; a header can be worked with by its
handle, in use or not, just as if it were alone. -/
inductive Step : SharedCache → CacheMove → SharedCache → Prop where
  | call (s : SharedCache) {call : CacheCall} : call.IsOfCache →
      Step s (.call call (s.cache.take call).1) { s with cache := (s.cache.take call).2 }
  | work {s : SharedCache} {handle : HeaderHandle} {x y : SharedHeader} {e : HeaderEvent}
      {r : Option HeaderReply} : s.header? handle = some x → SharedHeader.Step x e r y →
        Step s (.work handle e r) (s.put handle y)

/-- The runs of a cache, the last move last. -/
inductive Run (s : SharedCache) : CacheHistory → SharedCache → Prop where
  | nil : Run s [] s
  | snoc {log : CacheHistory} {t u : SharedCache} {m : CacheMove} :
      Run s log t → Step t m u → Run s (log ++ [m]) u

end SharedCache

/-! ## Headers by handle -/

namespace HeaderCache

variable {c : HeaderCache} {handle other : HeaderHandle} {header : PrecompiledHeader}
  {f g : PrecompiledHeader → PrecompiledHeader}

theorem at?_update_of_ne (hne : other ≠ handle) : (c.update handle f).at? other = c.at? other := by
  simp [at?, update, hne.symm]

theorem at?_update (h : c.at? handle = some header) :
    (c.update handle f).at? handle = some (f header) := by
  rw [at?] at h
  simp [at?, update, h]

/-- A change is known by what it makes of the one header. -/
theorem update_congr (h : c.at? handle = some header) (hfg : f header = g header) :
    c.update handle f = c.update handle g := by
  rw [at?] at h
  have hheaders : c.headers.modify handle f = c.headers.modify handle g := by
    apply List.ext_getElem?
    intro i
    by_cases hi : handle = i
    · subst hi
      simp [h, hfg]
    · simp [hi]
  rw [update, hheaders]
  rfl

theorem update_eq_self (h : c.at? handle = some header) (hf : f header = header) :
    c.update handle f = c := by
  calc
    c.update handle f = c.update handle id := update_congr h hf
    _ = c := by simp [update]

/-! ### What a call can do -/

/-- What a call about the cache comes to: nothing is changed; a new header is made, and put in use
behind the others or in the slot of its key; or all headers are dropped from use. -/
inductive Took (c : HeaderCache) : HeaderCache → CacheAnswer → Prop where
  | found {answer : CacheAnswer} : (∀ handle ∈ answer.handles, handle ∈ c.handles) →
      Took c c answer
  | made {c' : HeaderCache} (header : PrecompiledHeader) : c'.headers = c.headers ++ [header] →
      c'.handles = c.handles ++ [c.headers.length] → Took c c' (.header c.headers.length)
  | replaced {c' : HeaderCache} {k : HeaderKey} {slot : Nat} (header : PrecompiledHeader) :
      c.slot? k = some slot → c'.headers = c.headers ++ [header] →
        c'.handles = c.handles.set slot c.headers.length → Took c c' (.header c.headers.length)
  | dropped : Took c c.dropAll .done

theorem mem_handles_of_lookup? {k : HeaderKey} (h : c.lookup? k = some handle) :
    handle ∈ c.handles := by
  rcases Option.bind_eq_some_iff.1 h with ⟨slot, -, hslot⟩
  exact List.mem_of_getElem? hslot

theorem took_request (c : HeaderCache) (k : HeaderKey) :
    Took c (c.request k).2 (.header (c.request k).1) := by
  cases hlookup : c.lookup? k with
  | none =>
      rw [request_of_none hlookup]
      exact .made _ rfl rfl
  | some found =>
      rw [request_of_some hlookup]
      exact .found (by simpa [CacheAnswer.handles] using mem_handles_of_lookup? hlookup)

theorem took_take {call : CacheCall} (hcall : call.IsOfCache) :
    Took c (c.take call).2 (c.take call).1 := by
  cases call with
  | request k => exact took_request c k
  | ensure k =>
      rw [take, ensure_eq_request]
      exact took_request c k
  | install k file stamps =>
      cases hslot : c.slot? k with
      | none =>
          rw [take, install_of_none hslot]
          exact .made _ rfl rfl
      | some slot =>
          rw [take, install_of_some hslot]
          exact .replaced _ hslot rfl rfl
  | lookup k =>
      refine .found fun handle hhandle => mem_handles_of_lookup? (k := k) ?_
      simpa [take, CacheAnswer.handles] using hhandle
  | list => exact .found fun _ hhandle => hhandle
  | count => exact .found fun _ hhandle => absurd hhandle List.not_mem_nil
  | dropAll => exact .dropped
  | change => exact absurd hcall id

namespace Took

variable {c' : HeaderCache} {answer : CacheAnswer} {row : List (HeaderKey × HeaderHandle)}

/-- Headers stay as they are; new ones are put behind them. -/
theorem at? (h : Took c c' answer) (hheader : c.at? handle = some header) :
    c'.at? handle = some header := by
  have hmake : ∀ new, (c.headers ++ [new])[handle]? = some header := fun new =>
    (List.getElem?_append_left (List.getElem?_eq_some_iff.1 hheader).1).trans hheader
  cases h with
  | found => exact hheader
  | made new hheaders =>
      rw [HeaderCache.at?, hheaders]
      exact hmake new
  | replaced new _ hheaders =>
      rw [HeaderCache.at?, hheaders]
      exact hmake new
  | dropped => exact hheader

/-- Only a header that has just been made can come into use. -/
theorem mem_handles (h : Took c c' answer) (hmem : handle ∈ c'.handles) :
    handle ∈ c.handles ∨ handle = c.headers.length := by
  cases h with
  | found => exact Or.inl hmem
  | made _ _ hhandles => simpa [hhandles] using hmem
  | replaced _ _ _ hhandles =>
      rw [hhandles] at hmem
      exact List.mem_or_eq_of_mem_set hmem
  | dropped => exact absurd hmem List.not_mem_nil

/-- Whatever the answer leads to is in use. -/
theorem mem_handles_of_answer (h : Took c c' answer) (hrow : c.Holds row)
    (hdistinct : (row.map Prod.fst).Pairwise fun k l => ¬ k.Same l)
    (hmem : handle ∈ answer.handles) : handle ∈ c'.handles := by
  cases h with
  | found hfound => exact hfound handle hmem
  | made _ _ hhandles =>
      rw [List.mem_singleton.1 hmem, hhandles]
      simp
  | replaced _ hslot _ hhandles =>
      -- The slot of a key is a place among the headers in use.
      rcases (hrow.slot?_eq_some_iff hdistinct).1 hslot with ⟨old, hold, -⟩
      rw [List.mem_singleton.1 hmem, hhandles]
      exact List.mem_set (List.getElem?_eq_some_iff.1 hold).1 _
  | dropped => exact absurd hmem List.not_mem_nil

end Took

/-- No header is in use for two keys. -/
theorem Holds.nodup_handles {row : List (HeaderKey × HeaderHandle)} (h : c.Holds row)
    (hdistinct : (row.map Prod.fst).Pairwise fun k l => ¬ k.Same l) : c.handles.Nodup := by
  rw [h.handles, List.nodup_iff_pairwise_ne, List.pairwise_map]
  apply (List.pairwise_map.1 hdistinct).imp_of_mem
  intro e e' he he' hother hsame
  -- A header has one key, of which both would be spellings.
  rcases h.carries e he with ⟨header, hheader, hkey⟩
  rcases h.carries e' he' with ⟨header', hheader', hkey'⟩
  rw [← hsame, hheader, Option.some.injEq] at hheader'
  exact hother (hkey.trans (hheader' ▸ hkey'.symm))

/-- A header that is replaced is no longer in use. -/
theorem Holds.not_mem_handles_install {row : List (HeaderKey × HeaderHandle)} {k : HeaderKey}
    (h : c.Holds row) (hdistinct : (row.map Prod.fst).Pairwise fun k l => ¬ k.Same l)
    (hlookup : c.lookup? k = some handle) (file : Path) (stamps : StampTable) :
    handle ∉ (c.install k file stamps).2.handles := by
  rcases Option.bind_eq_some_iff.1 hlookup with ⟨slot, hslot, hplace⟩
  rw [install_of_some hslot]
  intro hmem
  rcases List.mem_iff_getElem?.1 hmem with ⟨i, hi⟩
  rw [List.getElem?_set] at hi
  split at hi
  · -- The new header has another handle.
    rw [h.lookup?_eq] at hlookup
    have hlt := h.lt_of_get? hlookup
    split at hi
    · exact absurd (Option.some.inj hi) (by simp [Nat.ne_of_gt hlt])
    · cases hi
  · next hne =>
    -- No other slot holds the old one.
    have hlt : slot < c.handles.length := (List.getElem?_eq_some_iff.1 hplace).1
    exact hne ((List.getElem?_inj hlt (h.nodup_handles hdistinct)).1 (hplace.trans hi.symm))

/-- A header that is installed is new, but for its file and its stamps. -/
theorem at?_install (c : HeaderCache) (k : HeaderKey) (file : Path) (stamps : StampTable) :
    (c.install k file stamps).2.at? c.headers.length =
      some { key := k, kind := c.kind, file := file, stamps := stamps } := by
  cases hslot : c.slot? k with
  | none =>
      rw [install_of_none hslot]
      exact List.getElem?_concat_length
  | some slot =>
      rw [install_of_some hslot]
      exact List.getElem?_concat_length

/-- A header that is installed is found. -/
theorem Holds.lookup?_install {row : List (HeaderKey × HeaderHandle)} (h : c.Holds row)
    (k : HeaderKey) (file : Path) (stamps : StampTable) :
    (c.install k file stamps).2.lookup? k = some c.headers.length := by
  rw [(h.install k file stamps).lookup?_eq, Row.get?_put HeaderKey.same_equivalence,
    if_pos (.refl k), fst_install]

end HeaderCache

/-! ## Headers and their histories -/

namespace SharedCache

variable {s t : SharedCache} {m : CacheMove} {log more : CacheHistory}
  {handle other : HeaderHandle} {x y : SharedHeader} {h : PrecompiledHeader} {e : HeaderEvent}
  {r : Option HeaderReply}

theorem at?_of_header? (hx : s.header? handle = some x) : s.cache.at? handle = some x.header := by
  rcases Option.map_eq_some_iff.1 hx with ⟨header, hheader, rfl⟩
  exact hheader

theorem running_of_header? (hx : s.header? handle = some x) : s.running handle = x.running := by
  rcases Option.map_eq_some_iff.1 hx with ⟨header, -, rfl⟩
  rfl

theorem header?_of_at? (hheader : s.cache.at? handle = some h) :
    s.header? handle = some { header := h, running := s.running handle } := by
  simp [header?, hheader]

theorem header?_eq_none (hle : s.cache.headers.length ≤ handle) : s.header? handle = none := by
  simp [header?, HeaderCache.at?, hle]

theorem header?_put (hx : s.header? handle = some x) (y : SharedHeader) :
    (s.put handle y).header? handle = some y := by
  rw [header?, put, HeaderCache.at?_update (at?_of_header? hx)]
  simp

theorem header?_put_of_ne (hne : other ≠ handle) (y : SharedHeader) :
    (s.put handle y).header? other = s.header? other := by
  simp only [header?, put, HeaderCache.at?_update_of_ne hne, Function.update_of_ne hne]

/-- A move is for the header of a handle what it is to that header, and nothing if it is about
anything else. -/
theorem Step.header? (hstep : Step s m t) (hx : s.header? handle = some x) :
    (m.on? handle = none ∧ t.header? handle = some x) ∨
      ∃ e r y, m.on? handle = some (e, r) ∧ SharedHeader.Step x e r y ∧
        t.header? handle = some y := by
  cases hstep with
  | call hcall =>
      refine Or.inl ⟨rfl, ?_⟩
      rw [header?_of_at? ((HeaderCache.took_take hcall).at? (at?_of_header? hx)),
        running_of_header? hx]
  | @work target x' y e r hx' hwork =>
      by_cases htarget : target = handle
      · subst htarget
        rw [hx] at hx'
        cases hx'
        exact Or.inr ⟨e, r, y, if_pos rfl, hwork, header?_put hx y⟩
      · exact Or.inl ⟨if_neg htarget, (header?_put_of_ne (Ne.symm htarget) y).trans hx⟩

/-- A call changes no header. -/
theorem Step.header?_of_call {call : CacheCall} {a : CacheAnswer}
    (hstep : Step s (.call call a) t) (hx : s.header? handle = some x) :
    t.header? handle = some x := by
  rcases hstep.header? hx with ⟨-, hsame⟩ | ⟨_, _, _, hon, -⟩
  · exact hsame
  · cases hon

/-- **Headers keep to themselves.** In every run the header of a handle goes through what happened
to it, just as if it were alone. -/
theorem Run.header? (hrun : Run s log t) (hx : s.header? handle = some x) :
    ∃ y, t.header? handle = some y ∧ SharedHeader.Run x (log.on handle) y := by
  induction hrun with
  | nil => exact ⟨x, hx, .nil⟩
  | @snoc log u v m _ hstep ih =>
      rcases ih with ⟨y, hy, hbefore⟩
      rcases hstep.header? hy with ⟨hnone, hsame⟩ | ⟨e, r, z, hsome, hwork, hz⟩
      · rw [CacheHistory.on_snoc, hnone]
        exact ⟨y, hsame, by simpa using hbefore⟩
      · rw [CacheHistory.on_snoc, hsome]
        exact ⟨z, hz, hbefore.snoc hwork⟩

/-- Whatever can happen to a header can happen to it by its handle, in use or not. -/
theorem Step.of_header? (hx : s.header? handle = some x) (hwork : SharedHeader.Step x e r y) :
    ∃ t, Step s (.work handle e r) t ∧ t.header? handle = some y :=
  ⟨s.put handle y, .work hx hwork, header?_put hx y⟩

/-! ## The cache of a run -/

end SharedCache

/-- What happens to a header is a change, or leaves it as it is. -/
theorem SharedHeader.Step.header_eq {x y : SharedHeader} {e : HeaderEvent}
    {r : Option HeaderReply} (h : SharedHeader.Step x e r y) :
    y.header = x.header ∨ ∃ change : HeaderChange, y.header = change.apply x.header := by
  cases h with
  | append _ bytes => exact Or.inr ⟨.append bytes, rfl⟩
  | clear => exact Or.inr ⟨.clear, rfl⟩
  | setStamps _ stamps => exact Or.inr ⟨.setStamps stamps, rfl⟩
  | refused | cached | begun | failed => exact Or.inl rfl
  | parsed _ j unit => exact Or.inr ⟨.finish j unit, rfl⟩

namespace SharedCache

variable {s t : SharedCache} {m : CacheMove} {log more : CacheHistory}
  {handle other : HeaderHandle} {x y : SharedHeader} {e : HeaderEvent} {r : Option HeaderReply}
  {kind : StampKind}

theorem Step.cache_eq (hstep : Step s m t) :
    t.cache = s.cache ∨ ∃ call, t.cache = (s.cache.take call).2 := by
  cases hstep with
  | @call call => exact Or.inr ⟨call, rfl⟩
  | @work handle _ _ _ _ hx hwork =>
      have hat := at?_of_header? hx
      rcases hwork.header_eq with hsame | ⟨change, hchange⟩
      · exact Or.inl (HeaderCache.update_eq_self hat hsame)
      · exact Or.inr ⟨.change handle change, HeaderCache.update_congr hat hchange⟩

/-- The cache of a run is one that calls come to. -/
theorem Run.exists_calls (hrun : Run { cache := { kind := kind } } log s) :
    ∃ calls, s.cache = (CacheSession.run kind calls).cache := by
  induction hrun with
  | nil => exact ⟨[], rfl⟩
  | @snoc log t u m _ hstep ih =>
      rcases ih with ⟨calls, hcalls⟩
      rcases hstep.cache_eq with hsame | ⟨call, hcall⟩
      · exact ⟨calls, hsame.trans hcalls⟩
      · refine ⟨calls ++ [call], ?_⟩
        rw [CacheSession.run_snoc, hcall, hcalls]
        rfl

/-! ## Headers out of use -/

/-- A header that was made and is not in use: it cannot be found any more, but whoever has its
handle still has it. -/
structure IsDetached (s : SharedCache) (handle : HeaderHandle) : Prop where
  made : (s.header? handle).isSome
  unused : handle ∉ s.cache.handles

theorem lt_length_of_header? (hx : s.header? handle = some x) :
    handle < s.cache.headers.length :=
  (List.getElem?_eq_some_iff.1 (at?_of_header? hx)).1

/-- A header that is out of use stays so. -/
theorem IsDetached.step (h : s.IsDetached handle) (hstep : Step s m t) : t.IsDetached handle := by
  rcases Option.isSome_iff_exists.1 h.made with ⟨x, hx⟩
  refine ⟨?_, ?_⟩
  · rcases hstep.header? hx with ⟨-, hsame⟩ | ⟨_, _, _, -, -, hchanged⟩
    · exact Option.isSome_of_eq_some hsame
    · exact Option.isSome_of_eq_some hchanged
  · intro hmem
    cases hstep with
    | call hcall =>
        rcases (HeaderCache.took_take hcall).mem_handles hmem with hused | hnew
        · exact h.unused hused
        · exact absurd hnew (Nat.ne_of_lt (lt_length_of_header? hx))
    | work => exact h.unused hmem

/-! ## Headers that are kept apart -/

/-- A cache whose headers are kept apart, whether they are in use or not. -/
structure Isolated (s : SharedCache) : Prop where
  /-- Every header can be worked with by its handle, as if it were alone. -/
  works : ∀ handle x e r y, s.header? handle = some x → SharedHeader.Step x e r y →
    ∃ t, Step s (.work handle e r) t ∧ t.header? handle = some y
  /-- Working with a header changes no other, and not what is in use. -/
  work : ∀ handle e r t, Step s (.work handle e r) t →
    (∀ other, other ≠ handle → t.header? other = s.header? other) ∧
      t.cache.handles = s.cache.handles ∧ ∀ k, t.cache.lookup? k = s.cache.lookup? k
  /-- Requesting, replacing and dropping headers changes none of them, and leads to those in use. -/
  call : ∀ call a t, Step s (.call call a) t →
    (∀ handle x, s.header? handle = some x → t.header? handle = some x) ∧
      ∀ handle ∈ a.handles, handle ∈ t.cache.handles
  /-- Whatever else goes on, a header goes through what happens to it, and so does its parse. -/
  own : ∀ handle x log t, s.header? handle = some x → Run s log t →
    ∃ y, t.header? handle = some y ∧ SharedHeader.Run x (log.on handle) y
  /-- A header that is replaced is out of use. -/
  replaced : ∀ k handle file stamps a t, s.cache.lookup? k = some handle →
    Step s (.call (.install k file stamps) a) t → t.IsDetached handle
  /-- All headers are out of use when they are dropped. -/
  dropped : ∀ handle x a t, s.header? handle = some x → Step s (.call .dropAll a) t →
    t.IsDetached handle
  /-- A header that is out of use stays so, and no answer leads to it any more. -/
  detached : ∀ handle log t, s.IsDetached handle → Run s log t →
    t.IsDetached handle ∧ ∀ call a, .call call a ∈ log → handle ∉ a.handles
  /-- What is installed for a key is a header of its own, with nothing but file and stamps. -/
  fresh : ∀ k file stamps a t, Step s (.call (.install k file stamps) a) t →
    ∃ handle, a = .header handle ∧ s.header? handle = none ∧ t.cache.lookup? k = some handle ∧
      t.header? handle = some
        { header :=
            { key := k, kind := s.cache.kind, file := file, data := [], stamps := stamps
              unit := none }
          running := none }

theorem Run.append (hrun : Run s log t) {u : SharedCache} (hmore : Run t more u) :
    Run s (log ++ more) u := by
  induction hmore with
  | nil => rwa [List.append_nil]
  | snoc _ hstep ih =>
      rw [← List.append_assoc]
      exact ih.snoc hstep

/-- In the cache of a run the headers in use have distinct keys. -/
theorem Run.exists_row (hrun : Run { cache := { kind := kind } } log s) :
    ∃ row, s.cache.Holds row ∧ (row.map Prod.fst).Pairwise fun k l => ¬ k.Same l := by
  rcases hrun.exists_calls with ⟨calls, hcalls⟩
  rw [hcalls]
  exact ⟨_, (CacheSession.kept_run kind calls).holds, CacheSession.distinct_row _⟩

/-- No header is parsed that has not been made. -/
theorem Run.running_eq_none (hrun : Run { cache := { kind := kind } } log s)
    (hle : s.cache.headers.length ≤ handle) : s.running handle = none := by
  induction hrun with
  | nil => rfl
  | @snoc log t u m _ hstep ih =>
      cases hstep with
      | @call call => exact ih (Nat.le_trans (t.cache.length_headers_take call) hle)
      | @work target x y e r hx =>
          -- A header that is worked with has been made, so it is not this one.
          have hlength : (t.put target y).cache.headers.length = t.cache.headers.length := by
            simp [put, HeaderCache.update]
          rw [hlength] at hle
          have hne : handle ≠ target :=
            Nat.ne_of_gt (Nat.lt_of_lt_of_le (lt_length_of_header? hx) hle)
          calc
            (t.put target y).running handle = t.running handle := Function.update_of_ne hne _ _
            _ = none := ih hle

theorem Run.mem_handles_of_answer (hrun : Run { cache := { kind := kind } } log s)
    {call : CacheCall} {a : CacheAnswer} (hstep : Step s (.call call a) t)
    (hmem : handle ∈ a.handles) : handle ∈ t.cache.handles := by
  rcases hrun.exists_row with ⟨row, hrow, hdistinct⟩
  cases hstep with
  | call hcall => exact (HeaderCache.took_take hcall).mem_handles_of_answer hrow hdistinct hmem

/-- A header that is out of use stays so, and no answer leads to it. -/
theorem Run.isDetached (hrun : Run { cache := { kind := kind } } log s)
    (h : s.IsDetached handle) (hmore : Run s more t) :
    t.IsDetached handle ∧ ∀ call a, .call call a ∈ more → handle ∉ a.handles := by
  induction hmore with
  | nil => exact ⟨h, fun _ _ hmem => absurd hmem List.not_mem_nil⟩
  | @snoc more u v m hbefore hstep ih =>
      have hlater : v.IsDetached handle := ih.1.step hstep
      refine ⟨hlater, ?_⟩
      intro call a hmem hhandle
      rcases List.mem_append.1 hmem with hmem | hlast
      · exact ih.2 call a hmem hhandle
      · -- The last answer was given by a cache that a run comes to, like all others.
        rw [← List.mem_singleton.1 hlast] at hstep
        exact hlater.unused ((hrun.append hbefore).mem_handles_of_answer hstep hhandle)

theorem Run.isDetached_of_install (hrun : Run { cache := { kind := kind } } log s)
    {k : HeaderKey} {file : Path} {stamps : StampTable} {a : CacheAnswer}
    (hlookup : s.cache.lookup? k = some handle)
    (hstep : Step s (.call (.install k file stamps) a) t) : t.IsDetached handle := by
  rcases hrun.exists_row with ⟨row, hrow, hdistinct⟩
  -- What is in use for a key has been made.
  have hlt : handle < s.cache.headers.length := by
    rw [hrow.lookup?_eq] at hlookup
    exact hrow.lt_of_get? hlookup
  have hx := header?_of_at? (s := s) (List.getElem?_eq_getElem hlt)
  refine ⟨Option.isSome_of_eq_some (hstep.header?_of_call hx), ?_⟩
  cases hstep with
  | call => exact hrow.not_mem_handles_install hdistinct hlookup file stamps

theorem Run.exists_of_install (hrun : Run { cache := { kind := kind } } log s)
    {k : HeaderKey} {file : Path} {stamps : StampTable} {a : CacheAnswer}
    (hstep : Step s (.call (.install k file stamps) a) t) :
    ∃ handle, a = .header handle ∧ s.header? handle = none ∧ t.cache.lookup? k = some handle ∧
      t.header? handle = some
        { header := { key := k, kind := s.cache.kind, file := file, stamps := stamps } } := by
  rcases hrun.exists_row with ⟨row, hrow, -⟩
  -- The handle is one that no header had before, so no parse is left over for it.
  have hidle : s.running s.cache.headers.length = none := hrun.running_eq_none (Nat.le_refl _)
  cases hstep with
  | call =>
      refine ⟨s.cache.headers.length, ?_, header?_eq_none (Nat.le_refl _),
        hrow.lookup?_install k file stamps, ?_⟩
      · rw [HeaderCache.take, HeaderCache.fst_install]
      · rw [header?_of_at? (HeaderCache.at?_install s.cache k file stamps), hidle]

/-- **Headers are kept apart.** Whatever has happened to a cache and its headers, with parses under
way, working with one header never changes another, and requesting, replacing and dropping headers
changes none. So a header that was replaced or dropped, perhaps while it was parsed, lives on by its
handle and is never found again, and the one in its place starts anew. -/
theorem Run.isolated (hrun : Run { cache := { kind := kind } } log s) : s.Isolated where
  works _ _ _ _ _ hx hwork := Step.of_header? hx hwork
  work := by
    intro handle e r t hstep
    cases hstep with
    | @work _ _ y => exact ⟨fun other hne => header?_put_of_ne hne y, rfl, fun _ => rfl⟩
  call _ _ _ hstep :=
    ⟨fun _ _ hx => hstep.header?_of_call hx, fun _ hmem => hrun.mem_handles_of_answer hstep hmem⟩
  own _ _ _ _ hx hmore := hmore.header? hx
  replaced _ _ _ _ _ _ hlookup hstep := hrun.isDetached_of_install hlookup hstep
  dropped := by
    intro handle x a t hx hstep
    refine ⟨Option.isSome_of_eq_some (hstep.header?_of_call hx), ?_⟩
    cases hstep with
    | call => exact List.not_mem_nil
  detached _ _ _ hdetached hmore := hrun.isDetached hdetached hmore
  fresh _ _ _ _ _ hstep := hrun.exists_of_install hstep

/-! ### A header that is replaced while it is parsed -/

open SharedHeader (blankHeader begin_emptyLine)

/-- A header is requested and given an empty line. -/
def emptyLineLog : CacheHistory :=
  [.call (.request blankHeader.key) (.header 0), .work 0 (.append [10]) none]

theorem run_emptyLineLog : ∃ s, Run { cache := { kind := .mtime } } emptyLineLog s ∧
    s.cache.lookup? blankHeader.key = some 0 ∧
    s.header? 0 = some { header := blankHeader.append [10] } := by
  have hrequest := @Step.call { cache := { kind := .mtime } } (.request blankHeader.key) trivial
  have hlookup : (HeaderCache.lookup? (HeaderCache.take {} (.request blankHeader.key)).2
      blankHeader.key) = some 0 := by decide +kernel
  exact ⟨_, (Run.nil.snoc hrequest).snoc (.work rfl (.append _ [10])), hlookup,
    header?_put rfl _⟩

/-- While the empty line is parsed the header is replaced. The unit is kept in the old header, and
is not seen in the new one. -/
theorem isolated_replacedWhileParsing : ∃ s t u v new,
    Run { cache := { kind := .mtime } } emptyLineLog s ∧ Step s (.work 0 (.ask {} []) none) t ∧
    Step t (.call (.install blankHeader.key ⟨"pch.h"⟩ {}) (.header new)) u ∧
    Step u (.work 0 (.parsed ⟨1⟩) (some (.ok ⟨1⟩))) v ∧ v.IsDetached 0 ∧
    v.cache.lookup? blankHeader.key = some new ∧
    ∃ x, v.header? new = some x ∧ x.header.data = [] ∧ x.header.unit = none := by
  rcases run_emptyLineLog with ⟨s, hrun, hlookup, hx⟩
  rcases begin_emptyLine with ⟨j, hbegin⟩
  have hask := Step.work hx (.begun hbegin)
  have hinstall := @Step.call (s.put 0 { header := blankHeader.append [10], running := some j })
    (.install blankHeader.key ⟨"pch.h"⟩ {}) trivial
  have hbefore : Isolated _ := (hrun.snoc hask).isolated
  have hy := header?_put hx { header := blankHeader.append [10], running := some j }
  rcases hbefore.fresh _ _ _ _ _ hinstall with ⟨new, hanswer, hnone, hnew, hblank⟩
  have hdetached := hbefore.replaced _ _ _ _ _ _ hlookup hinstall
  have hafter : Isolated _ := ((hrun.snoc hask).snoc hinstall).isolated
  rcases hafter.works _ _ _ _ _ ((hbefore.call _ _ _ hinstall).1 _ _ hy) (.parsed _ j ⟨1⟩) with
    ⟨v, hparsed, -⟩
  rcases hafter.work _ _ _ _ hparsed with ⟨hothers, -, hkeys⟩
  have hne : new ≠ 0 := by
    rintro rfl
    exact absurd (hy.symm.trans hnone) nofun
  rw [hanswer] at hinstall
  exact ⟨s, _, _, v, new, hrun, hask, hinstall, hparsed, hdetached.step hparsed,
    (hkeys _).trans hnew, _, (hothers new hne).trans hblank, rfl, rfl⟩

end SharedCache
end BuildTrace
