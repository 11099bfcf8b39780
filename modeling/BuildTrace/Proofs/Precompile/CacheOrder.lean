import BuildTrace.Precompile.Cache
import BuildTrace.Proofs.Row
import Mathlib.Data.List.Forall2

/-!
# CacheOrder — the headers of a session stand in the order of their keys

A cache finds its headers in two ways: all of them in a list, and each by a slot in that list. Calls
come in any order and with any keys, also with several spellings of one key:

* `CacheCall`, `CacheSession` — what can be asked of a cache, and the log of calls and answers;
* `CacheLog.keys`, `CacheLog.current?` — what a log says about the keys in use and their headers;
* `HeaderCache.Holds` — the invariant: list and slots are two views of one row;
* `CacheLog.Allows` — the answers of a map that keeps the order in which its keys came up;
* `CacheSession.current?_of_handed` — a header stays until it is replaced or dropped;
* `CacheSession.insertionOrder_run` — all of it, for every sequence of calls.
-/

namespace BuildTrace

theorem HeaderKey.same_equivalence : Equivalence HeaderKey.Same :=
  ⟨.refl, .symm, .trans⟩

/-! ## Calls and answers -/

/-- What the holder of a header can do to it. -/
inductive HeaderChange where
  | append (bytes : List UInt8)
  | clear
  | setStamps (stamps : StampTable)
  | finish (j : ParseJob) (unit : TranslationUnit)
deriving DecidableEq, Repr

/-- What a change makes of a header. -/
def HeaderChange.apply : HeaderChange → PrecompiledHeader → PrecompiledHeader
  | .append bytes, h => h.append bytes
  | .clear, h => h.clear
  | .setStamps stamps, h => h.setStamps stamps
  | .finish j unit, h => h.finish j unit

theorem HeaderChange.key_apply (change : HeaderChange) (h : PrecompiledHeader) :
    (change.apply h).key = h.key := by
  cases change with
  | append | clear | setStamps => rfl
  | finish j unit =>
      rw [apply, PrecompiledHeader.finish]
      split
      · rfl
      · rfl

/-- What can be asked of a cache, or of a header that was handed out. -/
inductive CacheCall where
  | request (k : HeaderKey)
  /-- The rest of a request that found nothing; others may have come between. -/
  | ensure (k : HeaderKey)
  | install (k : HeaderKey) (file : Path) (stamps : StampTable)
  | lookup (k : HeaderKey)
  | list
  | count
  | dropAll
  | change (handle : HeaderHandle) (change : HeaderChange)
deriving DecidableEq, Repr

/-- What is answered. -/
inductive CacheAnswer where
  | header (handle : HeaderHandle)
  | found (handle? : Option HeaderHandle)
  | all (handles : List HeaderHandle)
  | number (n : Nat)
  | done
deriving DecidableEq, Repr

/-- A cache answers a call. -/
def HeaderCache.take (c : HeaderCache) : CacheCall → CacheAnswer × HeaderCache
  | .request k => (.header (c.request k).1, (c.request k).2)
  | .ensure k => (.header (c.ensure k).1, (c.ensure k).2)
  | .install k file stamps =>
    (.header (c.install k file stamps).1, (c.install k file stamps).2)
  | .lookup k => (.found (c.lookup? k), c)
  | .list => (.all c.handles, c)
  | .count => (.number c.size, c)
  | .dropAll => (.done, c.dropAll)
  | .change handle change => (.done, c.update handle change.apply)

/-- Calls with their answers, the last one last. -/
abbrev CacheLog := List (CacheCall × CacheAnswer)

/-- A cache and what was asked of it. -/
structure CacheSession where
  cache : HeaderCache
  log : CacheLog := []
deriving DecidableEq, Repr

namespace CacheSession

/-- One more call. -/
def take (s : CacheSession) (call : CacheCall) : CacheSession :=
  { cache := (s.cache.take call).2, log := s.log ++ [(call, (s.cache.take call).1)] }

/-- The calls of a session, on a cache that is empty at first. -/
def run (kind : StampKind) (calls : List CacheCall) : CacheSession :=
  calls.foldl take { cache := { kind := kind } }

theorem run_snoc (kind : StampKind) (calls : List CacheCall) (call : CacheCall) :
    run kind (calls ++ [call]) = (run kind calls).take call := by
  simp [run]

end CacheSession

/-! ## What a log says -/

namespace CacheLog

/-- What was asked since all headers were dropped. -/
def sinceDrop (log : CacheLog) : CacheLog :=
  (log.reverse.takeWhile (·.1 ≠ .dropAll)).reverse

/-- The header a call puts in use, or finds in use, for a key. -/
def handed? : CacheCall × CacheAnswer → Option (HeaderKey × HeaderHandle)
  | (.request k, .header handle) => some (k, handle)
  | (.ensure k, .header handle) => some (k, handle)
  | (.install k _ _, .header handle) => some (k, handle)
  | _ => none

/-- The headers handed out, with their keys. -/
def handedOut (log : CacheLog) : List (HeaderKey × HeaderHandle) :=
  log.filterMap handed?

/-- The keys in use: each that was requested or installed since the last drop, in the order in which
they first came up. -/
def keys (log : CacheLog) : List HeaderKey :=
  Row.firsts HeaderKey.Same (log.sinceDrop.handedOut.map Prod.fst)

/-- The header that was last handed out for a key since the last drop. -/
def current? (log : CacheLog) (k : HeaderKey) : Option HeaderHandle :=
  Row.get? HeaderKey.Same k log.sinceDrop.handedOut.reverse

/-- A header that was never handed out. -/
def IsNew (log : CacheLog) (handle : HeaderHandle) : Prop :=
  ∀ e ∈ log.handedOut, e.2 ≠ handle

/-- How a map that keeps the order of its keys may answer a call that comes after a log. -/
def Allows (log : CacheLog) : CacheCall → CacheAnswer → Prop
  | .request k, .header handle | .ensure k, .header handle =>
    log.current? k = some handle ∨ log.current? k = none ∧ log.IsNew handle
  | .install .., .header handle => log.IsNew handle
  | .lookup k, .found handle? => handle? = log.current? k
  | .list, .all handles => handles.map some = log.keys.map log.current?
  | .count, .number n => n = log.keys.length
  | .dropAll, .done | .change .., .done => True
  | _, _ => False

/-- Calls that take the header of a key out of use. -/
def Replaces (k : HeaderKey) : CacheCall → Prop
  | .install l .. => k.Same l
  | .dropAll => True
  | _ => False

variable {log : CacheLog} {call : CacheCall} {answer : CacheAnswer}

/-- The row of all headers in use. -/
def row (log : CacheLog) : List (HeaderKey × HeaderHandle) :=
  Row.ofList HeaderKey.Same log.sinceDrop.handedOut

theorem keys_row (log : CacheLog) : log.row.map Prod.fst = log.keys :=
  Row.keys_ofList HeaderKey.same_equivalence _

theorem get?_row (log : CacheLog) (k : HeaderKey) :
    Row.get? HeaderKey.Same k log.row = log.current? k :=
  Row.get?_ofList HeaderKey.same_equivalence k _

theorem current?_congr {k l : HeaderKey} (h : k.Same l) (log : CacheLog) :
    log.current? k = log.current? l :=
  Row.get?_congr HeaderKey.same_equivalence h _

theorem mem_handedOut_snoc {e : HeaderKey × HeaderHandle} :
    e ∈ handedOut (log ++ [(call, answer)]) ↔
      e ∈ log.handedOut ∨ handed? (call, answer) = some e := by
  rw [handedOut, List.filterMap_append, List.mem_append]
  simp [handedOut]

theorem row_snoc_dropAll (log : CacheLog) (answer : CacheAnswer) :
    row (log ++ [(.dropAll, answer)]) = [] := by
  simp [row, sinceDrop, handedOut, Row.ofList]

/-- A header that is handed out takes the place of its key. -/
theorem row_snoc_of_handed {k : HeaderKey} {handle : HeaderHandle}
    (h : handed? (call, answer) = some (k, handle)) (log : CacheLog) :
    row (log ++ [(call, answer)]) = Row.put HeaderKey.Same k handle log.row := by
  have hcall : call ≠ .dropAll := by
    rintro rfl
    exact absurd h nofun
  have hlog : handedOut (sinceDrop (log ++ [(call, answer)])) =
      log.sinceDrop.handedOut ++ [(k, handle)] := by
    simp [sinceDrop, handedOut, hcall, h]
  rw [row, hlog, Row.ofList_snoc]
  rfl

theorem current?_snoc_of_handed {l : HeaderKey} {handle : HeaderHandle}
    (h : handed? (call, answer) = some (l, handle)) (log : CacheLog) (k : HeaderKey) :
    current? (log ++ [(call, answer)]) k =
      if k.Same l then some handle else log.current? k := by
  rw [← get?_row, row_snoc_of_handed h, Row.get?_put HeaderKey.same_equivalence, get?_row]

theorem row_snoc_of_none (hcall : call ≠ .dropAll) (h : handed? (call, answer) = none)
    (log : CacheLog) : row (log ++ [(call, answer)]) = log.row := by
  have hlog : handedOut (sinceDrop (log ++ [(call, answer)])) = log.sinceDrop.handedOut := by
    simp [sinceDrop, handedOut, hcall, h]
  rw [row, hlog]
  rfl

end CacheLog

/-! ## List and slots -/

namespace HeaderCache

variable {c : HeaderCache} {k : HeaderKey} {row : List (HeaderKey × HeaderHandle)}

/-- The header of a handle has a spelling of the key. -/
def Carries (c : HeaderCache) (k : HeaderKey) (handle : HeaderHandle) : Prop :=
  ∃ header, c.at? handle = some header ∧ k.Same header.key

/-- The headers in use are those of a row, and the slot of each key is its place there. -/
structure Holds (c : HeaderCache) (row : List (HeaderKey × HeaderHandle)) : Prop where
  handles : c.handles = row.map Prod.snd
  index : c.index = (row.map Prod.fst).zipIdx
  carries : ∀ e ∈ row, c.Carries e.1 e.2

theorem Holds.slot?_eq (h : c.Holds row) (k : HeaderKey) :
    c.slot? k = (row.map Prod.fst).findIdx? fun l => decide (k.Same l) := by
  rw [slot?, h.index, Row.get?_zipIdx]

/-- A slot never leads out of the list. -/
theorem Holds.lookup?_eq (h : c.Holds row) (k : HeaderKey) :
    c.lookup? k = Row.get? HeaderKey.Same k row := by
  rw [lookup?, h.slot?_eq, h.handles, Row.get?_eq_bind_findIdx?]

/-- A key without a header has no slot. -/
theorem Holds.slot?_eq_none_iff (h : c.Holds row) :
    c.slot? k = none ↔ c.lookup? k = none := by
  rw [h.slot?_eq, h.lookup?_eq, Row.get?_eq_none_iff]
  simp

/-- A key with a slot is in the row. -/
theorem Holds.known_of_slot? (h : c.Holds row) {slot : Nat} (hslot : c.slot? k = some slot) :
    ∃ e ∈ row, k.Same e.1 := by
  rw [h.slot?_eq] at hslot
  rcases List.findIdx?_eq_some_iff_getElem.1 hslot with ⟨hlt, hsame, -⟩
  exact ⟨row.get ⟨slot, by simpa using hlt⟩, List.get_mem _ _, by simpa using hsame⟩

/-! ### Single calls -/

theorem request_of_some {handle : HeaderHandle} (h : c.lookup? k = some handle) :
    c.request k = (handle, c) := by
  rw [request, h]

theorem request_of_none (h : c.lookup? k = none) :
    c.request k =
      ((c.make { key := k, kind := c.kind, file := k.header }).1,
        (c.make { key := k, kind := c.kind, file := k.header }).2.enlist k
          (c.make { key := k, kind := c.kind, file := k.header }).1) := by
  rw [request, h]
  simp only [ensure, h]

/-- Looking twice makes no difference. -/
theorem ensure_eq_request (c : HeaderCache) (k : HeaderKey) : c.ensure k = c.request k := by
  cases hlookup : c.lookup? k with
  | none => rw [request, hlookup]
  | some handle => rw [request_of_some hlookup, ensure, hlookup]

theorem install_of_some {slot : Nat} (h : c.slot? k = some slot) (file : Path)
    (stamps : StampTable) :
    c.install k file stamps =
      (c.headers.length,
        { (c.make { key := k, kind := c.kind, file := file, stamps := stamps }).2 with
          handles := c.handles.set slot c.headers.length }) := by
  rw [slot?] at h
  simp [install, make, slot?, h]

theorem install_of_none (h : c.slot? k = none) (file : Path) (stamps : StampTable) :
    c.install k file stamps =
      (c.headers.length,
        (c.make { key := k, kind := c.kind, file := file, stamps := stamps }).2.enlist k
          c.headers.length) := by
  rw [slot?] at h
  simp [install, make, slot?, h]

/-- A header that is installed is a new one. -/
theorem fst_install (c : HeaderCache) (k : HeaderKey) (file : Path) (stamps : StampTable) :
    (c.install k file stamps).1 = c.headers.length := by
  cases hslot : c.slot? k with
  | none => rw [install_of_none hslot]
  | some slot => rw [install_of_some hslot]

theorem Carries.make {handle : HeaderHandle} (h : c.Carries k handle)
    (header : PrecompiledHeader) : (c.make header).2.Carries k handle := by
  rcases h with ⟨old, hold, hkey⟩
  have hlt : handle < c.headers.length := (List.getElem?_eq_some_iff.1 hold).1
  exact ⟨old, (List.getElem?_append_left hlt).trans hold, hkey⟩

theorem carries_make {header : PrecompiledHeader} (hkey : k.Same header.key) :
    (c.make header).2.Carries k (c.make header).1 :=
  ⟨header, List.getElem?_concat_length, hkey⟩

theorem Carries.update {handle : HeaderHandle} (h : c.Carries k handle) (target : HeaderHandle)
    (change : HeaderChange) : (c.update target change.apply).Carries k handle := by
  rcases h with ⟨old, hold, hkey⟩
  by_cases htarget : target = handle
  · refine ⟨change.apply old, ?_, ?_⟩
    · rw [at?] at hold
      simp [at?, HeaderCache.update, htarget, hold]
    · rwa [change.key_apply]
  · refine ⟨old, ?_, hkey⟩
    rw [at?] at hold
    simp [at?, HeaderCache.update, htarget, hold]

/-- A header that is in use has a handle. -/
theorem Holds.lt_of_get? (h : c.Holds row) {handle : HeaderHandle}
    (hget : Row.get? HeaderKey.Same k row = some handle) : handle < c.headers.length := by
  rcases Row.mem_of_get? hget with ⟨e, he, -, rfl⟩
  rcases h.carries e he with ⟨header, hheader, -⟩
  exact (List.getElem?_eq_some_iff.1 hheader).1

theorem Holds.carries_put (h : c.Holds row) {header : PrecompiledHeader}
    (hkey : k.Same header.key) :
    ∀ e ∈ Row.put HeaderKey.Same k c.headers.length row, (c.make header).2.Carries e.1 e.2 := by
  intro e he
  rcases Row.mem_put HeaderKey.same_equivalence he with ⟨hsame, hvalue⟩ | hrow
  · rw [hvalue]
    exact carries_make (hsame.symm.trans hkey)
  · exact (h.carries e hrow).make header

/-- A new header for a key without one stands at the end. -/
theorem Holds.enlist (h : c.Holds row) (hnone : c.lookup? k = none) {header : PrecompiledHeader}
    (hkey : k.Same header.key) :
    ((c.make header).2.enlist k c.headers.length).Holds
      (Row.put HeaderKey.Same k c.headers.length row) := by
  have hrow : Row.put HeaderKey.Same k c.headers.length row = row ++ [(k, c.headers.length)] :=
    Row.put_of_get?_eq_none (by rwa [← h.lookup?_eq]) _
  have hslot : Row.get? HeaderKey.Same k c.index = none := h.slot?_eq_none_iff.2 hnone
  refine ⟨?_, ?_, h.carries_put hkey⟩
  · simp [HeaderCache.enlist, HeaderCache.make, h.handles, hrow]
  · have hlength : c.handles.length = (row.map Prod.fst).length := by simp [h.handles]
    calc
      Row.put HeaderKey.Same k c.handles.length c.index
          = c.index ++ [(k, c.handles.length)] := Row.put_of_get?_eq_none hslot _
      _ = ((row ++ [(k, c.headers.length)]).map Prod.fst).zipIdx := by
            rw [h.index, hlength, List.map_append, List.zipIdx_append]
            simp
      _ = ((Row.put HeaderKey.Same k c.headers.length row).map Prod.fst).zipIdx := by rw [hrow]

/-- A new header for a key that has one stands in its place. -/
theorem Holds.replace (h : c.Holds row) {slot : Nat} (hslot : c.slot? k = some slot)
    {header : PrecompiledHeader} (hkey : k.Same header.key) :
    ({ (c.make header).2 with
        handles := c.handles.set slot c.headers.length } : HeaderCache).Holds
      (Row.put HeaderKey.Same k c.headers.length row) := by
  have hplace : (row.map Prod.fst).findIdx? (fun l => decide (k.Same l)) = some slot := by
    rwa [← h.slot?_eq]
  refine ⟨?_, ?_, h.carries_put hkey⟩
  · rw [Row.values_put hplace, h.handles]
  · rw [Row.keys_put (h.known_of_slot? hslot)]
    exact h.index

theorem Holds.request (h : c.Holds row) (k : HeaderKey) :
    (c.request k).2.Holds (Row.put HeaderKey.Same k (c.request k).1 row) := by
  cases hlookup : c.lookup? k with
  | none =>
      rw [request_of_none hlookup]
      exact h.enlist hlookup (.refl k)
  | some handle =>
      rw [request_of_some hlookup, Row.put_of_get?_eq_some (by rwa [← h.lookup?_eq])]
      exact h

theorem Holds.install (h : c.Holds row) (k : HeaderKey) (file : Path) (stamps : StampTable) :
    (c.install k file stamps).2.Holds
      (Row.put HeaderKey.Same k (c.install k file stamps).1 row) := by
  cases hslot : c.slot? k with
  | none =>
      rw [install_of_none hslot]
      exact h.enlist (h.slot?_eq_none_iff.1 hslot) (.refl k)
  | some slot =>
      rw [install_of_some hslot]
      exact h.replace hslot (.refl k)

theorem Holds.update (h : c.Holds row) (target : HeaderHandle) (change : HeaderChange) :
    (c.update target change.apply).Holds row :=
  ⟨h.handles, h.index, fun e he => (h.carries e he).update target change⟩

/-- In a row of distinct keys the slots are just the places of the headers that carry them. -/
theorem Holds.slot?_eq_some_iff (h : c.Holds row)
    (hdistinct : (row.map Prod.fst).Pairwise fun k l => ¬ k.Same l) {slot : Nat} :
    c.slot? k = some slot ↔ ∃ handle, c.handles[slot]? = some handle ∧ c.Carries k handle := by
  rw [h.slot?_eq, Row.findIdx?_eq_some_iff HeaderKey.same_equivalence hdistinct, h.handles,
    List.getElem?_map, List.getElem?_map]
  cases hplace : row[slot]? with
  | none => simp
  | some e =>
      have he : e ∈ row := List.mem_of_getElem? hplace
      rcases h.carries e he with ⟨header, hheader, hkey⟩
      constructor
      · rintro ⟨key, hfirst, hsame⟩
        rw [Option.map_some, Option.some.injEq] at hfirst
        rw [← hfirst] at hsame
        exact ⟨e.2, rfl, header, hheader, hsame.trans hkey⟩
      · rintro ⟨handle, hsecond, header', hheader', hsame⟩
        rw [Option.map_some, Option.some.injEq] at hsecond
        rw [← hsecond, hheader, Option.some.injEq] at hheader'
        rw [← hheader'] at hsame
        exact ⟨e.1, rfl, hsame.trans hkey.symm⟩

theorem length_headers_request (c : HeaderCache) (k : HeaderKey) :
    c.headers.length ≤ (c.request k).2.headers.length := by
  cases hlookup : c.lookup? k with
  | none => simp [request_of_none hlookup, make, HeaderCache.enlist]
  | some handle => simp [request_of_some hlookup]

/-- Headers are only ever added. -/
theorem length_headers_take (c : HeaderCache) (call : CacheCall) :
    c.headers.length ≤ (c.take call).2.headers.length := by
  cases call with
  | request k => exact c.length_headers_request k
  | ensure k =>
      rw [take, ensure_eq_request]
      exact c.length_headers_request k
  | install k file stamps =>
      cases hslot : c.slot? k with
      | none => simp [take, install_of_none hslot, make, HeaderCache.enlist]
      | some slot => simp [take, install_of_some hslot, make]
  | lookup | list | count | dropAll => exact Nat.le_refl _
  | change handle change => simp [take, HeaderCache.update]

end HeaderCache

/-! ## Whole sessions -/

namespace CacheSession

variable {s : CacheSession}

/-- The cache holds what the log says is in use, and has made all that was handed out. -/
structure Kept (s : CacheSession) : Prop where
  holds : s.cache.Holds s.log.row
  made : ∀ e ∈ s.log.handedOut, e.2 < s.cache.headers.length

theorem distinct_row (log : CacheLog) : (log.row.map Prod.fst).Pairwise fun k l => ¬ k.Same l := by
  rw [log.keys_row]
  exact Row.pairwise_firsts HeaderKey.same_equivalence _

/-- What is handed out is in use from then on. -/
theorem holds_take_of_handed {call : CacheCall} {k : HeaderKey} {handle : HeaderHandle}
    (hhanded : CacheLog.handed? (call, (s.cache.take call).1) = some (k, handle))
    (h : (s.cache.take call).2.Holds (Row.put HeaderKey.Same k handle s.log.row)) :
    (s.take call).cache.Holds (s.take call).log.row := by
  rw [take, CacheLog.row_snoc_of_handed hhanded]
  exact h

/-- Other calls do not change what is in use. -/
theorem holds_take_of_none {call : CacheCall} (hcall : call ≠ .dropAll)
    (hhanded : CacheLog.handed? (call, (s.cache.take call).1) = none)
    (h : (s.cache.take call).2.Holds s.log.row) :
    (s.take call).cache.Holds (s.take call).log.row := by
  rw [take, CacheLog.row_snoc_of_none hcall hhanded]
  exact h

theorem Kept.holds_take (h : s.Kept) (call : CacheCall) :
    (s.take call).cache.Holds (s.take call).log.row := by
  cases call with
  | request k => exact holds_take_of_handed rfl (h.holds.request k)
  | ensure k =>
      have hholds := h.holds.request k
      rw [← HeaderCache.ensure_eq_request] at hholds
      exact holds_take_of_handed rfl hholds
  | install k file stamps => exact holds_take_of_handed rfl (h.holds.install k file stamps)
  | lookup | list | count => exact holds_take_of_none (by simp) rfl h.holds
  | change handle change => exact holds_take_of_none (by simp) rfl (h.holds.update handle change)
  | dropAll =>
      rw [take, CacheLog.row_snoc_dropAll]
      exact ⟨rfl, rfl, fun _ he => absurd he List.not_mem_nil⟩

theorem Kept.snoc (h : s.Kept) (call : CacheCall) : (s.take call).Kept := by
  have hholds : (s.take call).cache.Holds (s.take call).log.row := h.holds_take call
  refine ⟨hholds, fun e he => ?_⟩
  rcases CacheLog.mem_handedOut_snoc.1 he with he | he
  · exact Nat.lt_of_lt_of_le (h.made e he) (s.cache.length_headers_take call)
  · -- It is in use now, so it has been made.
    have hget : Row.get? HeaderKey.Same e.1 (s.take call).log.row = some e.2 := by
      rw [CacheSession.take, CacheLog.row_snoc_of_handed he,
        Row.get?_put HeaderKey.same_equivalence, if_pos (.refl e.1)]
    exact hholds.lt_of_get? hget

theorem kept_run (kind : StampKind) (calls : List CacheCall) : (run kind calls).Kept := by
  induction calls using List.reverseRecOn with
  | nil =>
      exact ⟨⟨rfl, rfl, fun _ he => absurd he List.not_mem_nil⟩,
        fun _ he => absurd he List.not_mem_nil⟩
  | append_singleton calls call ih =>
      rw [run_snoc]
      exact ih.snoc call

/-! ### Answers -/

theorem Kept.lookup?_eq (h : s.Kept) (k : HeaderKey) : s.cache.lookup? k = s.log.current? k := by
  rw [h.holds.lookup?_eq, s.log.get?_row]

theorem Kept.isNew (h : s.Kept) : s.log.IsNew s.cache.headers.length :=
  fun e he => Nat.ne_of_lt (h.made e he)

/-- A request finds what is in use, or puts something new in use. -/
theorem Kept.fst_request (h : s.Kept) (k : HeaderKey) :
    s.log.current? k = some (s.cache.request k).1 ∨
      s.log.current? k = none ∧ s.log.IsNew (s.cache.request k).1 := by
  rw [← h.lookup?_eq]
  cases hlookup : s.cache.lookup? k with
  | none =>
      rw [HeaderCache.request_of_none hlookup]
      exact .inr ⟨rfl, h.isNew⟩
  | some handle =>
      rw [HeaderCache.request_of_some hlookup]
      exact .inl rfl

/-- The answers are those of a map that keeps the order of its keys. -/
theorem Kept.allows (h : s.Kept) (call : CacheCall) :
    s.log.Allows call (s.cache.take call).1 := by
  cases call with
  | request k => exact h.fst_request k
  | ensure k =>
      rw [HeaderCache.take, HeaderCache.ensure_eq_request]
      exact h.fst_request k
  | install k file stamps =>
      simp only [HeaderCache.take, HeaderCache.fst_install]
      exact h.isNew
  | lookup k => exact h.lookup?_eq k
  | list =>
      have hcurrent : ∀ e ∈ s.log.row, some e.2 = s.log.current? e.1 := by
        intro e he
        rw [← s.log.get?_row, Row.get?_of_mem HeaderKey.same_equivalence (distinct_row s.log) he]
      calc
        s.cache.handles.map some
            = s.log.row.map fun e => some e.2 := by rw [h.holds.handles, List.map_map]; rfl
        _ = s.log.row.map fun e => s.log.current? e.1 := List.map_congr_left hcurrent
        _ = s.log.keys.map s.log.current? := by rw [← s.log.keys_row, List.map_map]; rfl
  | count =>
      calc
        s.cache.handles.length
            = s.log.row.length := by rw [h.holds.handles, List.length_map]
        _ = s.log.keys.length := by rw [← s.log.keys_row, List.length_map]
  | dropAll | change => trivial

/-! ### Headers that stay -/

theorem Kept.current?_take (h : s.Kept) {call : CacheCall} {k : HeaderKey} {handle : HeaderHandle}
    (hcurrent : s.log.current? k = some handle) (hstays : ¬ CacheLog.Replaces k call) :
    (s.take call).log.current? k = some handle := by
  -- A request finds the header again by any spelling of its key.
  have hrequest : ∀ l, (if k.Same l then some (s.cache.request l).1 else s.log.current? k) =
      some handle := by
    intro l
    by_cases hsame : k.Same l
    · have hlookup : s.cache.lookup? l = some handle := by
        rw [h.lookup?_eq, ← hcurrent, CacheLog.current?_congr hsame]
      rw [if_pos hsame, HeaderCache.request_of_some hlookup]
    · rw [if_neg hsame, hcurrent]
  cases call with
  | request l =>
      rw [take, CacheLog.current?_snoc_of_handed rfl]
      exact hrequest l
  | ensure l =>
      rw [take, CacheLog.current?_snoc_of_handed rfl, HeaderCache.ensure_eq_request]
      exact hrequest l
  | install l file stamps =>
      have hne : ¬ k.Same l := hstays
      rw [take, CacheLog.current?_snoc_of_handed rfl, if_neg hne, hcurrent]
  | lookup | list | count | change =>
      rw [← CacheLog.get?_row, take, CacheLog.row_snoc_of_none (by simp) rfl, CacheLog.get?_row,
        hcurrent]
  | dropAll => exact absurd trivial hstays

/-- A header that was handed out for a key is found there until it is replaced or dropped. -/
theorem current?_of_handed {kind : StampKind} {calls : List CacheCall} {before after : CacheLog}
    {l : CacheCall × CacheAnswer} {k : HeaderKey} {handle : HeaderHandle}
    (hlog : (run kind calls).log = before ++ l :: after)
    (hhanded : CacheLog.handed? l = some (k, handle))
    (hstays : ∀ m ∈ after, ¬ CacheLog.Replaces k m.1) :
    (run kind calls).log.current? k = some handle := by
  induction calls using List.reverseRecOn generalizing after with
  | nil => simp [run] at hlog
  | append_singleton calls call ih =>
      rw [run_snoc] at hlog ⊢
      rcases List.eq_nil_or_concat after with rfl | ⟨earlier, last, rfl⟩
      · -- It was handed out just now.
        have hlast : (run kind calls).log = before ∧
            (call, ((run kind calls).cache.take call).1) = l :=
          List.append_singleton_inj.1 hlog
        rw [← hlast.2] at hhanded
        rw [take, CacheLog.current?_snoc_of_handed hhanded, if_pos (.refl k)]
      · have hrest : (run kind calls).log ++ [(call, ((run kind calls).cache.take call).1)] =
            (before ++ l :: earlier) ++ [last] := by
          simpa [take] using hlog
        rcases List.append_singleton_inj.1 hrest with ⟨hearlier, hlast⟩
        have hcall : ¬ CacheLog.Replaces k call := by
          have hnot : ¬ CacheLog.Replaces k last.1 := hstays last (by simp)
          rwa [← hlast] at hnot
        exact (kept_run kind calls).current?_take
          (ih hearlier fun m hm => hstays m (by simp [hm])) hcall

/-! ## The order of the keys -/

/-- A cache that keeps its headers in the order in which their keys first came up. -/
structure InsertionOrder (s : CacheSession) : Prop where
  /-- Whatever is called next is answered as by a map that keeps this order. -/
  answers : ∀ call, s.log.Allows call (s.cache.take call).1
  /-- There is one header in use for each key, with a spelling of that key. -/
  headers : List.Forall₂ s.cache.Carries s.log.keys s.cache.handles
  /-- Slots lead to headers with a spelling of their key, and to each header leads one. -/
  slots : ∀ k slot, s.cache.slot? k = some slot ↔
    ∃ handle, s.cache.handles[slot]? = some handle ∧ s.cache.Carries k handle
  /-- A header that replaces another takes its slot, and the keys stay as they are. -/
  inPlace : ∀ k file stamps slot, s.cache.slot? k = some slot →
    (s.take (.install k file stamps)).cache.handles =
        s.cache.handles.set slot (s.cache.install k file stamps).1 ∧
      (s.take (.install k file stamps)).log.keys = s.log.keys
  /-- What was handed out for a key is found there until it is replaced or dropped. -/
  stays : ∀ before l after k handle, s.log = before ++ l :: after →
    CacheLog.handed? l = some (k, handle) → (∀ m ∈ after, ¬ CacheLog.Replaces k m.1) →
      ∀ spelling, spelling.Same k → s.cache.lookup? spelling = some handle

theorem Kept.forall₂_carries (h : s.Kept) :
    List.Forall₂ s.cache.Carries s.log.keys s.cache.handles := by
  rw [← CacheLog.keys_row, h.holds.handles, List.forall₂_map_left_iff, List.forall₂_map_right_iff,
    List.forall₂_same]
  exact h.holds.carries

/-- A key that has a slot came up before, so it does not come up again. -/
theorem Kept.keys_take_install (h : s.Kept) {k : HeaderKey} {slot : Nat}
    (hslot : s.cache.slot? k = some slot) (file : Path) (stamps : StampTable) :
    (s.take (.install k file stamps)).log.keys = s.log.keys := by
  have hknown : ∃ e ∈ s.log.row, k.Same e.1 := h.holds.known_of_slot? hslot
  calc
    (s.take (.install k file stamps)).log.keys
        = (Row.put HeaderKey.Same k (s.cache.install k file stamps).1 s.log.row).map Prod.fst := by
          rw [← CacheLog.keys_row, take, CacheLog.row_snoc_of_handed rfl]
    _ = s.log.keys := by rw [Row.keys_put hknown, CacheLog.keys_row]

/-- **The order of a cache.** After every sequence of calls, with any keys in any spelling, a cache
is a map that keeps its keys in the order in which they first came up since the last drop. -/
theorem insertionOrder_run (kind : StampKind) (calls : List CacheCall) :
    (run kind calls).InsertionOrder := by
  have hkept : (run kind calls).Kept := kept_run kind calls
  refine ⟨hkept.allows, hkept.forall₂_carries, ?_, ?_, ?_⟩
  · intro k slot
    exact hkept.holds.slot?_eq_some_iff (distinct_row _)
  · intro k file stamps slot hslot
    refine ⟨?_, hkept.keys_take_install hslot file stamps⟩
    rw [take, HeaderCache.take, HeaderCache.install_of_some hslot]
  · intro before l after k handle hlog hhanded hstays spelling hspelling
    calc
      (run kind calls).cache.lookup? spelling
          = (run kind calls).log.current? spelling := hkept.lookup?_eq spelling
      _ = (run kind calls).log.current? k := CacheLog.current?_congr hspelling _
      _ = some handle := current?_of_handed hlog hhanded hstays

end CacheSession
end BuildTrace
