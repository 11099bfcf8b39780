import BuildTrace.Proofs.Precompile.History
import BuildTrace.Proofs.Precompile.Reach

/-!
# Verdict — is a unit still good?

A parse that is kept leaves behind the stamps of all files that went into its source, as they were
when they were read. The verdict on a header compares them with the files of a later moment:

* `SearchPath.Records` — the stamps that an expansion leaves behind;
* `SearchPath.Verdict` — what the verdict has to be, given the files of a later moment;
* `HeaderHistory.KeepsStamps` — histories in which no stamps are replaced;
* `Run.freshness_of_kept` — the verdict on a header, any time after a parse that was kept.
-/

namespace BuildTrace

/-! ## What an expansion leaves behind -/

theorem Expansion.read_of_mem_inlined {fs : FileSystem} {s : SearchPath} : ∀ (seen : List Path)
    (tasks : List Task) (e : Expansion), ofTasks fs s seen tasks = .ok e →
      ∀ f ∈ e.inlined, ∃ text, FileStamp.read fs s.kind f.1 = .ok (text, f.2) := by
  intro seen tasks
  refine @ofTasks_induction fs s (fun _ _ r => ∀ e, r = .ok e →
    ∀ f ∈ e.inlined, ∃ text, FileStamp.read fs s.kind f.1 = .ok (text, f.2))
    ?nil ?kept ?again ?unread ?enter seen tasks
  case nil =>
    intro seen e he f hf
    cases he
    exact absurd hf List.not_mem_nil
  case kept =>
    intro seen task rest r _ ih e he
    cases r with
    | error cause => cases he
    | ok e' =>
        cases he
        exact ih e' rfl
  case again =>
    intro seen task rest p r _ _ ih
    exact ih
  case unread =>
    intro seen task rest p cause _ _ _ e he
    cases he
  case enter =>
    -- The file that is put in has just been read; the others are those of the rest.
    intro seen task rest p data stamp r _ _ hread ih e he f hf
    cases r with
    | error cause => cases he
    | ok e' =>
        cases he
        rcases List.mem_cons.1 hf with rfl | hf
        · exact ⟨data, hread⟩
        · exact ih e' rfl f hf

theorem FileStamp.now_of_read {fs : FileSystem} {kind : StampKind} {p : Path} {data : List UInt8}
    {stamp : FileStamp} (h : FileStamp.read fs kind p = .ok (data, stamp)) :
    FileStamp.now fs kind p = .ok stamp := by
  unfold FileStamp.read at h
  cases hnow : FileStamp.now fs kind p with
  | error e =>
      rw [hnow] at h
      cases h
  | ok stamp' =>
      cases hread : fs.readFile p with
      | error e =>
          rw [hnow, hread] at h
          cases h
      | ok data' =>
          rw [hnow, hread] at h
          cases h
          rfl

namespace SearchPath

variable {fs fs' : FileSystem} {s : SearchPath} {origin : Path} {data : List UInt8}
  {x : ExpandedHeader}

/-- The stamp of a file as it was when the expansion `x` came to it: of the origin, if there is
one, and of every file that was read and put in. -/
def Records (fs : FileSystem) (s : SearchPath) (origin : Path) (x : ExpandedHeader) (p : Path)
    (stamp : FileStamp) : Prop :=
  (p = origin ∧ FileStamp.now fs s.kind origin = .ok stamp) ∨
    (p ∈ x.dependencies ∧ ∃ text, FileStamp.read fs s.kind p = .ok (text, stamp))

theorem now_of_records {p : Path} {stamp : FileStamp} (h : Records fs s origin x p stamp) :
    FileStamp.now fs s.kind p = .ok stamp := by
  rcases h with ⟨rfl, hnow⟩ | ⟨-, text, hread⟩
  · exact hnow
  · exact FileStamp.now_of_read hread

theorem of_expand_eq_ok (hx : s.expand fs origin data = .ok x) :
    ∃ e, Expansion.ofTasks fs s [origin]
        ((physicalLines data).map (Expansion.Task.line origin)) = .ok e ∧
      x.dependencies = e.dependencies ∧
      x.stamps = .insertAll {} ((match FileStamp.now fs s.kind origin with
        | .ok stamp => [(origin, stamp)]
        | .error _ => []) ++ e.inlined) := by
  unfold expand at hx
  cases hwork : Expansion.ofTasks fs s [origin]
      ((physicalLines data).map (Expansion.Task.line origin)) with
  | error f =>
      rw [hwork] at hx
      cases hx
  | ok e =>
      rw [hwork] at hx
      cases hx
      exact ⟨e, rfl, rfl, rfl⟩

/-- No file that was put in is without a stamp. -/
theorem exists_records (hx : s.expand fs origin data = .ok x) {p : Path}
    (hp : p ∈ x.dependencies) : ∃ stamp, Records fs s origin x p stamp := by
  rcases of_expand_eq_ok hx with ⟨e, hwork, hdependencies, -⟩
  have hmem : p ∈ e.inlined.map Prod.fst := by
    rw [hdependencies] at hp
    exact hp
  rcases List.mem_map.1 hmem with ⟨f, hf, rfl⟩
  rcases Expansion.read_of_mem_inlined _ _ _ hwork f hf with ⟨text, hread⟩
  exact ⟨f.2, Or.inr ⟨hp, text, hread⟩⟩

/-- The table has what was recorded, in the order of the paths. -/
theorem mem_stamps_iff (hx : s.expand fs origin data = .ok x) :
    StampTable.Sorted x.stamps.entries ∧
      ∀ p stamp, (p, stamp) ∈ x.stamps.entries ↔ Records fs s origin x p stamp := by
  rcases of_expand_eq_ok hx with ⟨e, hwork, hdependencies, hstamps⟩
  have hvisits := Expansion.visits_ofTasks _ _ _ hwork
  have hread := Expansion.read_of_mem_inlined _ _ _ hwork
  have hother : ∀ p ∈ e.dependencies, ¬ p.Same origin := fun p hp =>
    not_same_of_isSeen_eq_false (hvisits.distinct.2 p hp) List.mem_cons_self
  have hperm : x.stamps.entries.Perm ((match FileStamp.now fs s.kind origin with
      | .ok stamp => [(origin, stamp)]
      | .error _ => []) ++ e.inlined) := by
    rw [hstamps]
    exact entries_insertAll hvisits.distinct.1 hother (FileStamp.now fs s.kind origin)
  refine ⟨?_, ?_⟩
  · rw [hstamps]
    exact StampTable.sorted_insertAll _ _ .nil
  · intro p stamp
    rw [hperm.mem_iff, List.mem_append, Records, hdependencies]
    apply or_congr
    · cases hnow : FileStamp.now fs s.kind origin with
      | error cause => simp
      | ok own => simp [eq_comm]
    · -- A file was read once, so its entry has the stamp that reading it gives.
      constructor
      · intro hin
        exact ⟨List.mem_map_of_mem hin, hread (p, stamp) hin⟩
      · rintro ⟨hp, text, htext⟩
        rcases List.mem_map.1 hp with ⟨⟨q, old⟩, hf, rfl⟩
        rcases hread (q, old) hf with ⟨text', htext'⟩
        rw [htext] at htext'
        cases htext'
        exact hf

/-- What the verdict has to be when the files are as in `fs'`: fresh, if all files recorded give
the stamps they had, and else stale, with the paths of all those that do not, in order and each of
them once. -/
structure Verdict (fs fs' : FileSystem) (s : SearchPath) (origin : Path) (x : ExpandedHeader)
    (v : Freshness) : Prop where
  fresh : v = .fresh ↔ ∀ p stamp, Records fs s origin x p stamp →
    FileStamp.now fs' s.kind p = .ok stamp
  stale : ∀ paths, v = .stale paths → paths ≠ [] ∧
    (paths.Pairwise fun p q => p.precedes q = true ∧ ¬ p.Same q) ∧
    ∀ p, p ∈ paths ↔ ∃ stamp, Records fs s origin x p stamp ∧
      FileStamp.now fs' s.kind p ≠ .ok stamp

theorem isCurrent_iff_of_records {p : Path} {stamp : FileStamp}
    (h : Records fs s origin x p stamp) :
    StampTable.isCurrent fs' (p, stamp) = true ↔ FileStamp.now fs' s.kind p = .ok stamp := by
  rw [StampTable.isCurrent_iff, FileStamp.kind_of_now (now_of_records h)]

/-- The verdict on the table of an expansion. -/
theorem verdict_of_expand (hx : s.expand fs origin data = .ok x) (fs' : FileSystem) :
    Verdict fs fs' s origin x (x.stamps.freshness fs') := by
  rcases mem_stamps_iff hx with ⟨hsorted, hmem⟩
  refine ⟨?_, ?_⟩
  · rw [StampTable.freshness_eq_fresh_iff]
    constructor
    · intro hall p stamp hrecords
      have hcurrent := hall (p, stamp) ((hmem p stamp).2 hrecords)
      exact (isCurrent_iff_of_records hrecords).1 hcurrent
    · rintro hall ⟨p, stamp⟩ he
      have hrecords : Records fs s origin x p stamp := (hmem p stamp).1 he
      exact (isCurrent_iff_of_records hrecords).2 (hall p stamp hrecords)
  · intro paths hstale
    rcases StampTable.of_freshness_eq_stale hstale with ⟨hne, hpaths⟩
    refine ⟨hne, ?_, ?_⟩
    · have hkept : (x.stamps.entries.filter fun e => !StampTable.isCurrent fs' e).Pairwise
          fun e e' => e.1.precedes e'.1 = true := hsorted.sublist List.filter_sublist
      rw [hpaths, List.pairwise_map]
      exact hkept.imp fun h => ⟨h, Path.not_same_of_precedes h⟩
    · intro p
      rw [hpaths, List.mem_map]
      constructor
      · rintro ⟨⟨q, stamp⟩, he, rfl⟩
        rcases List.mem_filter.1 he with ⟨hentry, hchanged⟩
        have hrecords : Records fs s origin x q stamp := (hmem q stamp).1 hentry
        refine ⟨stamp, hrecords, ?_⟩
        intro hnow
        have hcurrent := (isCurrent_iff_of_records hrecords).2 hnow
        simp [hcurrent] at hchanged
      · rintro ⟨stamp, hrecords, hchanged⟩
        refine ⟨(p, stamp), List.mem_filter.2 ⟨(hmem p stamp).2 hrecords, ?_⟩, rfl⟩
        cases hcurrent : StampTable.isCurrent fs' (p, stamp) with
        | false => rfl
        | true => exact absurd ((isCurrent_iff_of_records hrecords).1 hcurrent) hchanged

end SearchPath

/-! ## Histories in which stamps stay -/

/-- No stamps are replaced: none are set, and every parse that comes to its unit was cleared while
it was running, so that nothing of it is kept. -/
structure HeaderHistory.KeepsStamps (log : HeaderHistory) : Prop where
  unset : ∀ l ∈ log, ∀ stamps, l.1 ≠ .setStamps stamps
  cleared : ∀ before fs dirs unit r, ∀ during after : HeaderHistory,
    log = before ++ (.ask fs dirs, none) :: during ++ (.parsed unit, r) :: after →
      (∀ l ∈ during, l.1.endsParse = false) → during.clears ≠ 0

theorem HeaderHistory.KeepsStamps.of_append {log more : HeaderHistory}
    (h : KeepsStamps (log ++ more)) : KeepsStamps log := by
  refine ⟨fun l hl => h.unset l (List.mem_append_left _ hl), ?_⟩
  intro before fs dirs unit r during after hlog
  apply h.cleared before fs dirs unit r during (after ++ more)
  simp [hlog]

namespace SharedHeader

variable {s t u : SharedHeader} {h : PrecompiledHeader} {during more : HeaderHistory}
  {fs : FileSystem} {dirs : List Path} {j : ParseJob} {unit : TranslationUnit}
  {r : Option HeaderReply}

/-- A parse that was not running at first was begun on the way. -/
theorem Run.isRunning (hrun : Run s more t) (hidle : s.running = none)
    (hjob : t.running = some j) : IsRunning s more j t.header.generation := by
  induction hrun with
  | nil => simp [hidle] at hjob
  | @snoc log m u e r hbefore hstep ih =>
      cases hstep with
      | append => exact (ih hjob).snoc rfl none
      | clear => exact (ih hjob).snoc rfl none
      | setStamps => exact (ih hjob).snoc rfl none
      | refused => cases hjob
      | cached => cases hjob
      | @begun old fs dirs job hbegin =>
          cases hjob
          have hsame : old.generation = j.generation :=
            (PrecompiledHeader.of_begin_job hbegin).2.symm
          exact ⟨log, old, fs, dirs, [], ⟨hbefore, hbegin, nofun⟩, rfl, hsame⟩
      | parsed => cases hjob
      | failed => cases hjob

/-- While a parse is running no unit turns up. -/
theorem Run.unit_eq_none (hrun : Run s more t) (hjob : s.running = some j)
    (hgoesOn : ∀ l ∈ more, l.1.endsParse = false) (hnone : s.header.unit = none) :
    t.header.unit = none := by
  induction hrun with
  | nil => exact hnone
  | @snoc log m u e r hbefore hstep ih =>
      have hgoesOn' : ∀ l ∈ log, l.1.endsParse = false := fun l hl =>
        hgoesOn l (List.mem_append_left _ hl)
      have hmid : m.header.unit = none := ih hgoesOn'
      have hrunning : m.running = some j := (hbefore.running hjob hgoesOn').1
      have he : e.endsParse = false := hgoesOn (e, r) (by simp)
      cases hstep with
      | append => exact hmid
      | clear => rfl
      | setStamps => exact hmid
      | refused => cases hrunning
      | cached => cases hrunning
      | begun => cases hrunning
      | parsed => cases he
      | failed => cases he

/-- A parse that is kept leaves behind the stamps it was begun with. -/
theorem Run.stamps_of_kept
    (hparse : Run { header := h } ((.ask fs dirs, none) :: during ++ [(.parsed unit, r)]) t)
    (hgoesOn : ∀ l ∈ during, l.1.endsParse = false) (hkept : t.header.unit = some unit) :
    t.running = none ∧ ∃ x, (h.searchPath dirs).expand fs h.file h.data = .ok x ∧
      t.header.stamps = x.stamps := by
  rcases hparse.last with ⟨s, hbefore, hend⟩
  have hcut : Run { header := h } ([(.ask fs dirs, none)] ++ during) s := hbefore
  rcases hcut.split with ⟨m, hask, hduring⟩
  cases hask.step with
  | @begun _ _ _ j hbegin =>
      rcases PrecompiledHeader.expand_of_begin_job hbegin with ⟨x, hx, -, hstamps⟩
      have hrunning : s.running = some j := (hduring.running rfl hgoesOn).1
      have hnone : s.header.unit = none :=
        hduring.unit_eq_none rfl hgoesOn (PrecompiledHeader.of_begin_job hbegin).1
      cases hend with
      | parsed header job =>
          cases hrunning
          refine ⟨rfl, x, hx, ?_⟩
          -- Had the parse been cleared, there would be no unit.
          by_cases hsame : header.generation = j.generation
          · have hheader : header.finish j unit =
                { header with stamps := j.stamps, unit := some unit } := if_pos hsame
            calc
              (header.finish j unit).stamps = j.stamps := by rw [hheader]
              _ = x.stamps := hstamps
          · have hheader : header.finish j unit = header :=
              PrecompiledHeader.finish_of_ne hsame unit
            have hunit : (header.finish j unit).unit = some unit := hkept
            rw [hheader] at hunit
            exact absurd (hnone.symm.trans hunit) nofun

/-- Until stamps are replaced, they stay, whether or not the text is cleared. -/
theorem Run.stamps_of_keepsStamps (hrun : Run t more u) (hidle : t.running = none)
    (hkeeps : more.KeepsStamps) : u.header.stamps = t.header.stamps := by
  induction hrun with
  | nil => rfl
  | @snoc log m u e r hbefore hstep ih =>
      have hmid : m.header.stamps = t.header.stamps := ih hkeeps.of_append
      cases hstep with
      | append => exact hmid
      | clear => exact hmid
      | setStamps _ stamps =>
          exact absurd rfl (hkeeps.unset (.setStamps stamps, none) (by simp) stamps)
      | refused => exact hmid
      | cached => exact hmid
      | begun => exact hmid
      | parsed header job unit =>
          -- The parse began after stamps were kept, so it was cleared, and nothing is kept of it.
          rcases hbefore.isRunning hidle rfl with
            ⟨before, old, fs, dirs, during, hbegun, hlog, hgeneration⟩
          have hclears : during.clears ≠ 0 :=
            hkeeps.cleared before fs dirs unit (some (.ok unit)) during [] (by rw [hlog])
              hbegun.goesOn
          have hne : header.generation ≠ job.generation := by
            have hlater : header.generation = job.generation + during.clears := hgeneration
            omega
          have hheader : header.finish job unit = header :=
            PrecompiledHeader.finish_of_ne hne unit
          calc
            (header.finish job unit).stamps = header.stamps := by rw [hheader]
            _ = t.header.stamps := hmid
      | failed => exact hmid

/-! ## The verdict on a header -/

/-- The content of a file decides its stamp, where digests tell contents apart. -/
theorem now_ne_of_changed {fs fs' : FileSystem} {p : Path} {text : List UInt8} {stamp : FileStamp}
    (hread : fs.readFile p = .ok text) (hnow : FileStamp.now fs .content p = .ok stamp)
    (hchanged : ∀ text', fs'.readFile p = .ok text' →
      Blake3.hexDigest text' ≠ Blake3.hexDigest text) :
    FileStamp.now fs' .content p ≠ .ok stamp := by
  intro hlater
  have hstamp : stamp = FileStamp.ofData text := by
    simp only [FileStamp.now, hread, Except.map, Except.ok.injEq] at hnow
    exact hnow.symm
  cases hread' : fs'.readFile p with
  | error e => simp [FileStamp.now, hread', Except.map] at hlater
  | ok text' =>
      simp only [FileStamp.now, hread', Except.map, Except.ok.injEq, hstamp, FileStamp.ofData,
        FileStamp.content.injEq] at hlater
      exact hchanged text' hread' hlater

/-- **The verdict on a header.** Take a parse that is kept, and any time after it until stamps are
replaced; files may have changed before, while the engine was at work and since. The verdict is
fresh exactly if every file that went into the source gives the stamp it had when it was read, and
else it has the paths of exactly those that do not, in order. With stamps of the content, a file
that was put in and has been changed or taken away is among them. -/
theorem Run.freshness_of_kept
    (hparse : Run { header := h } ((.ask fs dirs, none) :: during ++ [(.parsed unit, r)]) t)
    (hgoesOn : ∀ l ∈ during, l.1.endsParse = false) (hkept : t.header.unit = some unit)
    (hmore : Run t more u) (hkeeps : more.KeepsStamps) :
    ∃ x, (h.searchPath dirs).expand fs h.file h.data = .ok x ∧
      (∀ p ∈ x.dependencies, ∃ stamp, (h.searchPath dirs).Records fs h.file x p stamp) ∧
      ∀ fs', SearchPath.Verdict fs fs' (h.searchPath dirs) h.file x (u.header.freshness fs') ∧
        (h.kind = .content → ∀ p ∈ x.dependencies, ∀ text, fs.readFile p = .ok text →
          (∀ text', fs'.readFile p = .ok text' →
            Blake3.hexDigest text' ≠ Blake3.hexDigest text) →
          ∃ paths, u.header.freshness fs' = .stale paths ∧ p ∈ paths) := by
  rcases hparse.stamps_of_kept hgoesOn hkept with ⟨hidle, x, hx, hstamps⟩
  have hlater : u.header.stamps = x.stamps :=
    (hmore.stamps_of_keepsStamps hidle hkeeps).trans hstamps
  refine ⟨x, hx, fun p hp => SearchPath.exists_records hx hp, ?_⟩
  intro fs'
  have hverdict : SearchPath.Verdict fs fs' (h.searchPath dirs) h.file x
      (u.header.freshness fs') := by
    rw [PrecompiledHeader.freshness, hlater]
    exact SearchPath.verdict_of_expand hx fs'
  refine ⟨hverdict, ?_⟩
  intro hkind p hp text hread hchanged
  rcases SearchPath.exists_records hx hp with ⟨stamp, hrecords⟩
  have hnow : FileStamp.now fs h.kind p = .ok stamp := SearchPath.now_of_records hrecords
  have hgone : FileStamp.now fs' h.kind p ≠ .ok stamp := by
    rw [hkind] at hnow ⊢
    exact now_ne_of_changed hread hnow hchanged
  cases hfreshness : u.header.freshness fs' with
  | fresh => exact absurd (hverdict.fresh.1 hfreshness p stamp hrecords) hgone
  | stale paths =>
      exact ⟨paths, rfl, ((hverdict.stale paths hfreshness).2.2 p).2 ⟨stamp, hrecords, hgone⟩⟩

/-! ### An edit while the engine is at work -/

open SearchPath

/-- A header with the text of the first of two files that include each other. -/
def cycleHeader : PrecompiledHeader :=
  { key := { digest := "", header := Place.toPath ["a.h"], flags := [] }
    kind := .mtime
    file := Place.toPath ["a.h"]
    data := includeOf "b.h" }

/-- The two files, the second one changed. -/
def editedTree : FileSystem :=
  { nodes := [(["a.h"], ⟨.file (includeOf "b.h") false, 0⟩), (["b.h"], ⟨.file [] false, 1⟩)] }

theorem now_editedTree :
    FileStamp.now editedTree .mtime (Place.toPath ["b.h"]) = .ok (.modified 1) := by
  have hplace : Place.IsProper ["b.h"] ∧ editedTree.isStraight [] ["b.h"] ∧
      FileSystem.hasNul (Place.toPath ["b.h"]) = false ∧
      editedTree.node? ["b.h"] = some ⟨.file [] false, 1⟩ ∧
      ¬ FileSystem.pathLimit < (Text.bytes (Place.toPath ["b.h"]).spelling).length := by
    decide +kernel
  rcases hplace with ⟨hproper, hstraight, hnul, hnode, hshort⟩
  have hfind : editedTree.find (Place.toPath ["b.h"]) = .ok (["b.h"], ⟨.file [] false, 1⟩) := by
    rw [FileSystem.find, if_neg (by simp [hshort]),
      FileSystem.locate_toPath hproper hstraight hnul hnode]
  have hstamp : FileStamp.ofTime 1 = .modified 1 := by decide
  simp only [FileStamp.now, FileSystem.modified, hfind, Except.map, hstamp]

/-- The second file is changed while the engine is at work on its old text; the text is cleared
after the parse, and the verdict still names the file. -/
theorem freshness_cycleHeader : ∃ t u,
    Run { header := cycleHeader } ((.ask cycleTree [], none) :: [(.append [32], none)] ++
      [(.parsed ⟨1⟩, some (.ok ⟨1⟩))]) t ∧
    t.header.unit = some ⟨1⟩ ∧ Run t [(.clear, none)] u ∧
    HeaderHistory.KeepsStamps [(.clear, none)] ∧
    ∃ paths, u.header.freshness editedTree = .stale paths ∧ Place.toPath ["b.h"] ∈ paths := by
  have hexpand : ∃ x, expand cycleTree (cycleHeader.searchPath []) cycleHeader.file
      cycleHeader.data = .ok x ∧ x.dependencies = [Place.toPath ["b.h"]] := by
    have hsearch : cycleHeader.searchPath [] = {} := rfl
    rw [hsearch, expand]
    refine ⟨_, congrArg (Except.map _) ofTasks_cycleTree, rfl⟩
  rcases hexpand with ⟨x, hx, hdependencies⟩
  have hbegin := PrecompiledHeader.begin_of_expand rfl (by decide +kernel) hx
  have hrun : ∃ t, Run { header := cycleHeader } ((.ask cycleTree [], none) ::
      [(.append [32], none)] ++ [(.parsed ⟨1⟩, some (.ok ⟨1⟩))]) t ∧
        t.header.unit = some ⟨1⟩ :=
    ⟨_, ((Run.nil.snoc (.begun hbegin)).snoc (.append _ [32])).snoc (.parsed _ _ ⟨1⟩), rfl⟩
  rcases hrun with ⟨t, hparse, hkept⟩
  have hclear : Run t [(.clear, none)] { t with header := t.header.clear } :=
    Run.nil.snoc (.clear t)
  have hkeeps : HeaderHistory.KeepsStamps [(.clear, none)] := by
    refine ⟨by simp, ?_⟩
    intro before fs dirs unit r during after hlog
    have hmem : (HeaderEvent.ask fs dirs, (none : Option HeaderReply)) ∈
        ([(.clear, none)] : HeaderHistory) := by
      rw [hlog]
      simp
    simp at hmem
  refine ⟨t, _, hparse, hkept, hclear, hkeeps, ?_⟩
  rcases hparse.freshness_of_kept (by simp [HeaderEvent.endsParse]) hkept hclear hkeeps with
    ⟨x', hx', hrecorded, hverdict⟩
  rw [hx] at hx'
  cases hx'
  rcases hrecorded (Place.toPath ["b.h"]) (by simp [hdependencies]) with ⟨stamp, hrecords⟩
  -- The stamp is that of the old text, and the file gives another one by now.
  have hstamp : stamp = .modified 0 := by
    have hnow := now_of_records hrecords
    have hold := FileStamp.now_of_read (read_cycleTree (by decide : ("b.h", "a.h") ∈ cycleFiles))
    exact Except.ok.inj (hnow.symm.trans hold)
  have hchanged : FileStamp.now editedTree .mtime (Place.toPath ["b.h"]) ≠ .ok stamp := by
    rw [now_editedTree, hstamp]
    decide
  have hedited := (hverdict editedTree).1
  cases hfreshness : t.header.clear.freshness editedTree with
  | fresh => exact absurd (hedited.fresh.1 hfreshness _ stamp hrecords) hchanged
  | stale paths =>
      exact ⟨paths, rfl, ((hedited.stale paths hfreshness).2.2 _).2 ⟨stamp, hrecords, hchanged⟩⟩

end SharedHeader
end BuildTrace
