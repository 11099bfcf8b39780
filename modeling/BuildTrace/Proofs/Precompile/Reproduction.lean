import BuildTrace.Proofs.FileSystem.Layout
import BuildTrace.Proofs.Precompile.Verdict

/-!
# Reproduction — a fresh expansion comes out the same again

An expansion reads the files it puts in, and asks where directives lead. If that has not changed,
and the stamps it left behind are those of today, making it again gives the same text:

* `SearchPath.resolve?_of_sameLayout` — where directives lead hangs on the layout alone;
* `FileStamp.read_of_now` — a file with the digest it had reads as it did;
* `Expansion.ofTasks_of_reads` — the work reads nothing but the files it puts in;
* `SearchPath.expand_of_fresh` — so a fresh expansion comes out the same, whatever all other files
  hold by now.
-/

namespace BuildTrace

open FileSystem (SameLayout)

/-! ## What the work hangs on -/

section Work

variable {fs fs' : FileSystem} {s : SearchPath}

theorem SearchPath.resolve?_of_sameLayout (h : SameLayout fs fs') (s : SearchPath) (origin : Path)
    (d : IncludeDirective) : s.resolve? fs' origin d = s.resolve? fs origin d := by
  have hfiles : fs'.isFile = fs.isFile := funext h.isFile
  unfold resolve?
  rw [hfiles]
  cases (s.candidates origin d).find? fs.isFile with
  | none => rfl
  | some found => exact h.realPath found

namespace Expansion

theorem Task.target?_of_sameLayout (h : SameLayout fs fs') (task : Task) :
    task.target? fs' s = task.target? fs s := by
  cases task with
  | endLine => rfl
  | line origin bytes =>
      have hresolve : s.resolve? fs' origin = s.resolve? fs origin :=
        funext (SearchPath.resolve?_of_sameLayout h s origin)
      simp only [Task.target?, hresolve]

/-- The work reads nothing but the files it puts in: where these read as they did, and directives
lead where they did, it comes to the same. -/
theorem ofTasks_of_reads (h : SameLayout fs fs') :
    ∀ (seen : List Path) (tasks : List Task) (e : Expansion), ofTasks fs s seen tasks = .ok e →
      (∀ f ∈ e.inlined, FileStamp.read fs' s.kind f.1 = FileStamp.read fs s.kind f.1) →
        ofTasks fs' s seen tasks = .ok e := by
  intro seen tasks
  refine @ofTasks_induction fs s (fun seen tasks r => ∀ e, r = .ok e →
    (∀ f ∈ e.inlined, FileStamp.read fs' s.kind f.1 = FileStamp.read fs s.kind f.1) →
      ofTasks fs' s seen tasks = .ok e) ?nil ?kept ?again ?unread ?enter seen tasks
  case nil =>
    intro seen e he _
    cases he
    rw [ofTasks]
  case kept =>
    intro seen task rest r hnone ih e he hreads
    cases r with
    | error f => cases he
    | ok e' =>
        cases he
        have hnone' : task.target? fs' s = none := (task.target?_of_sameLayout h).trans hnone
        rw [ofTasks_of_target?_eq_none hnone', ih e' rfl hreads]
        rfl
  case again =>
    intro seen task rest p r hsome hseen ih e he hreads
    have hsome' : task.target? fs' s = some p := (task.target?_of_sameLayout h).trans hsome
    rw [ofTasks_of_target? hsome', if_pos hseen]
    exact ih e he hreads
  case unread =>
    intro seen task rest p cause _ _ _ e he
    cases he
  case enter =>
    -- The file that is put in reads as it did, so the work goes on with the same lines.
    intro seen task rest p data stamp r hsome hnew hread ih e he hreads
    cases r with
    | error f => cases he
    | ok e' =>
        cases he
        have hsome' : task.target? fs' s = some p := (task.target?_of_sameLayout h).trans hsome
        have hread' : FileStamp.read fs' s.kind p = .ok (data, stamp) :=
          (hreads (p, stamp) List.mem_cons_self).trans hread
        have hrest := ih e' rfl fun f hf => hreads f (List.mem_cons_of_mem _ hf)
        rw [ofTasks_of_target? hsome', if_neg (by simp [hnew]), hread']
        simp only
        rw [hrest]
        rfl

end Expansion
end Work

/-! ## What a digest says -/

/-- A file that has the digest it had reads as it did, where digests tell its contents apart. -/
theorem FileStamp.read_of_now {fs fs' : FileSystem} {p : Path} {text : List UInt8}
    {stamp : FileStamp} (hread : FileStamp.read fs .content p = .ok (text, stamp))
    (hnow : FileStamp.now fs' .content p = .ok stamp)
    (hdigest : ∀ text', fs'.readFile p = .ok text' →
      Blake3.hexDigest text = Blake3.hexDigest text' → text = text') :
    FileStamp.read fs' .content p = .ok (text, stamp) := by
  have htext : fs.readFile p = .ok text := Expansion.readFile_of_read hread
  have hstamp : stamp = FileStamp.ofData text := by
    have hold := FileStamp.now_of_read hread
    simp only [FileStamp.now, htext, Except.map, Except.ok.injEq] at hold
    exact hold.symm
  cases htext' : fs'.readFile p with
  | error cause => simp [FileStamp.now, htext', Except.map] at hnow
  | ok text' =>
      have hsame : text = text' := by
        apply hdigest text' htext'
        simp only [FileStamp.now, htext', Except.map, Except.ok.injEq, hstamp, FileStamp.ofData,
          FileStamp.content.injEq] at hnow
        exact hnow.symm
      unfold FileStamp.read
      rw [hnow, htext', hsame]
      rfl

/-! ## The expansion again -/

namespace SearchPath

variable {fs fs' : FileSystem} {s : SearchPath} {origin : Path} {data : List UInt8}
  {x : ExpandedHeader}

/-- **A fresh expansion comes out the same again.** Take two states of the files in which paths
lead to the same places. If an expansion with stamps of the content was made in the first, and its
stamps are fresh in the second, then it can be made there, with the same text and the same files in
it, whatever all other files hold. Digests have to tell apart what the files put in hold in the two
states. -/
theorem expand_of_fresh (hkind : s.kind = .content) (hlayout : SameLayout fs fs')
    (hx : s.expand fs origin data = .ok x) (hfresh : x.stamps.freshness fs' = .fresh)
    (hdigest : ∀ p ∈ x.dependencies, ∀ text text', fs.readFile p = .ok text →
      fs'.readFile p = .ok text' → Blake3.hexDigest text = Blake3.hexDigest text' → text = text') :
    ∃ x', s.expand fs' origin data = .ok x' ∧ x'.source = x.source ∧
      x'.dependencies = x.dependencies := by
  have hcurrent := (verdict_of_expand hx fs').fresh.1 hfresh
  cases hwork : Expansion.ofTasks fs s [origin]
      ((physicalLines data).map (Expansion.Task.line origin)) with
  | error f => simp [expand, hwork, Except.map] at hx
  | ok e =>
      simp only [expand, hwork, Except.map, Except.ok.injEq] at hx
      -- Every file put in was read, left its stamp behind, and so reads today as it did.
      have hreads : ∀ f ∈ e.inlined,
          FileStamp.read fs' s.kind f.1 = FileStamp.read fs s.kind f.1 := by
        intro f hf
        rcases Expansion.read_of_mem_inlined _ _ _ hwork f hf with ⟨text, hread⟩
        have hmem : f.1 ∈ x.dependencies := by
          rw [← hx]
          exact List.mem_map_of_mem hf
        have hnow := hcurrent f.1 f.2 (Or.inr ⟨hmem, text, hread⟩)
        rw [hkind] at hread hnow ⊢
        rw [hread]
        apply FileStamp.read_of_now hread hnow
        intro text' hread' hsame
        exact hdigest f.1 hmem text text' (Expansion.readFile_of_read hread) hread' hsame
      have hagain := Expansion.ofTasks_of_reads hlayout _ _ _ hwork hreads
      refine ⟨_, congrArg (Except.map _) hagain, ?_, ?_⟩
      · rw [← hx]
      · rw [← hx]

/-! ### A third file is changed -/

/-- Two files that include each other, and a third of which they know nothing. -/
def strayTree (text : List UInt8) : FileSystem :=
  { nodes := cycleTree.nodes ++ [(["c.h"], ⟨.file text false, 0⟩)] }

theorem hasCycle_strayTree (text : List UInt8) : HasCycle (strayTree text) := by
  intro l hl
  rcases l with ⟨name, includes⟩
  simp only [cycleFiles, List.mem_cons, Prod.mk.injEq, List.not_mem_nil, or_false] at hl
  rcases hl with ⟨rfl, rfl⟩ | ⟨rfl, rfl⟩
  · exact ⟨rfl, rfl⟩
  · exact ⟨rfl, rfl⟩

theorem sameForms_strayTree (text text' : List UInt8) :
    FileSystem.SameForms (strayTree text) (strayTree text') := by
  refine ⟨rfl, ?_⟩
  intro place
  simp only [FileSystem.node?, strayTree, List.lookup_append]
  split
  · rfl
  · cases cycleTree.nodes.lookup place with
    | some node => rfl
    | none =>
        simp only [Option.none_or, List.lookup_cons]
        split
        · rfl
        · rfl

theorem read_strayTree {name includes : String} (h : (name, includes) ∈ cycleFiles)
    (text : List UInt8) :
    FileStamp.read (strayTree text) .content (Place.toPath [name]) =
      .ok (includeOf includes, FileStamp.ofData (includeOf includes)) := by
  simp only [FileStamp.read, FileStamp.now, (hasCycle_strayTree text).readFile h, Except.map, bind,
    Except.bind]
  rfl

/-- The third file is changed, and the expansion is fresh and comes out the same. -/
theorem expand_strayTree :
    let s : SearchPath := { kind := .content }
    let fs := strayTree []
    let fs' := strayTree [32]
    fs ≠ fs' ∧ s.kind = .content ∧ SameLayout fs fs' ∧
      ∃ x, s.expand fs (Place.toPath ["a.h"]) (includeOf "b.h") = .ok x ∧
        x.dependencies = [Place.toPath ["b.h"]] ∧ x.stamps.freshness fs' = .fresh ∧
        (∀ p ∈ x.dependencies, ∀ text text', fs.readFile p = .ok text →
          fs'.readFile p = .ok text' → Blake3.hexDigest text = Blake3.hexDigest text' →
            text = text') ∧
        ∃ x', s.expand fs' (Place.toPath ["a.h"]) (includeOf "b.h") = .ok x' ∧
          x'.source = x.source ∧ x'.dependencies = x.dependencies := by
  intro s fs fs'
  have hforth : ("a.h", "b.h") ∈ cycleFiles := by decide
  have hback : ("b.h", "a.h") ∈ cycleFiles := by decide
  have hlayout : SameLayout fs fs' := (sameForms_strayTree [] [32]).sameLayout
  have hx : ∃ x, s.expand fs (Place.toPath ["a.h"]) (includeOf "b.h") = .ok x ∧
      x.dependencies = [Place.toPath ["b.h"]] :=
    ⟨_, congrArg (Except.map _) ((hasCycle_strayTree []).ofTasks (read_strayTree hback [])), rfl⟩
  rcases hx with ⟨x, hx, hdependencies⟩
  have hfresh : x.stamps.freshness fs' = .fresh := by
    apply (verdict_of_expand hx fs').fresh.2
    -- The header and the file put in have one text in both trees.
    rintro p stamp (⟨rfl, hnow⟩ | ⟨hp, text, hread⟩)
    · rw [FileStamp.now_of_read (read_strayTree hforth [])] at hnow
      rw [← hnow]
      exact FileStamp.now_of_read (read_strayTree hforth [32])
    · rw [hdependencies, List.mem_singleton] at hp
      subst hp
      rw [read_strayTree hback []] at hread
      cases hread
      exact FileStamp.now_of_read (read_strayTree hback [32])
  have hdigest : ∀ p ∈ x.dependencies, ∀ text text', fs.readFile p = .ok text →
      fs'.readFile p = .ok text' → Blake3.hexDigest text = Blake3.hexDigest text' →
        text = text' := by
    intro p hp text text' hread hread' _
    rw [hdependencies, List.mem_singleton] at hp
    subst hp
    rw [(hasCycle_strayTree []).readFile hback] at hread
    rw [(hasCycle_strayTree [32]).readFile hback] at hread'
    cases hread
    cases hread'
    rfl
  exact ⟨by decide, rfl, hlayout, x, hx, hdependencies, hfresh, hdigest,
    expand_of_fresh rfl hlayout hx hfresh hdigest⟩

end SearchPath
end BuildTrace
