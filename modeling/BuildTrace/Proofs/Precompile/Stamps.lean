import BuildTrace.Precompile.Stamp
import BuildTrace.Proofs.Path.Order
import Mathlib.Data.List.Perm.Basic

/-!
# Stamps — the keys of a table, and the verdict on it

* `StampTable.insertEntry_perm` — a path that is new to a table becomes one more key;
* `StampTable.insertAll_perm` — so do all of a row of paths that are new and differ;
* `StampTable.sorted_insertAll` — the keys of a table stand in order;
* `StampTable.freshness_eq_fresh_iff`, `of_freshness_eq_stale` — what the verdict says.
-/

namespace BuildTrace

theorem FileStamp.kind_of_now {fs : FileSystem} {kind : StampKind} {p : Path} {stamp : FileStamp}
    (h : FileStamp.now fs kind p = .ok stamp) : stamp.kind = kind := by
  unfold now at h
  cases kind with
  | mtime =>
      cases hmodified : fs.modified p with
      | error e => simp [hmodified, Except.map] at h
      | ok time =>
          simp only [hmodified, Except.map, Except.ok.injEq] at h
          rw [← h]
          rfl
  | content =>
      cases hread : fs.readFile p with
      | error e => simp [hread, Except.map] at h
      | ok data =>
          simp only [hread, Except.map, Except.ok.injEq] at h
          rw [← h]
          rfl

namespace StampTable

/-! ## Keys -/

theorem insertEntry_perm {p : Path} (stamp : FileStamp) : ∀ {entries : List (Path × FileStamp)},
    (∀ e ∈ entries, ¬ p.Same e.1) →
      (insertEntry p stamp entries).Perm ((p, stamp) :: entries) := by
  intro entries
  induction entries with
  | nil =>
      intro _
      exact .refl _
  | cons e rest ih =>
      intro hnew
      rcases e with ⟨q, old⟩
      have hq : ¬ p.Same q := hnew (q, old) List.mem_cons_self
      have hrest : (insertEntry p stamp rest).Perm ((p, stamp) :: rest) :=
        ih fun e he => hnew e (List.mem_cons_of_mem _ he)
      rw [insertEntry, if_neg hq]
      split
      · exact .refl _
      · exact (hrest.cons (q, old)).trans (.swap _ _ _)

/-- Paths that differ from each other and from the keys become keys. -/
theorem insertAll_perm : ∀ (entries : List (Path × FileStamp)) (t : StampTable),
    (t.entries ++ entries).Pairwise (fun e e' => ¬ e.1.Same e'.1) →
      (insertAll t entries).entries.Perm (t.entries ++ entries) := by
  intro entries
  induction entries with
  | nil =>
      intro t _
      rw [List.append_nil]
      exact .refl _
  | cons e rest ih =>
      intro t hdistinct
      have hnew : ∀ e' ∈ t.entries, ¬ e.1.Same e'.1 := by
        intro e' he' hsame
        have hcross := (List.pairwise_append.1 hdistinct).2.2 e' he' e List.mem_cons_self
        exact hcross hsame.symm
      have hinsert : (t.insert e.1 e.2).entries.Perm (e :: t.entries) := insertEntry_perm e.2 hnew
      -- The first path goes to its place among the keys, so the rest meets a table that has it.
      have hmove : (t.entries ++ e :: rest).Perm ((t.insert e.1 e.2).entries ++ rest) :=
        List.perm_middle.trans (hinsert.symm.append_right rest)
      have hdiffer : ∀ {x y : Path × FileStamp}, ¬ x.1.Same y.1 → ¬ y.1.Same x.1 :=
        fun h hsame => h hsame.symm
      have hlater : (insertAll (t.insert e.1 e.2) rest).entries.Perm
          ((t.insert e.1 e.2).entries ++ rest) := ih _ (hmove.pairwise hdistinct hdiffer)
      exact hlater.trans hmove.symm

/-! ## Order -/

/-- The keys stand in order. -/
def Sorted (entries : List (Path × FileStamp)) : Prop :=
  entries.Pairwise fun e e' => e.1.precedes e'.1 = true

theorem mem_insertEntry {p : Path} {stamp : FileStamp} {e : Path × FileStamp} :
    ∀ {entries : List (Path × FileStamp)}, e ∈ insertEntry p stamp entries →
      e.1 = p ∨ ∃ e' ∈ entries, e.1 = e'.1 := by
  intro entries
  induction entries with
  | nil =>
      intro he
      exact Or.inl (congrArg Prod.fst (List.mem_singleton.1 he))
  | cons e₀ rest ih =>
      intro he
      rcases e₀ with ⟨q, old⟩
      rw [insertEntry] at he
      split at he
      · rcases List.mem_cons.1 he with rfl | he
        · exact Or.inr ⟨(q, old), List.mem_cons_self, rfl⟩
        · exact Or.inr ⟨e, List.mem_cons_of_mem _ he, rfl⟩
      · split at he
        · rcases List.mem_cons.1 he with rfl | he
          · exact Or.inl rfl
          · exact Or.inr ⟨e, he, rfl⟩
        · rcases List.mem_cons.1 he with rfl | he
          · exact Or.inr ⟨(q, old), List.mem_cons_self, rfl⟩
          · rcases ih he with hp | ⟨e', he', heq⟩
            · exact Or.inl hp
            · exact Or.inr ⟨e', List.mem_cons_of_mem _ he', heq⟩

theorem sorted_insertEntry (p : Path) (stamp : FileStamp) :
    ∀ {entries : List (Path × FileStamp)}, Sorted entries → Sorted (insertEntry p stamp entries) := by
  intro entries
  induction entries with
  | nil =>
      intro _
      exact List.pairwise_singleton _ _
  | cons e₀ rest ih =>
      intro hsorted
      rcases e₀ with ⟨q, old⟩
      rcases List.pairwise_cons.1 hsorted with ⟨hfirst, hrest⟩
      rw [insertEntry]
      split
      · exact List.pairwise_cons.2 ⟨hfirst, hrest⟩
      · next hdiffer =>
          split
          · next hbefore =>
              -- The new key comes before the first, and so before all others.
              apply List.pairwise_cons.2
              refine ⟨?_, hsorted⟩
              intro e he
              rcases List.mem_cons.1 he with rfl | he
              · exact hbefore
              · exact Path.precedes_trans hbefore (hfirst e he)
          · next hnot =>
              -- The first key stays in front: it precedes the new one and all others.
              have hq : q.precedes p = true := Path.precedes_of_not_precedes hdiffer hnot
              apply List.pairwise_cons.2
              refine ⟨?_, ih hrest⟩
              intro e he
              rcases mem_insertEntry he with hp | ⟨e', he', heq⟩
              · rw [hp]
                exact hq
              · rw [heq]
                exact hfirst e' he'

theorem sorted_insertAll : ∀ (entries : List (Path × FileStamp)) (t : StampTable),
    Sorted t.entries → Sorted (insertAll t entries).entries := by
  intro entries
  induction entries with
  | nil =>
      intro t ht
      exact ht
  | cons e rest ih =>
      intro t ht
      exact ih (t.insert e.1 e.2) (sorted_insertEntry e.1 e.2 ht)

/-! ## The verdict -/

variable {fs : FileSystem} {t : StampTable} {e : Path × FileStamp}

theorem isCurrent_iff : isCurrent fs e = true ↔ FileStamp.now fs e.2.kind e.1 = .ok e.2 := by
  unfold isCurrent
  cases hnow : FileStamp.now fs e.2.kind e.1 with
  | error cause => simp
  | ok stamp => simp

theorem freshness_eq_fresh_iff :
    t.freshness fs = .fresh ↔ ∀ e ∈ t.entries, isCurrent fs e = true := by
  unfold freshness
  split
  · next hnone => simpa using hnone
  · next p ps hsome =>
      have hmem : p ∈ (t.entries.filter fun e => !isCurrent fs e).map Prod.fst := by
        rw [hsome]
        exact List.mem_cons_self
      rcases List.mem_map.1 hmem with ⟨e, he, -⟩
      rcases List.mem_filter.1 he with ⟨hentry, hchanged⟩
      constructor
      · intro h
        cases h
      · intro hall
        simp [hall e hentry] at hchanged

/-- A table that is not fresh is stale, with the paths that have another stamp. -/
theorem of_freshness_eq_stale {paths : List Path} (h : t.freshness fs = .stale paths) :
    paths ≠ [] ∧ paths = (t.entries.filter fun e => !isCurrent fs e).map Prod.fst := by
  unfold freshness at h
  split at h
  · cases h
  · next p ps hsome =>
      cases h
      exact ⟨List.cons_ne_nil p ps, hsome.symm⟩

end StampTable
end BuildTrace
