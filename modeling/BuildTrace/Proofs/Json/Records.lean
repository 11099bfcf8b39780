import BuildTrace.Build.Outcome
import BuildTrace.Precompile.Encoding
import BuildTrace.Proofs.Json.Tree
import BuildTrace.Proofs.Precompile.Stamps

/-!
# Records — data that are written and read again

* `Json.Keeps` — what is written for a thing is exact, and stands for that thing;
* `Keeps.parse?_render`, `Keeps.parse?_pretty` — then its text stands for it, too;
* `fields?_record` — the fields of a record are found by their names;
* `Invocation.keeps`, `BuildOutcome.keeps`, `HeaderKey.keeps`, `FileStamp.keeps`,
  `StampTable.keeps` — commands, outcomes, keys, stamps and tables of stamps are kept.
-/

namespace BuildTrace
namespace Json

variable {α : Type} {write : α → Json} {read? : Json → Option α} {a : α}

/-- What is written for a thing is exact, and stands for that thing. -/
structure Keeps (write : α → Json) (read? : Json → Option α) (a : α) : Prop where
  exact : (write a).Exact
  read : read? (write a) = some a

/-- Every item of a row is read, and the results stay in order. -/
theorem mapM_map_eq_some {β γ δ : Type} {f : γ → Option δ} {w : β → γ} {g : β → δ} {items : List β}
    (h : ∀ b ∈ items, f (w b) = some (g b)) : (items.map w).mapM f = some (items.map g) := by
  induction items with
  | nil => rfl
  | cons b items ih =>
      have hmore := ih fun c hc => h c (List.mem_cons_of_mem b hc)
      simp [h b List.mem_cons_self, hmore]

namespace Keeps

theorem parse?_render (h : Keeps write read? a) :
    (parse? (write a).render).bind read? = some a := by
  simp [h.exact.parse?_render, h.read]

theorem parse?_pretty (h : Keeps write read? a) :
    (parse? (write a).pretty).bind read? = some a := by
  simp [h.exact.parse?_pretty, h.read]

/-! ## Plain data -/

theorem text (s : String) : Keeps Json.text text? s :=
  ⟨.text s, rfl⟩

theorem nat {n bound : Nat} (h : n < bound) : Keeps Json.nat (natBelow? bound) n :=
  ⟨.integer false n, by simp [Json.nat, natBelow?, h]⟩

theorem int {n : Int} {bits : Nat} (h : Number.fits bits n = true) :
    Keeps Json.int (intWithin? bits) n := by
  simp only [Number.fits, Bool.and_eq_true, decide_eq_true_eq] at h
  refine ⟨.integer _ _, ?_⟩
  by_cases hn : n < 0
  · have hsize : n ≠ 0 ∧ n.natAbs ≤ Number.limit (bits - 1) := by omega
    have hvalue : -(n.natAbs : Int) = n := by omega
    simpa [Json.int, hn, intWithin?, hsize] using hvalue
  · have hsize : n.natAbs < Number.limit (bits - 1) := by omega
    have hvalue : (n.natAbs : Int) = n := by omega
    simpa [Json.int, hn, intWithin?, hsize] using hvalue

theorem list {items : List α} (h : ∀ a ∈ items, Keeps write read? a) :
    Keeps (fun items => .array (items.map write)) (listOf? read?) items := by
  constructor
  · apply Exact.array
    intro v hv
    rcases List.mem_map.1 hv with ⟨a, ha, rfl⟩
    exact (h a ha).exact
  · have hread : (items.map write).mapM read? = some (items.map id) :=
      mapM_map_eq_some fun a ha => (h a ha).read
    simpa only [listOf?, List.map_id] using hread

theorem optional?_of_ne_null {v : Json} (h : v ≠ .null) :
    optional? read? (some v) = (read? v).map some := by
  cases v with
  | null => exact absurd rfl h
  | _ => rfl

/-- A field that may be missing, for things that are never written as `null`. -/
theorem option {a? : Option α} (h : ∀ a ∈ a?, Keeps write read? a)
    (hnull : ∀ a ∈ a?, write a ≠ .null) :
    Keeps (ofOption write) (fun v => optional? read? (some v)) a? := by
  cases a? with
  | none => exact ⟨.null, rfl⟩
  | some a =>
      refine ⟨(h a rfl).exact, ?_⟩
      simp [ofOption, optional?_of_ne_null (hnull a rfl), (h a rfl).read]

end Keeps

/-! ## Fields -/

theorem field?_record {m : String × Json} : ∀ {members : List (String × Json)},
    (members.map Prod.fst).Nodup → m ∈ members →
      field? (members.map fun (name, value) => (some name, value)) m.1 = some (some m.2) := by
  intro members
  induction members with
  | nil =>
      intro _ hm
      cases hm
  | cons m₀ members ih =>
      intro hnodup hm
      rcases List.nodup_cons.1 hnodup with ⟨hfirst, hrest⟩
      rcases List.mem_cons.1 hm with rfl | hm
      · -- None of the further members has the name of the first.
        have hother : ∀ m' ∈ members, m'.1 ≠ m.1 := by
          intro m' hm' hname
          exact hfirst (List.mem_map.2 ⟨m', hm', hname⟩)
        have hnone : (members.map fun (name, value) => (some name, value)).filter
            (fun m' : Option String × Json => m'.1 = some m.1) = [] := by
          rw [List.filter_map, List.map_eq_nil_iff, List.filter_eq_nil_iff]
          intro m' hm'
          simpa using hother m' hm'
        simp [field?, hnone]
      · have hname : m₀.1 ≠ m.1 := by
          intro hname
          exact hfirst (List.mem_map.2 ⟨m, hm, hname.symm⟩)
        simpa [field?, hname] using ih hrest hm

theorem fields?_record {members : List (String × Json)} {names : List String}
    (hnames : members.map Prod.fst = names) (hnodup : names.Nodup) (partly : Bool) :
    (record members).fields? partly names = some (members.map fun m => some m.2) := by
  subst hnames
  have hfields : (members.map Prod.fst).mapM
      (field? (members.map fun (name, value) => (some name, value))) =
        some (members.map fun m => some m.2) :=
    mapM_map_eq_some fun m hm => field?_record hnodup hm
  simpa [fields?, record] using hfields

end Json

theorem Path.keeps (p : Path) : Json.Keeps Path.toJson Path.ofJson? p :=
  ⟨.text p.spelling, rfl⟩

theorem Invocation.keeps (i : Invocation) : Json.Keeps toJson ofJson? i := by
  have hflags : Json.Keeps _ (Json.listOf? Json.text?) i.flags :=
    Json.Keeps.list fun flag _ => .text flag
  have houtput : Json.Keeps (Json.ofOption Path.toJson) _ i.output :=
    .option (fun p _ => p.keeps) (fun p _ h => by cases h)
  have hkind : ProductKind.ofJson? (.text i.kind.name) = some i.kind := by
    cases i.kind <;> rfl
  constructor
  · apply Json.Exact.record
    simp [(Path.keeps _).exact, Json.Exact.text, hflags.exact, houtput.exact]
  · have hread := houtput.read
    simp [ofJson?, toJson, Json.fields?_record, (Path.keeps _).read, (Json.Keeps.text _).read,
      hkind, hflags.read, hread]

/-- An outcome whose numbers are in their ranges. -/
structure BuildOutcome.Fits (s : BuildOutcome) : Prop where
  exitCode : ∀ code ∈ s.exitCode, Number.fits 32 code = true
  sourceCount : s.sourceCount < Number.limit 64
  pchCount : s.pchCount < Number.limit 64

theorem BuildOutcome.keeps {s : BuildOutcome} (h : s.Fits) : Json.Keeps toJson ofJson? s := by
  have hcode : Json.Keeps (Json.ofOption Json.int) _ s.exitCode :=
    .option (fun code hcode => .int (h.exitCode code hcode)) (fun code _ hnull => by cases hnull)
  have hsources : Json.Keeps Json.nat _ s.sourceCount := .nat h.sourceCount
  have hpchs : Json.Keeps Json.nat _ s.pchCount := .nat h.pchCount
  constructor
  · apply Json.Exact.record
    simp [Json.Exact.text, Json.Exact.bool, hcode.exact, hsources.exact, hpchs.exact]
  · have hread := hcode.read
    simp [ofJson?, toJson, Json.fields?_record, (Json.Keeps.text _).read, Json.bool?, hsources.read,
      hpchs.read, hread]

theorem HeaderKey.keeps (k : HeaderKey) : Json.Keeps toJson ofJson? k := by
  have hflags : Json.Keeps _ (Json.listOf? Json.text?) k.flags :=
    Json.Keeps.list fun flag _ => .text flag
  constructor
  · apply Json.Exact.record
    simp [(Path.keeps _).exact, Json.Exact.text, hflags.exact]
  · simp [ofJson?, toJson, Json.fields?_record, (Path.keeps _).read, (Json.Keeps.text _).read,
      hflags.read]

/-! ## Stamps -/

/-- A stamp whose time is in its range. -/
def FileStamp.Fits : FileStamp → Prop
  | .modified time => time < Number.limit 64
  | .content _ => True

theorem FileStamp.keeps {stamp : FileStamp} (h : stamp.Fits) :
    Json.Keeps toJson ofJson? stamp := by
  cases stamp with
  | modified time =>
      have htime : Json.Keeps Json.nat _ time := .nat h
      constructor
      · apply Json.Exact.record
        simp [htime.exact]
      · simp [ofJson?, toJson, Json.record, Json.variant?, htime.read]
  | content digest =>
      constructor
      · apply Json.Exact.record
        simp [Json.Exact.text]
      · simp [ofJson?, toJson, Json.record, Json.variant?, (Json.Keeps.text _).read]

namespace StampTable

/-- A path that comes after all keys is put behind them. -/
theorem insertEntry_of_sorted {e : Path × FileStamp} : ∀ {entries : List (Path × FileStamp)},
    Sorted (entries ++ [e]) → insertEntry e.1 e.2 entries = entries ++ [e] := by
  intro entries
  induction entries with
  | nil =>
      intro _
      rfl
  | cons e₀ entries ih =>
      intro hsorted
      rcases List.pairwise_cons.1 hsorted with ⟨hfirst, hrest⟩
      have hbefore : e₀.1.precedes e.1 = true := hfirst e (by simp)
      have hdiffer : ¬ e.1.Same e₀.1 := fun hsame => Path.not_same_of_precedes hbefore hsame.symm
      have hnot : ¬ e.1.precedes e₀.1 = true := by
        intro hafter
        exact Path.not_same_of_precedes (Path.precedes_trans hbefore hafter) (.refl _)
      simp [insertEntry, hdiffer, hnot, ih hrest]

theorem insertAll_append_of_sorted : ∀ {entries known : List (Path × FileStamp)},
    Sorted (known ++ entries) →
      insertAll { entries := known } entries = { entries := known ++ entries } := by
  intro entries
  induction entries with
  | nil =>
      intro known _
      simp [insertAll]
  | cons e entries ih =>
      intro known hsorted
      have hsplit : known ++ e :: entries = (known ++ [e]) ++ entries := by simp
      rw [hsplit] at hsorted ⊢
      have hknown : Sorted (known ++ [e]) := (List.pairwise_append.1 hsorted).1
      have hinsert : insert { entries := known } e.1 e.2 = { entries := known ++ [e] } := by
        simp [insert, insertEntry_of_sorted hknown]
      simpa [insertAll, hinsert] using ih hsorted

/-- A row that is in order is the table of its entries. -/
theorem insertAll_of_sorted {t : StampTable} (h : Sorted t.entries) :
    insertAll {} t.entries = t := by
  have hall : Sorted ([] ++ t.entries) := h
  simpa using insertAll_append_of_sorted hall

theorem keeps {t : StampTable} (hsorted : Sorted t.entries) (hfits : ∀ e ∈ t.entries, e.2.Fits) :
    Json.Keeps toJson ofJson? t := by
  have hentries : (t.entries.map fun e => (some e.1.spelling, e.2.toJson)).mapM entryOfJson? =
      some (t.entries.map id) := by
    apply Json.mapM_map_eq_some
    intro e he
    simp [entryOfJson?, (FileStamp.keeps (hfits e he)).read]
  constructor
  · apply Json.Exact.record
    intro m hm
    rw [List.mem_singleton.1 hm]
    apply Json.Exact.record
    intro m hm
    rcases List.mem_map.1 hm with ⟨e, he, rfl⟩
    exact (FileStamp.keeps (hfits e he)).exact
  · have hrecord : Json.record (t.entries.map fun e => (e.1.spelling, e.2.toJson)) =
        .object (t.entries.map fun e => (some e.1.spelling, e.2.toJson)) := by
      simp [Json.record]
    rw [List.map_id] at hentries
    simp [ofJson?, toJson, Json.fields?_record, hrecord, hentries, insertAll_of_sorted hsorted]

end StampTable

end BuildTrace
