import BuildTrace.Proofs.Toml.Documents
import BuildTrace.Settings.Source

/-!
# Layers — a document on its own as settings

A layer goes over what there is by the steps of its names, without regard to capital letters, and
its tables are merged into those below. With nothing below, and plain names only, all of that
changes nothing:

* `IsPlainName` — a name that is a path of one step, and has no capital letters;
* `Raw.layer_eq_entriesOnTop`, `Raw.entriesOnTop_append` — entries that are new are put behind the
  others;
* `Toml.Sheet.raw` — what a document sets;
* `Toml.Sheet.ofTomlText_textWithout` — a text that is left of a document is read as what is left;
* `Toml.Sheet.lookup_raw_without`, `lookup_sectionWithout` — what is found there.
-/

namespace BuildTrace

/-- A name that is a path of one step, and has no capital letters. -/
def IsPlainName (name : String) : Prop :=
  Text.lower name = name ∧ SettingPath.ofName name = { first := name, steps := [] }

instance (name : String) : Decidable (IsPlainName name) :=
  inferInstanceAs (Decidable (_ ∧ _))

namespace Raw

variable {name : String} {entries old : List (String × Raw)}

theorem alter_append_of_not_mem (f : Option Raw → Raw) (h : name ∉ old.map Prod.fst) :
    alter name f old = old ++ [(name, f none)] := by
  induction old with
  | nil => rfl
  | cons e old ih =>
      have hne : e.1 ≠ name := fun hname => h (by simp [hname])
      have hmore : name ∉ old.map Prod.fst := fun hmem => h (by simp [hmem])
      simp [alter, hne, ih hmore]

/-- Entries that are new to a table come behind the others. -/
theorem entriesOnTop_append : ∀ {entries old : List (String × Raw)},
    (old.map Prod.fst ++ entries.map Prod.fst).Nodup → (∀ e ∈ entries, IsPlainName e.1) →
      entriesOnTop entries old = old ++ entries.map fun e => (e.1, onTop e.2 none) := by
  intro entries
  induction entries with
  | nil =>
      intro old _ _
      simp [entriesOnTop]
  | cons e entries ih =>
      intro old hnodup hplain
      have hname := (hplain e List.mem_cons_self).1
      have hnew : e.1 ∉ old.map Prod.fst := Toml.not_mem_of_nodup hnodup
      have hmore : entriesOnTop entries (old ++ [(e.1, onTop e.2 none)]) =
          old ++ [(e.1, onTop e.2 none)] ++ entries.map fun e => (e.1, onTop e.2 none) :=
        ih (by simpa using hnodup) fun e' he' => hplain e' (List.mem_cons_of_mem e he')
      simpa [entriesOnTop, hname, alter_append_of_not_mem _ hnew] using hmore

theorem layer_eq_entriesOnTop : ∀ {entries old : List (String × Raw)},
    (∀ e ∈ entries, IsPlainName e.1) → layer entries old = entriesOnTop entries old := by
  intro entries
  induction entries with
  | nil =>
      intro old _
      simp [layer, entriesOnTop]
  | cons e entries ih =>
      intro old hplain
      have hname := hplain e List.mem_cons_self
      have hset : setAt e.2 [] = onTop e.2 := by
        funext old
        simp [setAt]
      have hmore : layer entries (alter e.1 (onTop e.2) old) =
          entriesOnTop entries (alter e.1 (onTop e.2) old) :=
        ih fun e' he' => hplain e' (List.mem_cons_of_mem e he')
      simpa [layer, entriesOnTop, hname.1, hname.2, hset] using hmore

theorem ofTomlEntries_eq (origin : Option String) (entries : List (String × Toml.Value)) :
    ofTomlEntries origin entries = entries.map fun e => (e.1, ofToml origin e.2) := by
  induction entries with
  | nil => rfl
  | cons e entries ih => simp [ofTomlEntries, ih]

end Raw

namespace Toml.Sheet

/-- What an entry sets. -/
def rawEntry (e : Entry) : String × Raw :=
  (e.name, .ofToml none e.value)

@[simp] theorem rawEntry_string (name : String) (bare : IsBare name) (s : String) :
    rawEntry (.string name bare s) = (name, .scalar none (.text s)) := rfl

@[simp] theorem rawEntry_number (name : String) (bare : IsBare name) (n : Nat)
    (h : n < Number.limit 63) :
    rawEntry (.number name bare n h) = (name, .scalar none (.integer n)) := rfl

@[simp] theorem rawEntry_strings (name : String) (bare : IsBare name) (items : List String) :
    rawEntry (.strings name bare items) =
      (name, .array none (items.map fun s => .scalar none (.text s))) := by
  have hitems : Raw.ofTomlItems none (items.map .string) =
      items.map fun s => .scalar none (.text s) := by
    induction items with
    | nil => rfl
    | cons s items ih => simp [Raw.ofTomlItems, Raw.ofToml, ih]
  simp [rawEntry, Entry.strings, Raw.ofToml, hitems]

/-- What a section sets. -/
def rawSection (t : Section) : String × Raw :=
  (t.name, .table none (t.entries.map rawEntry))

/-- What the document sets. -/
def raw (s : Sheet) : List (String × Raw) :=
  s.entries.map rawEntry ++ s.sections.map rawSection

/-- All names are paths of one step, without capital letters. -/
structure IsPlain (s : Sheet) : Prop where
  entries : ∀ e ∈ s.entries, IsPlainName e.name
  sections : ∀ t ∈ s.sections, IsPlainName t.name ∧ ∀ e ∈ t.entries, IsPlainName e.name

theorem onTop_rawEntry (e : Entry) : Raw.onTop (rawEntry e).2 none = (rawEntry e).2 := by
  cases hv : e.value with
  | table entries => exact absurd hv (e.flat entries)
  | _ => simp [rawEntry, hv, Raw.ofToml, Raw.onTop]

theorem onTop_rawSection {t : Section} (h : ∀ e ∈ t.entries, IsPlainName e.name) :
    Raw.onTop (rawSection t).2 none = (rawSection t).2 := by
  have hnodup : (([] : List (String × Raw)).map Prod.fst ++
      (t.entries.map rawEntry).map Prod.fst).Nodup := by
    simpa [Function.comp_def, rawEntry] using t.distinct
  have hplain : ∀ e ∈ t.entries.map rawEntry, IsPlainName e.1 := by
    intro e he
    rcases List.mem_map.1 he with ⟨e, hmem, rfl⟩
    exact h e hmem
  have hentries := Raw.entriesOnTop_append hnodup hplain
  simp [rawSection, Raw.onTop, hentries, Function.comp_def, onTop_rawEntry]

theorem ofTomlEntries_values (s : Sheet) : Raw.ofTomlEntries none s.values = s.raw := by
  have hsection : ∀ t : Section,
      (t.name, Raw.ofToml none (.table (t.entries.map fun e => (e.name, e.value)))) =
        rawSection t := by
    intro t
    simp [rawSection, rawEntry, Raw.ofToml, Raw.ofTomlEntries_eq]
  rw [Raw.ofTomlEntries_eq, values, raw, List.map_append, List.map_map, List.map_map]
  congr 1
  exact List.map_congr_left fun t _ => hsection t

/-- A document on its own, with plain names, sets what its lines say. -/
theorem ofLayers_values {s : Sheet} (h : s.IsPlain) :
    Settings.ofLayers [Raw.ofTomlEntries none s.values] = Settings.ofRaw (.table none s.raw) := by
  -- No table is merged into another one, so each entry stays as it is.
  have hraw : ∀ e ∈ s.raw, IsPlainName e.1 ∧ (e.1, Raw.onTop e.2 none) = id e := by
    intro e he
    rcases List.mem_append.1 he with he | he
    · rcases List.mem_map.1 he with ⟨e, hmem, rfl⟩
      exact ⟨h.entries e hmem, Prod.ext rfl (onTop_rawEntry e)⟩
    · rcases List.mem_map.1 he with ⟨t, hmem, rfl⟩
      have ht := h.sections t hmem
      exact ⟨ht.1, Prod.ext rfl (onTop_rawSection ht.2)⟩
  have hplain : ∀ e ∈ s.raw, IsPlainName e.1 := fun e he => (hraw e he).1
  have hkept : (s.raw.map fun e => (e.1, Raw.onTop e.2 none)) = s.raw :=
    (List.map_congr_left fun e he => (hraw e he).2).trans (List.map_id s.raw)
  have hnodup : (([] : List (String × Raw)).map Prod.fst ++ s.raw.map Prod.fst).Nodup := by
    simpa [raw, Function.comp_def, rawEntry, rawSection] using s.distinct
  have htop : Raw.entriesOnTop s.raw [] = s.raw := by
    simpa [hkept] using Raw.entriesOnTop_append hnodup hplain
  simp [Settings.ofLayers, ofTomlEntries_values, Raw.layer_eq_entriesOnTop hplain, htop]

/-- What a text is read as that consists of the lines of a document. -/
theorem ofTomlText_textWithout {s : Sheet} (deleted : Key → Bool)
    (h : (s.without deleted).IsPlain) :
    Settings.ofTomlText (textWithout deleted s.pieces) =
      Settings.ofRaw (.table none (s.without deleted).raw) := by
  simp [Settings.ofTomlText, FileFormat.layer?, parse?_textWithout, ofLayers_values h]

theorem IsPlain.without {s : Sheet} (h : s.IsPlain) (deleted : Key → Bool) :
    (s.without deleted).IsPlain := by
  constructor
  · intro e he
    exact h.entries e (List.mem_filter.1 he).1
  · intro t ht
    rcases List.mem_map.1 ht with ⟨t, hmem, rfl⟩
    have ht := h.sections t (List.mem_filter.1 hmem).1
    exact ⟨ht.1, fun e he => ht.2 e (List.mem_filter.1 he).1⟩

/-! ## Finding entries -/

theorem lookup_filter_map {α : Type} (name : α → String) (isGone : String → Bool) (f : α → Raw)
    (n : String) (l : List α) :
    ((l.filter fun a => !isGone (name a)).map fun a => (name a, f a)).lookup n =
      if isGone n then none else (l.map fun a => (name a, f a)).lookup n := by
  induction l with
  | nil => simp
  | cons a l ih =>
      by_cases hname : n = name a
      · subst hname
        cases hgone : isGone (name a) with
        | true => simpa [hgone] using ih
        | false => simp [hgone]
      · have hbeq : (n == name a) = false := by simpa using hname
        cases hgone : isGone (name a) <;> simp [hgone, hbeq, ih, List.lookup_cons]

variable (deleted : Key → Bool)

/-- A key at the top that is not deleted is found as before. -/
theorem lookup_raw_without (s : Sheet) (n : String) :
    (s.without deleted).raw.lookup n =
      if deleted (.top n) then none
      else ((s.entries.map rawEntry).lookup n).or
        ((s.sections.map fun t => rawSection (sectionWithout deleted t)).lookup n) := by
  have hentries : ((s.without deleted).entries.map rawEntry).lookup n =
      if deleted (.top n) then none else (s.entries.map rawEntry).lookup n :=
    lookup_filter_map Entry.name (fun n => deleted (.top n)) (fun e => (rawEntry e).2) n s.entries
  have hsections : ((s.without deleted).sections.map rawSection).lookup n =
      if deleted (.top n) then none
      else (s.sections.map fun t => rawSection (sectionWithout deleted t)).lookup n := by
    rw [without, List.map_map]
    exact lookup_filter_map Section.name (fun n => deleted (.top n))
      (fun t => (rawSection (sectionWithout deleted t)).2) n s.sections
  rw [raw, List.lookup_append, hentries, hsections]
  split <;> rfl

/-- A key inside a table that is not deleted is found as before. -/
theorem lookup_sectionWithout (t : Section) (n : String) :
    ((sectionWithout deleted t).entries.map rawEntry).lookup n =
      if deleted (.inside t.name n) then none else (t.entries.map rawEntry).lookup n :=
  lookup_filter_map Entry.name (fun n => deleted (.inside t.name n)) (fun e => (rawEntry e).2) n
    t.entries

end Toml.Sheet
end BuildTrace
