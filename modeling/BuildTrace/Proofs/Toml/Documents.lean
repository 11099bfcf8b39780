import BuildTrace.Proofs.Toml.Values
import Mathlib.Data.List.Nodup

/-!
# Documents — tables are read back line by line

* `Entry` — a name with a value that is read back from its text; `Entry.string`, `strings` and
  `number` make one;
* `Sheet` — a document: entries, and behind them sections with entries of their own;
* `Document.step?_line`, `Document.lines?_entries` — a line adds its entry to the table that is
  open, and so do the lines behind it;
* `Sheet.parse?_text` — a document is read back from its lines;
* `Sheet.parse?_textWithout` — and so is what is left of it when keys are deleted.

All names are bare, so a name ends where its line goes on, and no name is written twice in a table.
-/

namespace BuildTrace
namespace Toml

/-! ## Names -/

/-- A name that needs no quotes. -/
def IsBare (name : String) : Prop :=
  name.toList ≠ [] ∧ ∀ c ∈ name.toList, isBareChar c = true

instance (name : String) : Decidable (IsBare name) :=
  -- One character after the other: all that are in the name, not all that there are.
  decidable_of_iff ((!name.toList.isEmpty && name.toList.all isBareChar) = true) (by simp [IsBare])

variable {name : String} {rest : List Char}

theorem IsBare.exists_cons (h : IsBare name) :
    ∃ c cs, name.toList = c :: cs ∧ isBareChar c = true := by
  rcases List.exists_cons_of_ne_nil h.1 with ⟨c, cs, hname⟩
  exact ⟨c, cs, hname, h.2 c (hname ▸ List.mem_cons_self)⟩

theorem ne_of_isBareChar {c d : Char} (hc : isBareChar c = true) (hd : isBareChar d = false) :
    c ≠ d := by
  rintro rfl
  simp [hc] at hd

theorem keyPart?_append (h : IsBare name) (hrest : ∀ c ∈ rest.head?, isBareChar c = false) :
    keyPart? (name.toList ++ rest) = some (name, rest) := by
  have htake := Text.takeWhile_append h.2 hrest
  have hdrop := Text.dropWhile_append h.2 hrest
  rcases h.exists_cons with ⟨c, cs, hname, hc⟩
  rw [keyPart?]
  · simp only [htake, hdrop]
    simp [h.1]
  all_goals
    intro tail heq
    rw [hname] at heq
    exact ne_of_isBareChar hc rfl (List.cons.inj heq).1

/-- No blanks stand in front of a name. -/
theorem IsBare.skipBlanks_append (h : IsBare name) (rest : List Char) :
    skipBlanks (name.toList ++ rest) = name.toList ++ rest := by
  rcases h.exists_cons with ⟨c, cs, hname, hc⟩
  have hblank : c ≠ ' ' := ne_of_isBareChar hc rfl
  have htab : c ≠ '\t' := ne_of_isBareChar hc rfl
  simp [hname, skipBlanks, isBlank, hblank, htab]

theorem keyParts?_append (h : IsBare name) (hrest : ∀ c ∈ rest.head?, isBareChar c = false)
    (hdot : (skipBlanks rest).head? ≠ some '.') :
    keyParts? (name.toList ++ rest) = some ([name], skipBlanks rest) := by
  have hpart : keyPart? (skipBlanks (name.toList ++ rest)) = some (name, rest) := by
    rw [h.skipBlanks_append]
    exact keyPart?_append h hrest
  rw [keyParts?]
  split
  · next hnone =>
      rw [hpart] at hnone
      cases hnone
  · next part behind hread =>
      cases hpart.symm.trans hread
      split
      · next tail htail =>
          rw [htail] at hdot
          exact absurd rfl hdot
      · rfl

theorem key?_append (h : IsBare name) (hrest : ∀ c ∈ rest.head?, isBareChar c = false)
    (hdot : (skipBlanks rest).head? ≠ some '.') :
    key? (name.toList ++ rest) = some (([], name), skipBlanks rest) := by
  simp [key?, keyParts?_append h hrest hdot, depthLimit]

/-! ## Lines -/

/-- An entry of a table, as it is written: its name needs no quotes, and its value is read back
from the text. -/
structure Entry where
  name : String
  text : List Char
  value : Value
  bare : IsBare name
  begins : ∃ c cs, text = c :: cs ∧ isBlank c = false
  read : ∀ rest, documentValues.read? (text ++ '\n' :: rest) = some (value, '\n' :: rest)
  settled : value.settle? = some value
  flat : ∀ entries, value ≠ .table entries

namespace Entry

/-- The line of an entry. -/
def line (e : Entry) : List Char :=
  e.name.toList ++ " = ".toList ++ e.text ++ ['\n']

/-- What a line adds to a table. -/
def node (e : Entry) : String × Node :=
  (e.name, .value e.value)

/-- A string under a name. -/
def string (name : String) (bare : IsBare name) (s : String) : Entry where
  name := name
  text := stringText s
  value := .string s
  bare := bare
  begins := by
    rcases exists_stringText s with ⟨c, cs, hs, rfl | rfl⟩ <;> exact ⟨_, cs, hs, rfl⟩
  read rest := read?_stringText depthLimit s (ends_cons (by decide) rest)
  settled := rfl
  flat := by simp

/-- A list of strings under a name. -/
def strings (name : String) (bare : IsBare name) (items : List String) : Entry where
  name := name
  text := stringsText items
  value := .array (items.map .string)
  bare := bare
  begins := by
    rcases items with _ | ⟨s, _ | ⟨t, items⟩⟩ <;> exact ⟨_, _, rfl, rfl⟩
  read rest := read?_stringsText 78 items ('\n' :: rest)
  settled := by
    have hitems : settleItems? (items.map .string) = some (items.map .string) := by
      induction items with
      | nil => rfl
      | cons s items ih => simp [settleItems?, Value.settle?, ih]
    simp [Value.settle?, hitems]
  flat := by simp

/-- A natural number of 63 bits under a name. -/
def number (name : String) (bare : IsBare name) (n : Nat) (h : n < Number.limit 63) : Entry where
  name := name
  text := Nat.toDigits 10 n
  value := .integer n
  bare := bare
  begins := by
    have hsome : Nat.toDigits 10 n ≠ [] := Nat.toDigits_ne_nil
    rcases List.exists_cons_of_ne_nil hsome with ⟨c, cs, hdigits⟩
    have hc : c.isDigit = true := Number.isDigit_of_mem_toDigits (hdigits ▸ List.mem_cons_self)
    have hblank : c ≠ ' ' := by rintro rfl; cases hc
    have htab : c ≠ '\t' := by rintro rfl; cases hc
    exact ⟨c, cs, hdigits, by simp [isBlank, hblank, htab]⟩
  read rest := read?_toDigits depthLimit h (ends_cons (by decide) rest)
  settled := rfl
  flat := by simp

@[simp] theorem string_name (bare : IsBare name) (s : String) :
    (string name bare s).name = name := rfl

@[simp] theorem strings_name (bare : IsBare name) (items : List String) :
    (strings name bare items).name = name := rfl

@[simp] theorem number_name (bare : IsBare name) {n : Nat} (h : n < Number.limit 63) :
    (number name bare n h).name = name := rfl

end Entry

theorem assignment?_line (e : Entry) (rest : List Char) :
    assignment? documentValues (e.line ++ rest) = some (([], e.name, e.value), '\n' :: rest) := by
  have hkey : key? (e.name.toList ++ ' ' :: '=' :: ' ' :: (e.text ++ '\n' :: rest)) =
      some (([], e.name), '=' :: ' ' :: (e.text ++ '\n' :: rest)) := by
    refine key?_append e.bare ?_ ?_
    · rintro c ⟨⟩
      rfl
    · simp [skipBlanks, isBlank]
  have hskip : skipBlanks (' ' :: (e.text ++ '\n' :: rest)) = e.text ++ '\n' :: rest := by
    rcases e.begins with ⟨c, cs, htext, hc⟩
    have hblank : isBlank ' ' = true := rfl
    simp [skipBlanks, htext, hc, hblank]
  have hline : e.line ++ rest =
      e.name.toList ++ ' ' :: '=' :: ' ' :: (e.text ++ '\n' :: rest) := by
    simp [Entry.line]
  simp [hline, assignment?, hkey, hskip, e.read]

namespace Document

theorem step?_line (d : Document) (e : Entry) (rest : List Char) :
    d.step? (e.line ++ rest) = (d.define? [] e.name e.value).map fun d => (d, rest) := by
  have hskip : skipBlanks (e.line ++ rest) = e.line ++ rest := by
    simpa [Entry.line] using e.bare.skipBlanks_append (" = ".toList ++ e.text ++ '\n' :: rest)
  have hassignment := assignment?_line e rest
  rcases e.bare.exists_cons with ⟨c, cs, hname, hc⟩
  have hcons : ∃ tail, e.line ++ rest = c :: tail := ⟨_, by simp [Entry.line, hname]; rfl⟩
  rcases hcons with ⟨tail, htail⟩
  rw [htail] at hskip hassignment ⊢
  have hne : c ≠ '[' ∧ c ≠ '#' ∧ c ≠ '\n' ∧ c ≠ '\r' :=
    ⟨ne_of_isBareChar hc rfl, ne_of_isBareChar hc rfl, ne_of_isBareChar hc rfl,
      ne_of_isBareChar hc rfl⟩
  have hend : lineEnd? ('\n' :: rest) = some rest := rfl
  cases hdefine : d.define? [] e.name e.value <;>
    simp [step?, hskip, hne, hassignment, hend, hdefine]

/-- A line is read when it is the first of a text. -/
theorem lines?_of_step? {d d' : Document} {cs rest : List Char} (hsome : cs ≠ [])
    (h : d.step? cs = some (d', rest)) : d.lines? cs = d'.lines? rest := by
  rcases List.exists_cons_of_ne_nil hsome with ⟨c, tail, rfl⟩
  rw [lines?]
  split
  · next hnone =>
      rw [h] at hnone
      cases hnone
  · next hread =>
      cases h.symm.trans hread
      rfl

theorem step?_blankLine (d : Document) (rest : List Char) :
    d.step? ('\n' :: rest) = some (d, rest) := by
  have hend : lineEnd? ('\n' :: rest) = some rest := rfl
  simp [step?, skipBlanks, isBlank, hend]

theorem step?_header (d : Document) (h : IsBare name) (rest : List Char) :
    d.step? ('[' :: (name.toList ++ ']' :: '\n' :: rest)) =
      (Node.open? [] name d.root).map fun root => ({ root := root, header := [name] }, rest) := by
  have hkey : key? (name.toList ++ ']' :: '\n' :: rest) =
      some (([], name), ']' :: '\n' :: rest) := by
    refine key?_append h ?_ ?_
    · rintro c ⟨⟩
      rfl
    · simp [skipBlanks, isBlank]
  have hend : lineEnd? ('\n' :: rest) = some rest := rfl
  have hheader : d.header? (name.toList ++ ']' :: '\n' :: rest) =
      (Node.open? [] name d.root).map fun root => ({ root := root, header := [name] }, rest) := by
    rw [header?]
    · cases hopen : Node.open? [] name d.root <;> simp [hkey, hend, hopen]
    · intro tail heq
      rcases h.exists_cons with ⟨c, cs, hname, hc⟩
      rw [hname] at heq
      exact ne_of_isBareChar hc rfl (List.cons.inj heq).1
  simp [step?, skipBlanks, isBlank, hheader]

end Document

/-! ## Tables -/

section Tables

variable {entries front inner : List (String × Node)} {table : String} {n : Node} {v : Value}

theorem lookup_eq_none {α : Type} {l : List (String × α)} (h : name ∉ l.map Prod.fst) :
    l.lookup name = none := by
  rw [List.lookup_eq_none_iff]
  intro e he
  have hne : name ≠ e.1 := by
    rintro rfl
    exact h (List.mem_map_of_mem he)
  simpa using hne

theorem not_mem_of_nodup {names more : List String} (h : (names ++ name :: more).Nodup) :
    name ∉ names := by
  intro hmem
  exact (List.nodup_append.1 h).2.2 name hmem name List.mem_cons_self rfl

theorem lookup_append_singleton (h : name ∉ front.map Prod.fst) :
    (front ++ [(name, n)]).lookup name = some n := by
  simp [List.lookup_append, lookup_eq_none h]

theorem put_append (h : name ∉ front.map Prod.fst) (n : Node) (entries : List (String × Node)) :
    Node.put name n (front ++ entries) = front ++ Node.put name n entries := by
  induction front with
  | nil => rfl
  | cons e front ih =>
      have hne : e.1 ≠ name := fun hname => h (by simp [hname])
      have hmore : name ∉ front.map Prod.fst := fun hmem => h (by simp [hmem])
      simp [Node.put, hne, ih hmore]

theorem open?_eq (h : name ∉ entries.map Prod.fst) :
    Node.open? [] name entries = some (entries ++ [(name, .table false false [])]) := by
  have hput : Node.put name (.table false false []) entries =
      entries ++ [(name, .table false false [])] := by
    simpa [Node.put] using put_append h (.table false false []) []
  simp [Node.open?, Node.descend?, lookup_eq_none h, hput]

namespace Document

theorem define?_root (h : name ∉ inner.map Prod.fst) :
    define? { root := inner } [] name v = some { root := inner ++ [(name, .value v)] } := by
  simp [define?, Node.descend?, Node.define?, lookup_eq_none h]

/-- A document whose last table is open. -/
def inTable (front : List (String × Node)) (table : String) (inner : List (String × Node)) :
    Document :=
  { root := front ++ [(table, .table false false inner)], header := [table] }

theorem define?_inTable (htable : table ∉ front.map Prod.fst) (h : name ∉ inner.map Prod.fst) :
    define? (inTable front table inner) [] name v =
      some (inTable front table (inner ++ [(name, .value v)])) := by
  have hput := put_append htable (.table false false (inner ++ [(name, .value v)]))
    [(table, .table false false inner)]
  simp [inTable, define?, Node.descend?, Node.define?, lookup_eq_none h,
    lookup_append_singleton htable, hput, Node.put]

/-- Lines add their entries to the table that is open. -/
theorem lines?_entries {shape : List (String × Node) → Document}
    (hdefine : ∀ {inner name v}, name ∉ inner.map Prod.fst →
      (shape inner).define? [] name v = some (shape (inner ++ [(name, .value v)]))) :
    ∀ {entries : List Entry} {inner : List (String × Node)},
      (inner.map Prod.fst ++ entries.map Entry.name).Nodup →
        (shape inner).lines? (entries.flatMap Entry.line ++ rest) =
          (shape (inner ++ entries.map Entry.node)).lines? rest := by
  intro entries
  -- The table grows at its end, one line after the other, so it is left general.
  induction entries with
  | nil =>
      intro inner _
      simp
  | cons e entries ih =>
      intro inner hnodup
      have hsplit : ((inner ++ [e.node]).map Prod.fst ++ entries.map Entry.name).Nodup := by
        simpa [Entry.node] using hnodup
      have hnew : e.name ∉ inner.map Prod.fst := not_mem_of_nodup hnodup
      have hstep : (shape inner).step? (e.line ++ (entries.flatMap Entry.line ++ rest)) =
          some (shape (inner ++ [e.node]), entries.flatMap Entry.line ++ rest) := by
        simp [step?_line, hdefine hnew, Entry.node]
      have hsome : e.line ++ (entries.flatMap Entry.line ++ rest) ≠ [] := by
        simp [Entry.line]
      simpa [lines?_of_step? hsome hstep] using ih hsplit

end Document

end Tables

/-! ## Whole documents -/

/-- A table with its header. -/
structure Section where
  name : String
  entries : List Entry
  bare : IsBare name
  distinct : (entries.map Entry.name).Nodup

namespace Section

/-- The line of the header, behind an empty one. -/
def header (s : Section) : List Char :=
  "\n[".toList ++ s.name.toList ++ "]\n".toList

/-- The lines of the section. -/
def text (s : Section) : List Char :=
  s.header ++ s.entries.flatMap Entry.line

/-- What a section adds to the document. -/
def node (s : Section) : String × Node :=
  (s.name, .table false false (s.entries.map Entry.node))

end Section

/-- A document: entries, and tables behind them. -/
structure Sheet where
  entries : List Entry
  sections : List Section
  distinct : (entries.map Entry.name ++ sections.map Section.name).Nodup

namespace Sheet

/-- The lines of the document. -/
def text (s : Sheet) : List Char :=
  s.entries.flatMap Entry.line ++ s.sections.flatMap Section.text

/-- The table that the document stands for. -/
def values (s : Sheet) : List (String × Value) :=
  s.entries.map (fun e => (e.name, e.value)) ++
    s.sections.map fun t => (t.name, .table (t.entries.map fun e => (e.name, e.value)))

end Sheet

namespace Document

theorem lines?_section {d : Document} {s : Section} (h : s.name ∉ d.root.map Prod.fst)
    (rest : List Char) : d.lines? (s.text ++ rest) =
      lines? { root := d.root ++ [s.node], header := [s.name] } rest := by
  have hblank := step?_blankLine d ('[' :: (s.name.toList ++ ']' :: '\n' ::
    (s.entries.flatMap Entry.line ++ rest)))
  have hheader := step?_header d s.bare (s.entries.flatMap Entry.line ++ rest)
  rw [open?_eq h, Option.map_some] at hheader
  have htext : s.text ++ rest = '\n' :: '[' :: (s.name.toList ++ ']' :: '\n' ::
      (s.entries.flatMap Entry.line ++ rest)) := by
    simp [Section.text, Section.header]
  rw [htext, lines?_of_step? (List.cons_ne_nil _ _) hblank,
    lines?_of_step? (List.cons_ne_nil _ _) hheader]
  have hentries : (inTable d.root s.name []).lines? (s.entries.flatMap Entry.line ++ rest) =
      (inTable d.root s.name ([] ++ s.entries.map Entry.node)).lines? rest :=
    lines?_entries (define?_inTable h) s.distinct
  simpa [inTable, Section.node] using hentries

theorem lines?_sections : ∀ {sections : List Section} {d : Document},
    (d.root.map Prod.fst ++ sections.map Section.name).Nodup → ∃ header,
      d.lines? (sections.flatMap Section.text) =
        some { root := d.root ++ sections.map Section.node, header := header } := by
  intro sections
  induction sections with
  | nil =>
      intro d _
      exact ⟨d.header, by simp [lines?]⟩
  | cons s sections ih =>
      intro d hnodup
      have hnew : s.name ∉ d.root.map Prod.fst := not_mem_of_nodup hnodup
      have hmore := ih (d := { root := d.root ++ [s.node], header := [s.name] })
        (by simpa [Section.node] using hnodup)
      simpa [lines?_section hnew] using hmore

end Document

namespace Sheet

variable (s : Sheet)

theorem lines?_text : ∃ header, Document.lines? {} s.text =
    some { root := s.entries.map Entry.node ++ s.sections.map Section.node, header := header } := by
  have hentries := (List.nodup_append.1 s.distinct).1
  have hread : Document.lines? { root := [] } (s.entries.flatMap Entry.line ++
        s.sections.flatMap Section.text) =
      Document.lines? { root := [] ++ s.entries.map Entry.node }
        (s.sections.flatMap Section.text) :=
    Document.lines?_entries (fun hinner => Document.define?_root hinner) hentries
  have hnodup : ((s.entries.map Entry.node).map Prod.fst ++ s.sections.map Section.name).Nodup := by
    simpa [Function.comp_def, Entry.node] using s.distinct
  rcases Document.lines?_sections (d := { root := s.entries.map Entry.node }) hnodup
    with ⟨header, hsections⟩
  exact ⟨header, hread.trans hsections⟩

theorem toEntries_node : ∀ entries : List Entry,
    Node.toEntries (entries.map Entry.node) = entries.map fun e => (e.name, e.value) := by
  intro entries
  induction entries with
  | nil => rfl
  | cons e entries ih => simp [Node.toEntries, Entry.node, Node.toValue, ih]

theorem toEntries_eq : Node.toEntries (s.entries.map Entry.node ++ s.sections.map Section.node) =
    s.values := by
  have happend : ∀ l m : List (String × Node),
      Node.toEntries (l ++ m) = Node.toEntries l ++ Node.toEntries m := by
    intro l m
    induction l with
    | nil => rfl
    | cons e l ih => simp [Node.toEntries, ih]
  rw [happend, toEntries_node, values]
  congr 1
  induction s.sections with
  | nil => rfl
  | cons t sections ih =>
      simp [Node.toEntries, Section.node, Node.toValue, toEntries_node, ih]

theorem settleEntries?_eq {l : List (String × Value)} (h : ∀ e ∈ l, e.2.settle? = some e.2) :
    settleEntries? l = some l := by
  induction l with
  | nil => rfl
  | cons e l ih =>
      have hmore := ih fun e' he' => h e' (List.mem_cons_of_mem e he')
      simp [settleEntries?, h e List.mem_cons_self, hmore]

/-- A table whose names need no quotes stands for no date. -/
theorem settle?_table {l : List (String × Value)} (hbare : ∀ e ∈ l, IsBare e.1)
    (h : ∀ e ∈ l, e.2.settle? = some e.2) : (Value.table l).settle? = some (.table l) := by
  cases l with
  | nil => rfl
  | cons e l =>
      -- The name that marks a date has a dollar sign in it, so it needs quotes.
      have hname : e.1 ≠ momentName := by
        intro hname
        have hmoment : ¬ IsBare momentName := by decide
        exact hmoment (hname ▸ hbare e List.mem_cons_self)
      have hmore := settleEntries?_eq fun e' he' => h e' (List.mem_cons_of_mem e he')
      simp [Value.settle?, hname, h e List.mem_cons_self, hmore]

theorem settle?_values : (Value.table s.values).settle? = some (.table s.values) := by
  have hentry : ∀ e : Entry, IsBare (e.name, e.value).1 ∧
      (e.name, e.value).2.settle? = some (e.name, e.value).2 :=
    fun e => ⟨e.bare, e.settled⟩
  have hall : ∀ e ∈ s.values, IsBare e.1 ∧ e.2.settle? = some e.2 := by
    intro e he
    rcases List.mem_append.1 he with he | he
    · rcases List.mem_map.1 he with ⟨e, -, rfl⟩
      exact hentry e
    · rcases List.mem_map.1 he with ⟨t, -, rfl⟩
      refine ⟨t.bare, settle?_table ?_ ?_⟩ <;>
        · intro e he
          rcases List.mem_map.1 he with ⟨e, -, rfl⟩
          simp [hentry e]
  exact settle?_table (fun e he => (hall e he).1) fun e he => (hall e he).2

/-- No byte order mark stands in front. -/
theorem dropMark_text : dropMark s.text = s.text := by
  have hbare : ∀ {c : Char}, isBareChar c = true → c.toNat ≠ 0xFEFF := by
    intro c hc hmark
    have hmark : c = Char.ofNat 0xFEFF := by rw [← hmark, Char.ofNat_toNat]
    subst hmark
    cases hc
  cases hentries : s.entries with
  | nil =>
      cases hsections : s.sections with
      | nil => simp [text, hentries, hsections, dropMark]
      | cons t sections =>
          simp [text, hentries, hsections, Section.text, Section.header, dropMark]
  | cons e entries =>
      rcases e.bare.exists_cons with ⟨c, cs, hname, hc⟩
      simp [text, hentries, Entry.line, hname, dropMark, hbare hc]

/-- A document is read back from its lines. -/
theorem parse?_text : parse? (String.ofList s.text) = some s.values := by
  rcases s.lines?_text with ⟨header, hlines⟩
  simp [parse?, dropMark_text, hlines, toEntries_eq, settle?_values]

end Sheet

/-! ## Deleting keys -/

/-- A key of a document: one at the top, or one inside a table. -/
inductive Key where
  | top (name : String)
  | inside (table name : String)
deriving DecidableEq, Repr

/-- Whether a key is left when some are deleted. A table goes with all that is inside it. -/
def Key.isKept (deleted : Key → Bool) : Key → Bool
  | .top name => !deleted (.top name)
  | .inside table name => !deleted (.top table) && !deleted (.inside table name)

/-- A text that consists of pieces, one for each key, without those whose keys are not left. -/
def textWithout (deleted : Key → Bool) (pieces : List (Key × List Char)) : String :=
  String.ofList ((pieces.filter fun p => p.1.isKept deleted).flatMap Prod.snd)

namespace Sheet

variable (deleted : Key → Bool)

/-- The pieces of a section; that of the table itself is its header. -/
def sectionPieces (t : Section) : List (Key × List Char) :=
  (.top t.name, t.header) :: t.entries.map fun e => (.inside t.name e.name, e.line)

/-- The pieces of the document. -/
def pieces (s : Sheet) : List (Key × List Char) :=
  s.entries.map (fun e => (.top e.name, e.line)) ++ s.sections.flatMap sectionPieces

theorem flatMap_pieces (s : Sheet) : s.pieces.flatMap Prod.snd = s.text := by
  have hsection : ∀ t : Section, (sectionPieces t).flatMap Prod.snd = t.text := by
    simp [sectionPieces, Section.text, List.flatMap_map]
  simp [pieces, text, List.flatMap_map, List.flatMap_assoc, hsection]

/-- The section without the keys that are deleted inside it. -/
def sectionWithout (t : Section) : Section where
  name := t.name
  entries := t.entries.filter fun e => !deleted (.inside t.name e.name)
  bare := t.bare
  distinct := (List.filter_sublist.map Entry.name).nodup t.distinct

/-- The document without the keys that are deleted. -/
def without (s : Sheet) : Sheet where
  entries := s.entries.filter fun e => !deleted (.top e.name)
  sections := (s.sections.filter fun t => !deleted (.top t.name)).map (sectionWithout deleted)
  distinct := by
    have hsections : ((s.sections.filter fun t => !deleted (.top t.name)).map
        (sectionWithout deleted)).map Section.name =
          (s.sections.filter fun t => !deleted (.top t.name)).map Section.name := by
      simp [Function.comp_def, sectionWithout]
    rw [hsections]
    exact ((List.filter_sublist.map Entry.name).append
      (List.filter_sublist.map Section.name)).nodup s.distinct

theorem sectionPieces_filter (t : Section) :
    (sectionPieces t).filter (fun p => p.1.isKept deleted) =
      if deleted (.top t.name) then [] else sectionPieces (sectionWithout deleted t) := by
  cases htable : deleted (.top t.name) <;>
    simp [sectionPieces, sectionWithout, Key.isKept, htable, List.filter_map, Function.comp_def,
      Section.header]

theorem pieces_without (s : Sheet) :
    (s.without deleted).pieces = s.pieces.filter fun p => p.1.isKept deleted := by
  have hsections : ∀ sections : List Section,
      ((sections.filter fun t => !deleted (.top t.name)).map (sectionWithout deleted)).flatMap
          sectionPieces =
        (sections.flatMap sectionPieces).filter fun p => p.1.isKept deleted := by
    intro sections
    induction sections with
    | nil => rfl
    | cons t sections ih =>
        rw [List.flatMap_cons, List.filter_append, sectionPieces_filter, ← ih]
        cases htable : deleted (.top t.name) <;> simp [htable]
  simp [pieces, without, hsections, List.filter_map, Function.comp_def, Key.isKept]

/-- A document is read back from what is left of its lines. -/
theorem parse?_textWithout (s : Sheet) :
    parse? (textWithout deleted s.pieces) = some (s.without deleted).values := by
  rw [textWithout, ← pieces_without, flatMap_pieces]
  exact (s.without deleted).parse?_text

end Sheet

end Toml
end BuildTrace
