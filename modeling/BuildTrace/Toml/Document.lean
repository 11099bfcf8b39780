import BuildTrace.Toml.Moment
import BuildTrace.Toml.Node
import BuildTrace.Toml.Quoted
import BuildTrace.Toml.Scalar

/-!
# Document — TOML text as a table

* `key?` — a name, perhaps with dots;
* `ValueReader`, `valueReader` — a value, with arrays and inline tables up to some depth;
* `Document.step?` — one line of a document, or several if a value goes over several;
* `parse?` — the table that a text stands for.

Every reader takes at least one character, which is why reading comes to an end.
-/

namespace BuildTrace
namespace Toml

/-! ## Names -/

/-- Whether a character may stand in a name without quotes. -/
def isBareChar (c : Char) : Bool :=
  c.isAlphanum || c = '_' || c = '-'

/-- One part of a name. -/
def keyPart? (cs : List Char) : Option (String × List Char) :=
  match cs with
  | '"' :: _ | '\'' :: _ => lineString? cs
  | cs =>
    let word := cs.takeWhile isBareChar
    if word.isEmpty then none else some (String.ofList word, cs.dropWhile isBareChar)

theorem shortens_keyPart? : Shortens keyPart? := by
  intro cs rest part h
  unfold keyPart? at h
  split at h
  · exact shortens_lineString? h
  · exact shortens_lineString? h
  · dsimp only at h
    split at h
    · simp at h
    · next some_word =>
      simp only [Option.some.injEq, Prod.mk.injEq] at h
      rw [List.isEmpty_iff] at some_word
      exact h.2 ▸ length_dropWhile_lt_of_takeWhile_ne_nil some_word

/-- The parts of a name between dots, with blanks around them. -/
def keyParts? (cs : List Char) : Option (List String × List Char) :=
  match hp : keyPart? (skipBlanks cs) with
  | none => none
  | some (part, rest) =>
    match hd : skipBlanks rest with
    | '.' :: behind =>
      have : behind.length < cs.length := by
        have := length_skipBlanks_le cs
        have := length_lt_of_skipBlanks hd
        have := shortens_keyPart? hp
        omega
      (keyParts? behind).map fun (parts, rest) => (part :: parts, rest)
    | rest => some ([part], rest)
termination_by cs.length

theorem shortens_keyParts? : Shortens keyParts? := by
  intro cs rest parts h
  fun_induction keyParts? cs generalizing parts with
  | case1 => simp at h
  | case2 cs part behind hp behind' hd shorter ih =>
    obtain ⟨⟨parts', rest'⟩, hk, heq⟩ := Option.map_eq_some_iff.1 h
    simp only [Prod.mk.injEq] at heq
    have := ih (heq.2 ▸ hk)
    omega
  | case3 cs part behind hp _ =>
    have := length_skipBlanks_le behind
    have := length_skipBlanks_le cs
    have := shortens_keyPart? hp
    simp only [Option.some.injEq, Prod.mk.injEq] at h
    rw [← h.2]
    omega

/-- How deep values may be inside one another, and how many parts a name may have. -/
def depthLimit : Nat := 79

/-- A name: the parts in front of the last one, and the last one. -/
def key? (cs : List Char) : Option ((List String × String) × List Char) :=
  (keyParts? cs).bind fun (parts, rest) =>
    if depthLimit < parts.length then none
    else parts.getLast?.map fun last => ((parts.dropLast, last), rest)

theorem shortens_key? : Shortens key? := by
  intro cs rest name h
  obtain ⟨⟨parts, behind⟩, hk, hn⟩ := Option.bind_eq_some_iff.1 h
  dsimp only at hn
  split at hn
  · simp at hn
  · obtain ⟨last, -, hl⟩ := Option.map_eq_some_iff.1 hn
    simp only [Prod.mk.injEq] at hl
    exact hl.2 ▸ shortens_keyParts? hk

/-! ## Values -/

/-- A reader of values. -/
structure ValueReader where
  read? : List Char → Option (Value × List Char)
  shortens : Shortens read?

/-- The items of an array and its end. -/
def items? (r : ValueReader) (cs : List Char) : Option (List Value × List Char) :=
  match hs : skipLines false cs with
  | ']' :: rest => some ([], rest)
  | start =>
    match hv : r.read? start with
    | none => none
    | some (v, rest) =>
      match hn : skipLines false rest with
      | ']' :: rest => some ([v], rest)
      | ',' :: behind =>
        have : behind.length < cs.length := by
          have := hs ▸ length_skipLines_le false cs
          have := length_lt_of_skipLines hn
          have := r.shortens hv
          omega
        (items? r behind).map fun (vs, rest) => (v :: vs, rest)
      | _ => none
termination_by cs.length

theorem shortens_items? (r : ValueReader) : Shortens (items? r) := by
  intro cs rest vs h
  fun_induction items? r cs generalizing vs with
  | case1 cs behind hs =>
    simp only [Option.some.injEq, Prod.mk.injEq] at h
    exact h.2 ▸ length_lt_of_skipLines hs
  | case2 => simp at h
  | case3 cs v behind behind' hn hs hv =>
    have := length_skipLines_le false cs
    have := length_lt_of_skipLines hn
    have := r.shortens hv
    simp only [Option.some.injEq, Prod.mk.injEq] at h
    rw [← h.2]
    omega
  | case4 cs v behind behind' hn hs hv shorter ih =>
    obtain ⟨⟨vs', rest'⟩, hk, heq⟩ := Option.map_eq_some_iff.1 h
    simp only [Prod.mk.injEq] at heq
    have := ih (heq.2 ▸ hk)
    omega
  | case5 => simp at h

/-- A name, an equals sign and a value. -/
def assignment? (r : ValueReader) (cs : List Char) :
    Option ((List String × String × Value) × List Char) :=
  (key? cs).bind fun ((names, name), rest) =>
    match rest with
    | '=' :: rest => (r.read? (skipBlanks rest)).map fun (v, rest) => ((names, name, v), rest)
    | _ => none

theorem shortens_assignment? (r : ValueReader) : Shortens (assignment? r) := by
  intro cs rest found h
  obtain ⟨⟨⟨names, name⟩, behind⟩, hk, hn⟩ := Option.bind_eq_some_iff.1 h
  have key := shortens_key? hk
  dsimp only at hn
  split at hn
  · next value =>
    obtain ⟨⟨v, rest'⟩, hv, heq⟩ := Option.map_eq_some_iff.1 hn
    simp only [Prod.mk.injEq] at heq
    have := r.shortens hv
    have := length_skipBlanks_le value
    rw [List.length_cons] at key
    rw [← heq.2]
    omega
  · simp at hn

/-- The further entries of an inline table and its end, added to those there are. -/
def entries? (r : ValueReader) (made : List (String × Node)) (cs : List Char) :
    Option (List (String × Node) × List Char) :=
  match ha : assignment? r cs with
  | none => none
  | some ((names, name, v), rest) =>
    match Node.define? names name v made with
    | none => none
    | some made =>
      match hb : skipBlanks rest with
      | '}' :: rest => some (made, rest)
      | ',' :: behind =>
        have : behind.length < cs.length := by
          have := length_lt_of_skipBlanks hb
          have := shortens_assignment? r ha
          omega
        entries? r made behind
      | _ => none
termination_by cs.length

theorem shortens_entries? (r : ValueReader) (made : List (String × Node)) :
    Shortens (entries? r made) := by
  intro cs rest found h
  fun_induction entries? r made cs with
  | case1 => simp at h
  | case2 => simp at h
  | case3 made cs names name v behind ha made' hm behind' hb =>
    have := length_lt_of_skipBlanks hb
    have := shortens_assignment? r ha
    simp only [Option.some.injEq, Prod.mk.injEq] at h
    rw [← h.2]
    omega
  | case4 made cs names name v behind ha made' hm behind' hb shorter ih =>
    have := ih h
    omega
  | case5 => simp at h

/-- An inline table, behind its opening. -/
def inlineTable? (r : ValueReader) (cs : List Char) : Option (Value × List Char) :=
  match skipBlanks cs with
  | '}' :: rest => some (.table [], rest)
  | cs => (entries? r [] cs).map fun (made, rest) => (.table (Node.toEntries made), rest)

theorem shortens_inlineTable? (r : ValueReader) : Shortens (inlineTable? r) := by
  intro cs rest v h
  unfold inlineTable? at h
  split at h
  · next hb =>
    simp only [Option.some.injEq, Prod.mk.injEq] at h
    exact h.2 ▸ length_lt_of_skipBlanks hb
  · obtain ⟨⟨made, rest'⟩, hm, heq⟩ := Option.map_eq_some_iff.1 h
    simp only [Prod.mk.injEq] at heq
    exact heq.2 ▸ Nat.lt_of_lt_of_le (shortens_entries? r [] hm) (length_skipBlanks_le cs)

/-- A value without other values in it. -/
def plainValue? : List Char → Option (Value × List Char)
  | '"' :: cs => (string? ('"' :: cs)).map fun (s, rest) => (.string s, rest)
  | '\'' :: cs => (string? ('\'' :: cs)).map fun (s, rest) => (.string s, rest)
  | cs => scalar? cs

theorem shortens_plainValue? : Shortens plainValue? := by
  intro cs rest v h
  unfold plainValue? at h
  split at h
  · obtain ⟨⟨s, rest'⟩, hs, heq⟩ := Option.map_eq_some_iff.1 h
    simp only [Prod.mk.injEq] at heq
    exact heq.2 ▸ shortens_string? hs
  · obtain ⟨⟨s, rest'⟩, hs, heq⟩ := Option.map_eq_some_iff.1 h
    simp only [Prod.mk.injEq] at heq
    exact heq.2 ▸ shortens_string? hs
  · exact shortens_scalar? h

/-- A value whose inner values are read by `r`. -/
def nestedValue? (r : ValueReader) : List Char → Option (Value × List Char)
  | '[' :: cs => (items? r cs).map fun (vs, rest) => (.array vs, rest)
  | '{' :: cs => inlineTable? r cs
  | cs => plainValue? cs

theorem shortens_nestedValue? (r : ValueReader) : Shortens (nestedValue? r) := by
  intro cs rest v h
  unfold nestedValue? at h
  split at h
  · obtain ⟨⟨vs, rest'⟩, hs, heq⟩ := Option.map_eq_some_iff.1 h
    simp only [Prod.mk.injEq] at heq
    exact heq.2 ▸ Nat.lt_succ_of_lt (shortens_items? r hs)
  · exact Nat.lt_succ_of_lt (shortens_inlineTable? r h)
  · exact shortens_plainValue? h

/-- The reader of values with at most so many arrays and tables inside one another. -/
def valueReader : Nat → ValueReader
  | 0 => ⟨plainValue?, shortens_plainValue?⟩
  | depth + 1 => ⟨nestedValue? (valueReader depth), shortens_nestedValue? (valueReader depth)⟩

/-- The reader of the values of a document. -/
def documentValues : ValueReader :=
  valueReader depthLimit

/-! ## Documents -/

/-- A document read so far: its tables, and the names of the table that is open. -/
structure Document where
  root : List (String × Node) := []
  header : List String := []
deriving Repr

namespace Document

/-- Gives a value to a name in the open table. -/
def define? (d : Document) (names : List String) (name : String) (v : Value) : Option Document :=
  (Node.descend? false (fun _ inner => Node.define? names name v inner) d.header false d.root).map
    fun root => { d with root := root }

/-- Reads a header, behind its bracket. -/
def header? (d : Document) : List Char → Option (Document × List Char)
  | '[' :: cs =>
    (key? cs).bind fun ((names, name), rest) =>
      match rest with
      | ']' :: ']' :: rest =>
        (Node.append? names name d.root).bind fun root =>
          (lineEnd? rest).map fun rest => ({ root := root, header := names ++ [name] }, rest)
      | _ => none
  | cs =>
    (key? cs).bind fun ((names, name), rest) =>
      match rest with
      | ']' :: rest =>
        (Node.open? names name d.root).bind fun root =>
          (lineEnd? rest).map fun rest => ({ root := root, header := names ++ [name] }, rest)
      | _ => none

theorem shortens_header? (d : Document) : Shortens d.header? := by
  intro cs rest d' h
  unfold header? at h
  split at h
  all_goals
    obtain ⟨⟨⟨names, name⟩, behind⟩, hk, hn⟩ := Option.bind_eq_some_iff.1 h
    have key := shortens_key? hk
    dsimp only at hn
    split at hn
    · obtain ⟨root, -, hr⟩ := Option.bind_eq_some_iff.1 hn
      obtain ⟨rest', hl, heq⟩ := Option.map_eq_some_iff.1 hr
      have := length_lineEnd?_le hl
      simp only [Prod.mk.injEq] at heq
      simp only [List.length_cons] at key ⊢
      rw [← heq.2]
      omega
    · simp at hn

/-- Reads one line, and more if a value goes over several. -/
def step? (d : Document) (cs : List Char) : Option (Document × List Char) :=
  match skipBlanks cs with
  | '[' :: cs => d.header? cs
  | [] => some (d, [])
  | c :: cs =>
    if c = '#' || c = '\n' || c = '\r' then (lineEnd? (c :: cs)).map fun rest => (d, rest)
    else
      (assignment? documentValues (c :: cs)).bind fun ((names, name, v), rest) =>
        (d.define? names name v).bind fun d => (lineEnd? rest).map fun rest => (d, rest)

theorem length_step?_lt {d d' : Document} {cs rest : List Char}
    (h : d.step? cs = some (d', rest)) (some_left : cs ≠ []) : rest.length < cs.length := by
  unfold step? at h
  split at h
  · next hb =>
    exact Nat.lt_trans (shortens_header? d h) (length_lt_of_skipBlanks hb)
  · simp only [Option.some.injEq, Prod.mk.injEq] at h
    exact h.2 ▸ List.length_pos_iff.2 some_left
  · next c behind _ hb =>
    have blanks := length_skipBlanks_le cs
    rw [hb] at blanks
    split at h
    · obtain ⟨rest', hl, heq⟩ := Option.map_eq_some_iff.1 h
      have := length_lineEnd?_lt hl (List.cons_ne_nil c behind)
      simp only [Prod.mk.injEq] at heq
      rw [← heq.2]
      omega
    · obtain ⟨⟨⟨names, name, v⟩, behind'⟩, ha, hn⟩ := Option.bind_eq_some_iff.1 h
      obtain ⟨d', -, hd⟩ := Option.bind_eq_some_iff.1 hn
      obtain ⟨rest', hl, heq⟩ := Option.map_eq_some_iff.1 hd
      have := shortens_assignment? documentValues ha
      have := length_lineEnd?_le hl
      simp only [Prod.mk.injEq] at heq
      rw [← heq.2]
      omega

/-- Reads all lines. -/
def lines? (d : Document) (cs : List Char) : Option Document :=
  match cs with
  | [] => some d
  | c :: cs =>
    match h : d.step? (c :: cs) with
    | none => none
    | some (d, rest) =>
      have : rest.length ≤ cs.length :=
        Nat.le_of_lt_succ (length_step?_lt h (List.cons_ne_nil c cs))
      lines? d rest
termination_by cs.length

end Document

/-- The text without a byte order mark in front. -/
def dropMark : List Char → List Char
  | c :: cs => if c.toNat = 0xFEFF then cs else c :: cs
  | [] => []

/-- The table that a text stands for. -/
def parse? (text : String) : Option (List (String × Value)) :=
  (Document.lines? {} (dropMark text.toList)).bind fun d =>
    match (Value.table (Node.toEntries d.root)).settle? with
    | some (.table entries) => some entries
    | _ => none

end Toml
end BuildTrace
