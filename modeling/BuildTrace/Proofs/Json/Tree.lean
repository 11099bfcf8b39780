import BuildTrace.Json.Tree
import BuildTrace.Proofs.Json.Tokens

/-!
# Tree — the text of a value stands for that value

* `Json.Exact` — a value whose numbers are integers and whose strings all have a text;
* `SpellsValue` — a text that is the tokens of a value, with any spaces between them;
* `Exact.spells_toTokens`, `Exact.spells_prettyAt` — both texts of a value are such texts;
* `Exact.foldlM_toTokens` — the tokens of a value add that value to what is open;
* `Exact.parse?_render`, `Exact.parse?_pretty` — so each text stands for the value;
* `Exact.not_mem_render` — no line break stands in the text without spaces.

The two texts differ only in what stands in front of an item, of a value and of the end. So arrays
and objects are laid out once, with those spaces as parameters.
-/

namespace BuildTrace
namespace Json

/-- All numbers are integers, and all strings have a text. -/
inductive Exact : Json → Prop
  | null : Exact .null
  | bool (b : Bool) : Exact (.bool b)
  | integer (negative : Bool) (n : Nat) : Exact (.number (.integer negative n))
  | text (s : String) : Exact (.text s)
  | array {items : List Json} (exact : ∀ v ∈ items, Exact v) : Exact (.array items)
  | record {members : List (String × Json)} (exact : ∀ m ∈ members, Exact m.2) :
      Exact (.record members)

variable {v : Json} {ts : List Token} {cs : List Char}

/-! ## Pieces of text -/

/-- A mark is a token of its own, whatever comes next. -/
theorem Spells.mark (t : Token) (exact : t.IsExact) (hclosed : ¬ t.IsOpen) (rest : Spells ts cs) :
    Spells (t :: ts) (t.text ++ cs) :=
  .token exact (fun hopen => absurd hopen hclosed) rest

theorem Spells.spaces : ∀ {gap : List Char}, (∀ c ∈ gap, isSpace c = true) → Spells ts cs →
    Spells ts (gap ++ cs) := by
  intro gap
  induction gap with
  | nil =>
      intro _ rest
      exact rest
  | cons c gap ih =>
      intro hgap rest
      have hmore : Spells ts (gap ++ cs) := ih (fun d hd => hgap d (List.mem_cons_of_mem c hd)) rest
      exact .space (hgap c List.mem_cons_self) hmore

theorem delimited_cons {c : Char} (hc : isNumberChar c = false ∧ c.isLower = false) :
    Delimited (c :: cs) := by
  intro d hd
  cases hd
  exact hc

theorem delimited_spaces : ∀ {gap : List Char}, (∀ c ∈ gap, isSpace c = true) → Delimited cs →
    Delimited (gap ++ cs) := by
  intro gap hgap hcs
  cases gap with
  | nil => exact hcs
  | cons c gap =>
      apply delimited_cons
      have hc := hgap c List.mem_cons_self
      simp only [isSpace, Bool.or_eq_true, decide_eq_true_eq] at hc
      rcases hc with ((rfl | rfl) | rfl) | rfl <;> decide

/-- A text that spells a value, with anything behind it that does not go on with the value. -/
def SpellsValue (v : Json) (cs : List Char) : Prop :=
  ∀ ts ds, Spells ts ds → Delimited ds → Spells (v.toTokens ++ ts) (cs ++ ds)

theorem spellsValue_token {t : Token} (ht : v.toTokens = [t]) (exact : t.IsExact)
    (hcs : cs = t.text) : SpellsValue v cs := by
  intro ts ds rest delimited
  simpa [ht, hcs] using Spells.token exact (fun _ => delimited) rest

/-! ## Arrays and objects -/

/-- Space in front of each item or name, behind each colon, and in front of the end. -/
structure Layout where
  item : List Char
  value : List Char
  last : List Char
  spaces : ∀ c ∈ item ++ value ++ last, isSpace c = true

namespace Layout

variable (l : Layout) (write : Json → List Char)

/-- The further items of an array, and its end. -/
def items (items : List Json) : List Char :=
  (items.flatMap fun v => ',' :: (l.item ++ write v)) ++ l.last ++ [']']

/-- An array. -/
def array : List Json → List Char
  | [] => ['[', ']']
  | v :: items => '[' :: (l.item ++ write v ++ l.items write items)

/-- One member of an object. -/
def member (m : String × Json) : List Char :=
  l.item ++ quoted m.1 ++ ':' :: (l.value ++ write m.2)

/-- The further members of an object, and its end. -/
def members (members : List (String × Json)) : List Char :=
  (members.flatMap fun m => ',' :: l.member write m) ++ l.last ++ ['}']

/-- An object. -/
def object : List (String × Json) → List Char
  | [] => ['{', '}']
  | m :: members => '{' :: (l.member write m ++ l.members write members)

variable {l write}

theorem item_spaces (l : Layout) : ∀ c ∈ l.item, isSpace c = true :=
  fun c hc => l.spaces c (by simp [hc])

theorem value_spaces (l : Layout) : ∀ c ∈ l.value, isSpace c = true :=
  fun c hc => l.spaces c (by simp [hc])

theorem last_spaces (l : Layout) : ∀ c ∈ l.last, isSpace c = true :=
  fun c hc => l.spaces c (by simp [hc])

theorem spells_items {items : List Json} (hitems : ∀ v ∈ items, SpellsValue v (write v))
    (rest : Spells ts cs) : Spells (itemTokens items ++ ts) (l.items write items ++ cs) ∧
      Delimited (l.items write items ++ cs) := by
  induction items with
  | nil =>
      constructor
      · have hspells := (rest.mark .closeBracket trivial id).spaces l.last_spaces
        simpa [items, itemTokens, Token.text] using hspells
      · have hend : Delimited (']' :: cs) := delimited_cons (by decide)
        simpa [items] using delimited_spaces l.last_spaces hend
  | cons v items ih =>
      rcases ih (fun v hv => hitems v (List.mem_cons_of_mem _ hv)) with ⟨hmore, hdelimited⟩
      have hitem := (hitems v List.mem_cons_self _ _ hmore hdelimited).spaces l.item_spaces
      constructor
      · simpa [Layout.items, Token.text, itemTokens] using hitem.mark .comma trivial id
      · exact delimited_cons (by decide)

theorem spells_array {items : List Json} (hitems : ∀ v ∈ items, SpellsValue v (write v)) :
    SpellsValue (.array items) (l.array write items) := by
  intro ts cs rest _
  cases items with
  | nil => exact (rest.mark .closeBracket trivial id).mark .openBracket trivial id
  | cons v items =>
      rcases spells_items (fun v hv => hitems v (List.mem_cons_of_mem _ hv)) rest
        with ⟨hmore, hdelimited⟩
      have hitem := (hitems v List.mem_cons_self _ _ hmore hdelimited).spaces l.item_spaces
      simpa [array, Token.text, toTokens] using hitem.mark .openBracket trivial id

/-- The tokens of the members of an object. -/
theorem spells_member {m : String × Json} (hm : SpellsValue m.2 (write m.2)) (rest : Spells ts cs)
    (delimited : Delimited cs) :
    Spells (.string (some m.1) :: .colon :: (m.2.toTokens ++ ts)) (l.member write m ++ cs) := by
  have hvalue := (hm _ _ rest delimited).spaces l.value_spaces
  have hname := (hvalue.mark .colon trivial id).mark (.string (some m.1)) trivial id
  simpa [member, Token.text] using hname.spaces l.item_spaces

theorem spells_members {members : List (String × Json)}
    (hmembers : ∀ m ∈ members, SpellsValue m.2 (write m.2)) (rest : Spells ts cs) :
    Spells (memberTokens (members.map fun (name, value) => (some name, value)) ++ ts)
        (l.members write members ++ cs) ∧ Delimited (l.members write members ++ cs) := by
  induction members with
  | nil =>
      constructor
      · have hspells := (rest.mark .closeBrace trivial id).spaces l.last_spaces
        simpa [members, memberTokens, Token.text] using hspells
      · have hend : Delimited ('}' :: cs) := delimited_cons (by decide)
        simpa [members] using delimited_spaces l.last_spaces hend
  | cons m members ih =>
      rcases ih (fun m hm => hmembers m (List.mem_cons_of_mem _ hm)) with ⟨hmore, hdelimited⟩
      have hmember := spells_member (hmembers m List.mem_cons_self) hmore hdelimited (l := l)
      constructor
      · simpa [Layout.members, Token.text, memberTokens] using hmember.mark .comma trivial id
      · exact delimited_cons (by decide)

theorem spells_object {members : List (String × Json)}
    (hmembers : ∀ m ∈ members, SpellsValue m.2 (write m.2)) :
    SpellsValue (.record members) (l.object write members) := by
  intro ts cs rest _
  cases members with
  | nil => exact (rest.mark .closeBrace trivial id).mark .openBrace trivial id
  | cons m members =>
      rcases spells_members (fun m hm => hmembers m (List.mem_cons_of_mem _ hm)) rest
        with ⟨hmore, hdelimited⟩
      have hmember := spells_member (hmembers m List.mem_cons_self) hmore hdelimited (l := l)
      simpa [object, record, Token.text, toTokens] using hmember.mark .openBrace trivial id

/-! ## The two texts -/

/-- No space at all. -/
def dense : Layout where
  item := []
  value := []
  last := []
  spaces := by simp

theorem newLine_spaces (indent : Nat) : ∀ c ∈ newLine indent, isSpace c = true := by
  intro c hc
  rcases List.mem_cons.1 hc with rfl | hc
  · rfl
  · rw [List.eq_of_mem_replicate hc]
    rfl

/-- A line for every item. -/
def lines (indent : Nat) : Layout where
  item := newLine (indent + 1)
  value := [' ']
  last := newLine indent
  spaces := by
    intro c hc
    simp only [List.mem_append, List.mem_singleton] at hc
    rcases hc with (hc | rfl) | hc
    · exact newLine_spaces _ c hc
    · rfl
    · exact newLine_spaces _ c hc

theorem flatMap_itemTokens (items : List Json) : (itemTokens items).flatMap Token.text =
    dense.items (fun v => v.toTokens.flatMap Token.text) items := by
  induction items with
  | nil => rfl
  | cons v items ih => simp [itemTokens, ih, Layout.items, dense, Token.text]

theorem flatMap_memberTokens (members : List (String × Json)) :
    (memberTokens (members.map fun (name, value) => (some name, value))).flatMap Token.text =
      dense.members (fun v => v.toTokens.flatMap Token.text) members := by
  induction members with
  | nil => rfl
  | cons m members ih =>
      simp [memberTokens, ih, Layout.members, Layout.member, dense, Token.text]

theorem prettyItems_eq (indent : Nat) (items : List Json) :
    prettyItems indent items = (lines indent).items (prettyAt (indent + 1)) items := by
  induction items with
  | nil => simp [prettyItems, Layout.items, lines]
  | cons v items ih => simp [prettyItems, ih, Layout.items, lines]

theorem prettyMembers_eq (indent : Nat) (members : List (String × Json)) :
    prettyMembers indent (members.map fun (name, value) => (some name, value)) =
      (lines indent).members (prettyAt (indent + 1)) members := by
  induction members with
  | nil => simp [prettyMembers, Layout.members, lines]
  | cons m members ih =>
      simp [prettyMembers, ih, Layout.members, Layout.member, lines, Token.text]

theorem flatMap_toTokens_array (items : List Json) :
    (toTokens (.array items)).flatMap Token.text =
      dense.array (fun v => v.toTokens.flatMap Token.text) items := by
  cases items with
  | nil => rfl
  | cons v items => simp [toTokens, array, flatMap_itemTokens, Token.text, dense]

theorem flatMap_toTokens_record (members : List (String × Json)) :
    (toTokens (.record members)).flatMap Token.text =
      dense.object (fun v => v.toTokens.flatMap Token.text) members := by
  cases members with
  | nil => rfl
  | cons m members =>
      simp [record, toTokens, object, member, flatMap_memberTokens, Token.text, dense]

theorem prettyAt_array (indent : Nat) (items : List Json) :
    prettyAt indent (.array items) = (lines indent).array (prettyAt (indent + 1)) items := by
  cases items with
  | nil => simp [prettyAt, array]
  | cons v items => simp [prettyAt, array, prettyItems_eq, lines]

theorem prettyAt_record (indent : Nat) (members : List (String × Json)) :
    prettyAt indent (.record members) = (lines indent).object (prettyAt (indent + 1)) members := by
  cases members with
  | nil => simp [record, prettyAt, object]
  | cons m members =>
      simp [record, prettyAt, object, member, prettyMembers_eq, lines, Token.text]

end Layout

/-- The text without spaces spells the value. -/
theorem Exact.spells_toTokens (hv : v.Exact) :
    SpellsValue v (v.toTokens.flatMap Token.text) := by
  induction hv with
  | null => exact spellsValue_token (t := .null) rfl trivial rfl
  | bool b => exact spellsValue_token (t := .bool b) rfl trivial (List.append_nil _)
  | integer negative n =>
      exact spellsValue_token (t := .number (.integer negative n)) rfl trivial (List.append_nil _)
  | text s => exact spellsValue_token (t := .string (some s)) rfl trivial (List.append_nil _)
  | @array items _ ih =>
      rw [Layout.flatMap_toTokens_array]
      exact Layout.spells_array ih
  | @record members _ ih =>
      have hmembers : SpellsValue (.record members)
          (Layout.dense.object (fun v => v.toTokens.flatMap Token.text) members) :=
        Layout.spells_object ih
      rwa [Layout.flatMap_toTokens_record]

/-- So does the text with a line for every item. -/
theorem Exact.spells_prettyAt (hv : v.Exact) : ∀ indent, SpellsValue v (prettyAt indent v) := by
  induction hv with
  | null => exact fun _ => spellsValue_token (t := .null) rfl trivial (by simp [prettyAt])
  | bool b => exact fun _ => spellsValue_token (t := .bool b) rfl trivial (by simp [prettyAt])
  | integer negative n =>
      exact fun _ => spellsValue_token (t := .number (.integer negative n)) rfl trivial
        (by simp [prettyAt])
  | text s =>
      exact fun _ => spellsValue_token (t := .string (some s)) rfl trivial
        (by simp [Json.text, prettyAt])
  | @array items _ ih =>
      intro indent
      rw [Layout.prettyAt_array]
      exact Layout.spells_array fun v hv => ih v hv (indent + 1)
  | @record members _ ih =>
      intro indent
      rw [Layout.prettyAt_record]
      exact Layout.spells_object fun m hm => ih m hm (indent + 1)

/-! ## Tokens are read -/

namespace Reader

@[simp] theorem complete_array (read : List Json) (stack : List Frame) (v : Json) :
    complete (.array read :: stack) v =
      { stack := .array (v :: read) :: stack, await := .commaOrEnd } := rfl

@[simp] theorem complete_object (read : List (Option String × Json)) (name : Option String)
    (stack : List Frame) (v : Json) : complete (.object read name :: stack) v =
      { stack := .object ((name, v) :: read) none :: stack, await := .commaOrEnd } := rfl

/-- Where a value may stand, its tokens add it to what is open. -/
def Takes (v : Json) : Prop :=
  ∀ stack, v.toTokens.foldlM step { stack := stack, await := .value } = some (complete stack v)

/-- No value begins with the end of an array. -/
theorem step_itemOrEnd (v : Json) (stack : List Frame) : ∃ t rest, v.toTokens = t :: rest ∧
    step { stack := stack, await := .itemOrEnd } t =
      step { stack := stack, await := .value } t := by
  rcases v with _ | b | n | s | ⟨_ | ⟨item, items⟩⟩ | ⟨_ | ⟨m, members⟩⟩ <;>
    exact ⟨_, _, rfl, by simp [step]⟩

theorem Takes.first {v : Json} (hv : Takes v) (stack : List Frame) :
    v.toTokens.foldlM step { stack := stack, await := .itemOrEnd } = some (complete stack v) := by
  rcases step_itemOrEnd v stack with ⟨t, rest, htokens, hstep⟩
  have hvalue := hv stack
  rw [htokens] at hvalue ⊢
  simpa [hstep] using hvalue

theorem foldlM_itemTokens : ∀ {items : List Json}, (∀ v ∈ items, Takes v) → ∀ read stack,
    (itemTokens items).foldlM step { stack := .array read :: stack, await := .commaOrEnd } =
      some (complete stack (.array (read.reverse ++ items))) := by
  intro items
  induction items with
  | nil =>
      intro _ read stack
      simp [itemTokens, step]
  | cons v items ih =>
      intro hitems read stack
      have hv := hitems v List.mem_cons_self (.array read :: stack)
      have hmore := ih (fun w hw => hitems w (List.mem_cons_of_mem v hw)) (v :: read) stack
      simpa [itemTokens, step, hv] using hmore

theorem foldlM_memberTokens : ∀ {members : List (String × Json)}, (∀ m ∈ members, Takes m.2) →
    ∀ read name stack,
      (memberTokens (members.map fun (name, value) => (some name, value))).foldlM step
          { stack := .object read name :: stack, await := .commaOrEnd } =
        some (complete stack (.object (read.reverse ++
          members.map fun (name, value) => (some name, value)))) := by
  intro members
  induction members with
  | nil =>
      intro _ read name stack
      simp [memberTokens, step]
  | cons m members ih =>
      intro hmembers read name stack
      have hv := hmembers m List.mem_cons_self (.object read (some m.1) :: stack)
      have hmore := ih (fun m' hm' => hmembers m' (List.mem_cons_of_mem m hm'))
        ((some m.1, m.2) :: read) none stack
      simpa [memberTokens, step, hv] using hmore

end Reader

theorem Exact.takes (hv : v.Exact) : Reader.Takes v := by
  induction hv with
  | null => exact fun stack => rfl
  | bool b => exact fun stack => rfl
  | integer negative n => exact fun stack => rfl
  | text s => exact fun stack => rfl
  | @array items _ ih =>
      intro stack
      cases items with
      | nil => simp [toTokens, Reader.step, Reader.begin?]
      | cons v items =>
          have hv := (ih v List.mem_cons_self).first (.array [] :: stack)
          have hmore := Reader.foldlM_itemTokens (fun w hw => ih w (List.mem_cons_of_mem v hw))
            [v] stack
          simpa [toTokens, Reader.step, Reader.begin?, hv] using hmore
  | @record members _ ih =>
      intro stack
      cases members with
      | nil => simp [Json.record, toTokens, Reader.step, Reader.begin?]
      | cons m members =>
          have hv := ih m List.mem_cons_self (.object [] (some m.1) :: stack)
          have hmore := Reader.foldlM_memberTokens
            (fun m' hm' => ih m' (List.mem_cons_of_mem m hm')) [(some m.1, m.2)] none stack
          simpa [Json.record, toTokens, Reader.step, Reader.begin?, hv] using hmore

/-- The tokens of a value stand for it. -/
theorem Exact.ofTokens?_toTokens (hv : v.Exact) : ofTokens? v.toTokens = some v := by
  simp [ofTokens?, hv.takes [], Reader.complete]

theorem parse?_of_spellsValue (hv : v.Exact) (h : SpellsValue v cs) :
    parse? (String.ofList cs) = some v := by
  have hspells : Spells (v.toTokens ++ []) (cs ++ []) := by
    apply h [] [] .nil
    simp [Delimited]
  simp only [List.append_nil] at hspells
  simp [parse?, tokens?_of_spells hspells, hv.ofTokens?_toTokens]

/-- **A value is read back from its text.** -/
theorem Exact.parse?_render (hv : v.Exact) : parse? v.render = some v :=
  parse?_of_spellsValue hv hv.spells_toTokens

/-- **A value is read back from the text with a line for every item.** -/
theorem Exact.parse?_pretty (hv : v.Exact) : parse? v.pretty = some v :=
  parse?_of_spellsValue hv (hv.spells_prettyAt 0)

/-! ## One line -/

theorem not_mem_escapeChar (c : Char) : '\n' ∉ escapeChar c := by
  have hdigit : ∀ n < 16, hexDigit n ≠ '\n' := by decide
  unfold escapeChar
  split_ifs with hquote hslash hline hreturn htab hback hfeed hcontrol
  iterate 7 decide
  · have hhigh := hdigit (c.toNat / 16) (by omega)
    have hlow := hdigit (c.toNat % 16) (by omega)
    simp [hhigh.symm, hlow.symm]
  · simpa using Ne.symm hline

theorem not_mem_quoted (s : String) : '\n' ∉ quoted s := by
  simp [quoted, not_mem_escapeChar]

theorem not_mem_number (negative : Bool) (n : Nat) :
    '\n' ∉ Number.text (.integer negative n) := by
  intro hmem
  rcases Number.exists_text negative n with ⟨c, more, htext, hc, hmore⟩
  rw [htext] at hmem
  rcases List.mem_cons.1 hmem with rfl | hmem
  · simp at hc
  · cases hmore _ hmem

/-- A value without spaces stands on one line. -/
theorem Exact.not_mem_render (hv : v.Exact) : '\n' ∉ v.render.toList := by
  rw [render, String.toList_ofList]
  induction hv with
  | null => decide
  | bool b => cases b <;> decide
  | integer negative n => simpa [toTokens, Token.text] using not_mem_number negative n
  | text s => simpa [Json.text, toTokens, Token.text] using not_mem_quoted s
  | @array items _ ih =>
      rw [Layout.flatMap_toTokens_array]
      cases items with
      | nil => decide
      | cons v items => simpa [Layout.array, Layout.items, Layout.dense] using ih
  | @record members _ ih =>
      rw [Layout.flatMap_toTokens_record]
      cases members with
      | nil => decide
      | cons m members =>
          simpa [Layout.object, Layout.members, Layout.member, Layout.dense, not_mem_quoted]
            using ih

end Json
end BuildTrace
