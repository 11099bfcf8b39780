import BuildTrace.Proofs.Number.Digits
import BuildTrace.Proofs.Text.Cut
import BuildTrace.Proofs.Toml.Strings
import BuildTrace.Toml.Document

/-!
# Values — strings, lists of strings and numbers are read back

* `Ends` — what may come behind a value;
* `read?_stringText`, `read?_stringsText` — strings and lists of strings, at any depth that is left;
* `scalar?_eq` — digits are no date, no time and no fraction, so they are an integer;
* `read?_toDigits` — a natural number of 63 bits.
-/

namespace BuildTrace
namespace Toml

variable {rest : List Char}

/-- What comes behind a value: the end of its line, or of its place in a list. -/
def Ends (rest : List Char) : Prop :=
  ∃ c tail, rest = c :: tail ∧ c ∈ ['\n', ',', ']']

theorem ends_cons {c : Char} (h : c ∈ ['\n', ',', ']']) (tail : List Char) : Ends (c :: tail) :=
  ⟨c, tail, rfl, h⟩

theorem Ends.head_ne (h : Ends rest) {d : Char} (hd : d ∉ ['\n', ',', ']']) :
    rest.head? ≠ some d := by
  rcases h with ⟨c, tail, rfl, hc⟩
  rintro ⟨⟩
  exact hd hc

/-! ## Strings -/

theorem exists_stringText (s : String) :
    ∃ c cs, stringText s = c :: cs ∧ (c = '"' ∨ c = '\'') := by
  simp only [stringText]
  cases formOf s.toList with
  | basic => exact ⟨_, _, rfl, Or.inl rfl⟩
  | literal => exact ⟨_, _, rfl, Or.inr rfl⟩
  | basicLines => exact ⟨_, _, rfl, Or.inl rfl⟩
  | literalLines => exact ⟨_, _, rfl, Or.inr rfl⟩

theorem plainValue?_stringText (s : String) (h : Ends rest) :
    plainValue? (stringText s ++ rest) = some (.string s, rest) := by
  have hread := string?_stringText s (h.head_ne (d := '"') (by decide))
    (h.head_ne (d := '\'') (by decide))
  rcases exists_stringText s with ⟨c, cs, hs, rfl | rfl⟩ <;>
    · rw [hs, List.cons_append] at hread ⊢
      simp [plainValue?, hread]

/-- At any depth a value that is no list and no table is read as it is. -/
theorem read?_of_plainValue? {cs : List Char} {v : Value} (depth : Nat)
    (hlist : cs.head? ≠ some '[') (htable : cs.head? ≠ some '{')
    (h : plainValue? cs = some (v, rest)) : (valueReader depth).read? cs = some (v, rest) := by
  cases depth with
  | zero => exact h
  | succ depth =>
      show nestedValue? _ cs = _
      rw [nestedValue?]
      · exact h
      · rintro tail rfl
        exact hlist rfl
      · rintro tail rfl
        exact htable rfl

theorem read?_stringText (depth : Nat) (s : String) (h : Ends rest) :
    (valueReader depth).read? (stringText s ++ rest) = some (.string s, rest) := by
  apply read?_of_plainValue? depth _ _ (plainValue?_stringText s h)
  all_goals
    rcases exists_stringText s with ⟨c, cs, hs, rfl | rfl⟩ <;> simp [hs]

/-! ## Lists -/

section Lists

variable {r : ValueReader} {cs behind : List Char} {v : Value}

/-- What is left of a list behind one of its items. -/
def itemsBehind? (r : ValueReader) (v : Value) (behind : List Char) :
    Option (List Value × List Char) :=
  match skipLines false behind with
  | ']' :: rest => some ([v], rest)
  | ',' :: next => (items? r next).map fun (vs, rest) => (v :: vs, rest)
  | _ => none

theorem items?_nil (h : skipLines false cs = ']' :: rest) : items? r cs = some ([], rest) := by
  rw [items?]
  split
  · simp_all
  · next hnot =>
      exact absurd h (hnot rest)

theorem items?_of_read? {start : List Char} (hstart : skipLines false cs = start)
    (hsome : start.head? ≠ some ']') (hv : r.read? start = some (v, behind)) :
    items? r cs = itemsBehind? r v behind := by
  subst hstart
  rw [items?]
  split
  · next rest hend =>
      rw [hend] at hsome
      exact absurd rfl hsome
  · split
    · next hnone =>
        rw [hv] at hnone
        cases hnone
    · next v' rest' hread =>
        cases hv.symm.trans hread
        rw [itemsBehind?]
        split <;> simp_all

theorem skipLines_stringText (s : String) (rest : List Char) :
    skipLines false (stringText s ++ rest) = stringText s ++ rest := by
  rcases exists_stringText s with ⟨c, cs, hs, rfl | rfl⟩ <;> simp [hs, skipLines, isBlank]

theorem items?_stringText (depth : Nat) (s : String) (h : Ends behind)
    (hstart : skipLines false cs = stringText s ++ behind) :
    items? (valueReader depth) cs = itemsBehind? (valueReader depth) (.string s) behind := by
  apply items?_of_read? hstart _ (read?_stringText depth s h)
  rcases exists_stringText s with ⟨c, cs, hs, rfl | rfl⟩ <;> simp [hs]

/-- Several items, each on a line of its own. -/
theorem items?_itemLines (depth : Nat) (rest : List Char) : ∀ items : List String,
    items? (valueReader depth) (itemLines items ++ '\n' :: ']' :: rest) =
      some (items.map .string, rest) := by
  intro items
  induction items with
  | nil => exact items?_nil rfl
  | cons s items ih =>
      have hends : Ends (',' :: (itemLines items ++ '\n' :: ']' :: rest)) :=
        ends_cons (by decide) _
      have hstart : skipLines false (itemLines (s :: items) ++ '\n' :: ']' :: rest) =
          stringText s ++ ',' :: (itemLines items ++ '\n' :: ']' :: rest) := by
        simp [itemLines, skipLines, isBlank, skipLines_stringText]
      rw [items?_stringText depth s hends hstart]
      simp [itemsBehind?, skipLines, isBlank, ih]

/-- A list of strings is read back from its text. -/
theorem read?_stringsText (depth : Nat) (items : List String) (rest : List Char) :
    (valueReader (depth + 1)).read? (stringsText items ++ rest) =
      some (.array (items.map .string), rest) := by
  show nestedValue? (valueReader depth) _ = _
  rcases items with _ | ⟨s, _ | ⟨t, items⟩⟩
  · have hread : items? (valueReader depth) (']' :: rest) = some ([], rest) :=
      items?_nil (by simp [skipLines, isBlank])
    simp [stringsText, nestedValue?, hread]
  · have hread := items?_stringText depth s (ends_cons (c := ']') (by decide) rest)
      (skipLines_stringText s _)
    simp [stringsText, nestedValue?, hread, itemsBehind?, skipLines, isBlank]
  · have hread := items?_itemLines depth rest (s :: t :: items)
    simp [stringsText, nestedValue?, hread]

end Lists

/-! ## Numbers -/

section Numbers

theorem integerWithin?_of_lt {n : Nat} (h : n < Number.limit 63) :
    integerWithin? n = some (n : Int) := by
  have hlow : -((Number.limit 63 : Nat) : Int) ≤ n := by omega
  have hhigh : (n : Int) < (Number.limit 63 : Nat) := Int.ofNat_lt.2 h
  have hfits : Number.fits 64 n = true := by
    simp only [Number.fits, Nat.reduceSub, hlow, hhigh, decide_true, Bool.and_true]
  rw [integerWithin?, if_pos hfits]

variable {ds : List Char} (hall : ∀ c ∈ ds, c.isDigit = true)

include hall

theorem ne_of_isDigit {c d : Char} (hc : c ∈ ds) (hd : d.isDigit = false) : c ≠ d := by
  rintro rfl
  simp [hall c hc] at hd

theorem spacedDigits?_eq (hsome : ds ≠ []) : spacedDigits? Char.isDigit ds = some ds := by
  induction ds with
  | nil => exact absurd rfl hsome
  | cons c ds ih =>
      have hc : c.isDigit = true := hall c List.mem_cons_self
      rcases ds with _ | ⟨d, ds⟩
      · simp [spacedDigits?, hc]
      · have hd : d ≠ '_' := ne_of_isDigit hall (by simp) rfl
        have hmore := ih (fun x hx => hall x (List.mem_cons_of_mem c hx)) (List.cons_ne_nil d ds)
        simp [spacedDigits?, hc, hd, hmore]

theorem numberOf_eq : numberOf 10 ds = Nat.ofDigitChars 10 ds 0 := by
  have hvalue : ∀ n, ∀ c ∈ ds, 10 * n + digitValue c = 10 * n + (c.toNat - '0'.toNat) := by
    intro n c hc
    simp [digitValue, hall c hc]
  exact List.foldl_ext _ _ 0 hvalue

theorem mark?_eq_none {c : Char} (hc : c.isDigit = false) (n : Nat) :
    mark? c (ds.drop n) = none := by
  cases hdrop : ds.drop n with
  | nil => rfl
  | cons d tail =>
      have hmem : d ∈ ds := List.mem_of_mem_drop (hdrop ▸ List.mem_cons_self)
      simp [mark?, ne_of_isDigit hall hmem hc]

theorem moment?_eq_none : moment? ds rest = none := by
  have hdate : date? ds = none := by
    simp only [date?, fixedDigits?]
    split_ifs <;> simp [mark?_eq_none hall (c := '-') rfl]
  have htime : time? lastHour ds = none := by
    simp only [time?, fixedDigits?]
    split_ifs <;> simp [mark?_eq_none hall (c := ':') rfl]
  simp [moment?, hdate, htime]

theorem splitSign_eq : Number.splitSign ds = (false, ds) := by
  rcases ds with _ | ⟨c, ds⟩
  · rfl
  · have hminus : c ≠ '-' := ne_of_isDigit hall List.mem_cons_self rfl
    have hplus : c ≠ '+' := ne_of_isDigit hall List.mem_cons_self rfl
    simp [Number.splitSign, hminus, hplus]

theorem splitAt?_eq_none {isMark : Char → Bool} (hmark : ∀ c, isMark c = true → c.isDigit = false) :
    splitAt? isMark ds = none := by
  have hrest : (ds.dropWhile fun c => !isMark c) = [] := by
    rw [List.dropWhile_eq_nil_iff]
    intro c hc
    by_contra hnot
    have hdigit := hmark c (by simpa using hnot)
    simp [hall c hc] at hdigit
  simp [splitAt?, hrest]

theorem float?_eq_none : float? ds = none := by
  have hinf : ds ≠ ['i', 'n', 'f'] := by
    rintro rfl
    simp at hall
  have hnan : ds ≠ ['n', 'a', 'n'] := by
    rintro rfl
    simp at hall
  have hexponent : splitAt? (fun c => c = 'e' || c = 'E') ds = none := by
    apply splitAt?_eq_none hall
    intro c hc
    rcases (by simpa using hc : c = 'e' ∨ c = 'E') with rfl | rfl <;> rfl
  have hpoint : '.' ∉ ds := fun h => ne_of_isDigit hall h (d := '.') rfl rfl
  simp [float?, splitSign_eq hall, hinf, hnan, fraction?, hexponent, hpoint]

theorem integer?_eq (hzero : ds.head? = some '0' → ds.length = 1) (hsome : ds ≠ [])
    (hlimit : Nat.ofDigitChars 10 ds 0 < Number.limit 63) :
    integer? ds = some (Nat.ofDigitChars 10 ds 0 : Nat) := by
  have hwhole : wholeDigits? ds = some ds := by
    simpa [wholeDigits?, spacedDigits?_eq hall hsome, Decidable.imp_iff_not_or] using hzero
  have hwithin : integerWithin? (numberOf 10 ds) = some (Nat.ofDigitChars 10 ds 0 : Nat) := by
    rw [numberOf_eq hall]
    exact integerWithin?_of_lt hlimit
  have hbase : ∀ {d tail}, d.isDigit = false → ds ≠ '0' :: d :: tail := by
    rintro d tail hd rfl
    exact ne_of_isDigit hall (by simp) hd rfl
  rw [integer?, splitSign_eq hall]
  -- Unfolding would compute with the bound itself, digit by digit.
  · exact Option.bind_eq_some_iff.2 ⟨ds, hwhole, hwithin⟩
  · exact fun tail => hbase rfl
  · exact fun tail => hbase rfl
  · exact fun tail => hbase rfl

theorem scalar?_eq (hzero : ds.head? = some '0' → ds.length = 1) (hsome : ds ≠ [])
    (hlimit : Nat.ofDigitChars 10 ds 0 < Number.limit 63) (h : Ends rest) :
    scalar? (ds ++ rest) = some (.integer (Nat.ofDigitChars 10 ds 0 : Nat), rest) := by
  have hword : ∀ c ∈ ds, isWordChar c = true := by
    intro c hc
    simp [isWordChar, Char.isAlphanum, hall c hc]
  have hend : ∀ c ∈ rest.head?, isWordChar c = false := by
    rcases h with ⟨c, tail, rfl, hc⟩
    rintro _ ⟨⟩
    simp only [List.mem_cons, List.not_mem_nil, or_false] at hc
    rcases hc with rfl | rfl | rfl <;> rfl
  have htrue : ds ≠ ['t', 'r', 'u', 'e'] := by
    rintro rfl
    simp at hall
  have hfalse : ds ≠ ['f', 'a', 'l', 's', 'e'] := by
    rintro rfl
    simp at hall
  simp [scalar?, Text.takeWhile_append hword hend, Text.dropWhile_append hword hend, ofWord?, htrue,
    hfalse, moment?_eq_none hall, float?_eq_none hall, integer?_eq hall hzero hsome hlimit]

omit hall in
theorem read?_toDigits (depth : Nat) {n : Nat} (hn : n < Number.limit 63) (h : Ends rest) :
    (valueReader depth).read? (Nat.toDigits 10 n ++ rest) = some (.integer n, rest) := by
  have hall : ∀ c ∈ Nat.toDigits 10 n, c.isDigit = true :=
    fun c => Number.isDigit_of_mem_toDigits
  have hsome : Nat.toDigits 10 n ≠ [] := Nat.toDigits_ne_nil
  have hvalue : Nat.ofDigitChars 10 (Nat.toDigits 10 n) 0 = n := Nat.ofDigitChars_ten_toDigits
  have hread := scalar?_eq hall (Number.length_toDigits_of_head n) hsome (hvalue.symm ▸ hn) h
  rw [hvalue] at hread
  rcases List.exists_cons_of_ne_nil hsome with ⟨c, cs, hdigits⟩
  have hfirst : ∀ {d}, d.isDigit = false → c ≠ d := by
    intro d hd
    exact ne_of_isDigit hall (hdigits ▸ List.mem_cons_self) hd
  rw [hdigits, List.cons_append] at hread ⊢
  apply read?_of_plainValue? depth
  · simpa using hfirst rfl
  · simpa using hfirst rfl
  · rw [plainValue?]
    · exact hread
    · exact fun tail htail => hfirst rfl (List.cons.inj htail).1
    · exact fun tail htail => hfirst rfl (List.cons.inj htail).1

end Numbers

end Toml
end BuildTrace
