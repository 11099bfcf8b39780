import BuildTrace.Row
import Mathlib.Data.List.Basic
import Mathlib.Data.List.Induction

/-!
# Row — the laws of rows

* `get?_put`, `put_of_get?_eq_none`, `values_put` — a value takes the place of the one that was, or
  goes to the end;
* `Row.ofList`, `Row.firsts` — the row of many values, and the first spelling of each key;
* `get?_ofList`, `keys_ofList` — in such a row a key has its last value, and keys stand in the order
  in which they first came up.
-/

namespace BuildTrace
namespace Row

variable {κ ν : Type} {same : κ → κ → Prop} [DecidableRel same] {k l : κ} {v : ν}
  {row : List (κ × ν)}

/-! ## Values by key -/

theorem get?_cons (k : κ) (e : κ × ν) (row : List (κ × ν)) :
    get? same k (e :: row) = if same k e.1 then some e.2 else get? same k row := by
  by_cases h : same k e.1
  · simp [get?, h]
  · simp [get?, h]

theorem get?_eq_none_iff : get? same k row = none ↔ ∀ e ∈ row, ¬ same k e.1 := by
  simp [get?]

theorem mem_of_get? (h : get? same k row = some v) : ∃ e ∈ row, same k e.1 ∧ e.2 = v := by
  rcases Option.map_eq_some_iff.1 h with ⟨e, he, hv⟩
  exact ⟨e, List.mem_of_find?_eq_some he, by simpa using List.find?_some he, hv⟩

/-- Spellings of one key have one value. -/
theorem get?_congr (hsame : Equivalence same) (h : same k l) (row : List (κ × ν)) :
    get? same k row = get? same l row := by
  have hiff : ∀ key, same k key ↔ same l key := fun key =>
    ⟨hsame.trans (hsame.symm h), hsame.trans h⟩
  simp only [get?, hiff]

/-- The value of a key is that at its place. -/
theorem get?_eq_bind_findIdx? (k : κ) (row : List (κ × ν)) :
    get? same k row =
      ((row.map Prod.fst).findIdx? fun l => decide (same k l)).bind fun i =>
        (row.map Prod.snd)[i]? := by
  induction row with
  | nil => rfl
  | cons e row ih =>
      rw [get?_cons, List.map_cons, List.findIdx?_cons]
      by_cases h : same k e.1
      · simp [h]
      · rw [if_neg h, ih]
        simp [h, Option.bind_map, Function.comp_def]

/-- Among numbered keys, the value of a key is its place. -/
theorem get?_zipIdx (k : κ) (keys : List κ) :
    get? same k keys.zipIdx = keys.findIdx? fun l => decide (same k l) := by
  rw [List.findIdx?_eq_fst_find?_zipIdx]
  rfl

section Distinct

variable {keys : List κ}

/-- If no key is there twice, each one is found where it stands. -/
theorem findIdx?_eq_some_iff (hsame : Equivalence same) {i : Nat}
    (hdistinct : keys.Pairwise fun k l => ¬ same k l) :
    (keys.findIdx? fun l => decide (same k l)) = some i ↔
      ∃ key, keys[i]? = some key ∧ same k key := by
  rw [List.findIdx?_eq_some_iff_getElem]
  constructor
  · rintro ⟨hi, hkey, -⟩
    exact ⟨keys[i], List.getElem?_eq_getElem hi, by simpa using hkey⟩
  · rintro ⟨key, hkey, hk⟩
    rcases List.getElem?_eq_some_iff.1 hkey with ⟨hi, rfl⟩
    refine ⟨hi, by simpa using hk, fun j hj h => ?_⟩
    -- An earlier place would hold a second spelling.
    have hearlier : same k keys[j] := by simpa using h
    have hne : ¬ same keys[j] keys[i] :=
      List.pairwise_iff_getElem.1 hdistinct j i (Nat.lt_trans hj hi) hi hj
    exact hne (hsame.trans (hsame.symm hearlier) hk)

theorem get?_of_mem (hsame : Equivalence same)
    (hdistinct : (row.map Prod.fst).Pairwise fun k l => ¬ same k l) {e : κ × ν} (he : e ∈ row) :
    get? same e.1 row = some e.2 := by
  induction row with
  | nil => exact absurd he List.not_mem_nil
  | cons d row ih =>
      rw [List.map_cons, List.pairwise_cons] at hdistinct
      rw [get?_cons]
      rcases List.mem_cons.1 he with rfl | hrow
      · rw [if_pos (hsame.refl e.1)]
      · have hne : ¬ same d.1 e.1 := hdistinct.1 e.1 (List.mem_map_of_mem hrow)
        rw [if_neg fun h => hne (hsame.symm h), ih hdistinct.2 hrow]

end Distinct

/-! ## Giving a key a value -/

theorem get?_put (hsame : Equivalence same) (k l : κ) (v : ν) (row : List (κ × ν)) :
    get? same l (put same k v row) = if same l k then some v else get? same l row := by
  induction row with
  | nil => rw [put, get?_cons]
  | cons e row ih =>
      rw [put]
      by_cases hk : same k e.1
      · have hiff : same l e.1 ↔ same l k :=
          ⟨fun h => hsame.trans h (hsame.symm hk), fun h => hsame.trans h hk⟩
        by_cases hl : same l k
        · rw [if_pos hk, get?_cons, if_pos (hiff.2 hl), if_pos hl]
        · rw [if_pos hk, get?_cons, get?_cons, if_neg (mt hiff.1 hl), if_neg hl,
            if_neg (mt hiff.1 hl)]
      · rw [if_neg hk, get?_cons, get?_cons, ih]
        by_cases hl : same l k
        · have hne : ¬ same l e.1 := fun h => hk (hsame.trans (hsame.symm hl) h)
          simp only [if_pos hl, if_neg hne]
        · simp only [if_neg hl]

/-- What is in a row was put there for a spelling of its key. -/
theorem mem_put (hsame : Equivalence same) {e : κ × ν} (he : e ∈ put same k v row) :
    same k e.1 ∧ e.2 = v ∨ e ∈ row := by
  induction row with
  | nil =>
      rw [put, List.mem_singleton] at he
      exact .inl (he ▸ ⟨hsame.refl k, rfl⟩)
  | cons d row ih =>
      rw [put] at he
      by_cases hk : same k d.1
      · rw [if_pos hk] at he
        rcases List.mem_cons.1 he with rfl | hrow
        · exact .inl ⟨hk, rfl⟩
        · exact .inr (List.mem_cons_of_mem d hrow)
      · rw [if_neg hk] at he
        rcases List.mem_cons.1 he with rfl | hrow
        · exact .inr List.mem_cons_self
        · exact (ih hrow).imp_right (List.mem_cons_of_mem d)

/-- A new key goes to the end. -/
theorem put_of_get?_eq_none (h : get? same k row = none) (v : ν) :
    put same k v row = row ++ [(k, v)] := by
  induction row with
  | nil => rfl
  | cons e row ih =>
      have hne : ¬ same k e.1 := get?_eq_none_iff.1 h e List.mem_cons_self
      have hrow : get? same k row = none := by rwa [get?_cons, if_neg hne] at h
      rw [put, if_neg hne, ih hrow, List.cons_append]

/-- The value it has already leaves the row as it is. -/
theorem put_of_get?_eq_some (h : get? same k row = some v) : put same k v row = row := by
  induction row with
  | nil => exact absurd h nofun
  | cons e row ih =>
      rw [get?_cons] at h
      rw [put]
      by_cases hk : same k e.1
      · rw [if_pos hk] at h ⊢
        rw [← Option.some.inj h]
      · rw [if_neg hk] at h ⊢
        rw [ih h]

/-- A known key keeps its spelling and its place. -/
theorem keys_put (h : ∃ e ∈ row, same k e.1) (v : ν) :
    (put same k v row).map Prod.fst = row.map Prod.fst := by
  induction row with
  | nil => exact absurd h (by simp)
  | cons e row ih =>
      rw [put]
      by_cases hk : same k e.1
      · simp only [if_pos hk, List.map_cons]
      · have hrow : ∃ e ∈ row, same k e.1 := by simpa [hk] using h
        simp only [if_neg hk, List.map_cons, ih hrow]

/-- The value of a known key changes where it stands. -/
theorem values_put {i : Nat}
    (h : (row.map Prod.fst).findIdx? (fun l => decide (same k l)) = some i) (v : ν) :
    (put same k v row).map Prod.snd = (row.map Prod.snd).set i v := by
  induction row generalizing i with
  | nil => exact absurd h nofun
  | cons e row ih =>
      rw [List.map_cons, List.findIdx?_cons] at h
      rw [put]
      by_cases hk : same k e.1
      · have hi : i = 0 := by simpa [hk, eq_comm] using h
        simp [hk, hi]
      · have hrest : ∃ j, (row.map Prod.fst).findIdx? (fun l => decide (same k l)) = some j ∧
            j + 1 = i := by simpa [hk] using h
        rcases hrest with ⟨j, hj, rfl⟩
        simp [hk, ih hj]

/-! ## Many values -/

variable (same) in
/-- The row of values that are given one after the other. -/
def ofList (es : List (κ × ν)) : List (κ × ν) :=
  es.foldl (fun row e => put same e.1 e.2 row) []

variable (same) in
/-- Each key in its first spelling, in the order in which they first came up. -/
def firsts : List κ → List κ
  | [] => []
  | k :: ks => k :: (firsts ks).filter fun l => ¬ same l k

theorem ofList_snoc (es : List (κ × ν)) (e : κ × ν) :
    ofList same (es ++ [e]) = put same e.1 e.2 (ofList same es) := by
  simp [ofList]

/-- A key has its last value. -/
theorem get?_ofList (hsame : Equivalence same) (k : κ) (es : List (κ × ν)) :
    get? same k (ofList same es) = get? same k es.reverse := by
  induction es using List.reverseRecOn with
  | nil => rfl
  | append_singleton es e ih =>
      rw [ofList_snoc, get?_put hsame, List.reverse_concat, get?_cons, ih]

/-- All keys that came up are there, each in its first spelling. -/
theorem exists_mem_firsts (hsame : Equivalence same) {ks : List κ} :
    (∃ l ∈ firsts same ks, same k l) ↔ ∃ l ∈ ks, same k l := by
  induction ks with
  | nil => rfl
  | cons key ks ih =>
      by_cases hk : same k key
      · simp [firsts, hk]
      · have hkept : ∀ l, same k l → ¬ same l key := fun l hl h => hk (hsame.trans hl h)
        calc
          (∃ l ∈ firsts same (key :: ks), same k l)
              ↔ ∃ l ∈ firsts same ks, same k l := by
                simp only [firsts, List.mem_cons, List.mem_filter, decide_eq_true_eq]
                constructor
                · rintro ⟨l, rfl | ⟨hl, -⟩, hsl⟩
                  · exact absurd hsl hk
                  · exact ⟨l, hl, hsl⟩
                · rintro ⟨l, hl, hsl⟩
                  exact ⟨l, .inr ⟨hl, hkept l hsl⟩, hsl⟩
          _ ↔ ∃ l ∈ ks, same k l := ih
          _ ↔ ∃ l ∈ key :: ks, same k l := by simp [hk]

/-- No key is there twice. -/
theorem pairwise_firsts (hsame : Equivalence same) (ks : List κ) :
    (firsts same ks).Pairwise fun k l => ¬ same k l := by
  induction ks with
  | nil => exact .nil
  | cons k ks ih =>
      refine List.pairwise_cons.2 ⟨fun l hl h => ?_, ih.filter _⟩
      have hne : ¬ same l k := by simpa using (List.mem_filter.1 hl).2
      exact hne (hsame.symm h)

/-- One more key stands at the end if it is new. -/
theorem firsts_snoc (ks : List κ) (k : κ) :
    firsts same (ks ++ [k]) =
      if ∃ l ∈ ks, same k l then firsts same ks else firsts same ks ++ [k] := by
  induction ks with
  | nil => simp [firsts]
  | cons key ks ih =>
      rw [List.cons_append, firsts, firsts, ih]
      by_cases hk : same k key
      · -- It is dropped as a spelling of the key in front.
        by_cases hks : ∃ l ∈ ks, same k l
        · rw [if_pos hks, if_pos ⟨key, List.mem_cons_self, hk⟩]
        · rw [if_neg hks, if_pos ⟨key, List.mem_cons_self, hk⟩]
          simp [hk]
      · by_cases hks : ∃ l ∈ ks, same k l
        · rcases hks with ⟨l, hl, hsl⟩
          rw [if_pos ⟨l, hl, hsl⟩, if_pos ⟨l, List.mem_cons_of_mem key hl, hsl⟩]
        · have hnew : ¬ ∃ l ∈ key :: ks, same k l := by simpa [hk] using hks
          rw [if_neg hks, if_neg hnew]
          simp [hk]

/-- Keys stand in the order in which they first came up. -/
theorem keys_ofList (hsame : Equivalence same) (es : List (κ × ν)) :
    (ofList same es).map Prod.fst = firsts same (es.map Prod.fst) := by
  induction es using List.reverseRecOn with
  | nil => rfl
  | append_singleton es e ih =>
      rw [ofList_snoc, List.map_append, List.map_singleton, firsts_snoc]
      by_cases h : ∃ l ∈ es.map Prod.fst, same e.1 l
      · -- It has a place already, so its value goes there.
        have hmem : ∃ l ∈ (ofList same es).map Prod.fst, same e.1 l := by
          rw [ih]
          exact (exists_mem_firsts hsame).2 h
        have hknown : ∃ d ∈ ofList same es, same e.1 d.1 := by simpa using hmem
        rw [if_pos h, keys_put hknown, ih]
      · have hnone : get? same e.1 (ofList same es) = none := by
          rw [get?_ofList hsame, get?_eq_none_iff]
          simpa using h
        rw [if_neg h, put_of_get?_eq_none hnone, List.map_append, ih, List.map_singleton]

end Row
end BuildTrace
