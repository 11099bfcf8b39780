import Mathlib.Data.List.Basic
import Mathlib.Data.List.TakeWhile

/-!
# Cut — lists taken apart at an item

Readers look for the next occurrence of an item with `takeWhile` and `dropWhile`. What they find is
said here as an equation about the whole list:

* `takeWhile_append`, `dropWhile_append` — a list whose front is all that has a property;
* `takeWhile_ne_append`, `dropWhile_ne_append` — a list that is known to have the item;
* `eq_append_of_dropWhile_ne` — a list in which it was found;
* `append_cons_inj` — what stands in front of the item, and behind it;
* `flatMap_ended_inj` — many lists, each with the item behind it;
* `exists_append_takeWhile_ne` — a list with the item put at its end.
-/

namespace BuildTrace
namespace Text

section Fronts

variable {α : Type} {p : α → Bool} {front rest : List α} (hfront : ∀ x ∈ front, p x = true)
  (hrest : ∀ x ∈ rest.head?, p x = false)

include hfront hrest

theorem takeWhile_append : (front ++ rest).takeWhile p = front := by
  rw [List.takeWhile_append_of_pos hfront]
  cases rest with
  | nil => simp
  | cons x rest => simp [hrest x rfl]

theorem dropWhile_append : (front ++ rest).dropWhile p = rest := by
  rw [List.dropWhile_append_of_pos hfront]
  cases rest with
  | nil => simp
  | cons x rest => simp [hrest x rfl]

end Fronts

variable {α : Type} [DecidableEq α] {x y : α} {front l rest : List α}

theorem ne_of_not_mem (h : x ∉ front) : ∀ b ∈ front, (b ≠ x : Bool) := by
  intro b hb
  have hne : b ≠ x := fun hx => h (hx ▸ hb)
  simpa using hne

/-! ## The next occurrence of an item -/

theorem takeWhile_ne_append (h : x ∉ front) (rest : List α) :
    (front ++ x :: rest).takeWhile (· ≠ x) = front :=
  takeWhile_append (ne_of_not_mem h) (by simp)

theorem dropWhile_ne_append (h : x ∉ front) (rest : List α) :
    (front ++ x :: rest).dropWhile (· ≠ x) = x :: rest :=
  dropWhile_append (ne_of_not_mem h) (by simp)

theorem dropWhile_ne_of_not_mem (h : x ∉ l) : l.dropWhile (· ≠ x) = [] := by
  have happ : (l ++ []).dropWhile (· ≠ x) = [] :=
    List.dropWhile_append_of_pos (ne_of_not_mem h)
  rwa [List.append_nil] at happ

theorem not_mem_takeWhile_ne : x ∉ l.takeWhile (· ≠ x) := by
  intro hx
  simpa using List.mem_takeWhile_imp hx

theorem eq_append_of_dropWhile_ne (h : l.dropWhile (· ≠ x) = y :: rest) :
    y = x ∧ l = l.takeWhile (· ≠ x) ++ x :: rest := by
  -- The first item that is kept fails the test it was kept for, so it is the one looked for.
  have hy : y = x := by
    have hhead := List.head?_dropWhile_not (· ≠ x) l
    rw [h] at hhead
    simpa using hhead
  refine ⟨hy, ?_⟩
  calc
    l = l.takeWhile (· ≠ x) ++ l.dropWhile (· ≠ x) := List.takeWhile_append_dropWhile.symm
    _ = l.takeWhile (· ≠ x) ++ x :: rest := by rw [h, hy]

/-- The first occurrence of an item cuts a list in one way only. -/
theorem append_cons_inj {front' rest' : List α} (hfront : x ∉ front) (hfront' : x ∉ front')
    (h : front ++ x :: rest = front' ++ x :: rest') : front = front' ∧ rest = rest' := by
  have hfronts : front = front' := by
    have htake := congrArg (List.takeWhile (· ≠ x)) h
    simpa only [takeWhile_ne_append hfront, takeWhile_ne_append hfront'] using htake
  have hrests : x :: rest = x :: rest' := by
    have hdrop := congrArg (List.dropWhile (· ≠ x)) h
    simpa only [dropWhile_ne_append hfront, dropWhile_ne_append hfront'] using hdrop
  exact ⟨hfronts, (List.cons.inj hrests).2⟩

/-- Lists that are all ended by an item they do not hold can be told apart. -/
theorem flatMap_ended_inj : ∀ {parts parts' : List (List α)}, (∀ part ∈ parts, x ∉ part) →
    (∀ part ∈ parts', x ∉ part) → parts.flatMap (· ++ [x]) = parts'.flatMap (· ++ [x]) →
      parts = parts' := by
  intro parts
  induction parts with
  | nil =>
      intro parts' _ _ h
      cases parts' with
      | nil => rfl
      | cons part' parts' => simp at h
  | cons part parts ih =>
      intro parts' hparts hparts' h
      cases parts' with
      | nil => simp at h
      | cons part' parts' =>
          rcases List.forall_mem_cons.1 hparts with ⟨hpart, hrest⟩
          rcases List.forall_mem_cons.1 hparts' with ⟨hpart', hrest'⟩
          simp only [List.flatMap_cons, List.append_assoc, List.singleton_append] at h
          -- The first end cuts both sides in one way, so the parts in front of it agree.
          rcases append_cons_inj hpart hpart' h with ⟨rfl, hback⟩
          rw [ih hrest hrest' hback]

/-- With the item put at its end, a list has all in front of the first one. -/
theorem exists_append_takeWhile_ne (x : α) (l : List α) :
    ∃ after, l ++ [x] = l.takeWhile (· ≠ x) ++ x :: after := by
  cases hrest : l.dropWhile (· ≠ x) with
  | nil =>
      refine ⟨[], ?_⟩
      calc
        l ++ [x] = (l.takeWhile (· ≠ x) ++ l.dropWhile (· ≠ x)) ++ [x] := by
              rw [List.takeWhile_append_dropWhile]
        _ = l.takeWhile (· ≠ x) ++ [x] := by rw [hrest, List.append_nil]
  | cons y rest =>
      refine ⟨rest ++ [x], ?_⟩
      calc
        l ++ [x] = (l.takeWhile (· ≠ x) ++ x :: rest) ++ [x] :=
              congrArg (· ++ [x]) (eq_append_of_dropWhile_ne hrest).2
        _ = l.takeWhile (· ≠ x) ++ x :: (rest ++ [x]) := by
              rw [List.append_assoc, List.cons_append]

end Text
end BuildTrace
