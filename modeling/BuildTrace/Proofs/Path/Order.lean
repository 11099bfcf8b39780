import BuildTrace.Path.Basic
import Mathlib.Order.Basic
import Mathlib.Data.List.Lex
import Mathlib.Order.Defs.LinearOrder

/-!
# Order — paths by their components

The order of paths is that of their components, one after the other. It knows paths only up to
their spelling, and of two paths that differ one comes first:

* `Path.same_of_rank_eq` — the key of the order tells paths apart;
* `Path.not_same_of_precedes`, `precedes_trans`, `precedes_of_not_precedes` — a strict order, in
  which any two paths can be compared.
-/

namespace BuildTrace

theorem Component.rank_injective : Function.Injective Component.rank := by
  intro a b hrank
  cases a with
  | root =>
      cases b with
      | root => rfl
      | _ => simp [rank] at hrank
  | here =>
      cases b with
      | here => rfl
      | _ => simp [rank] at hrank
  | up =>
      cases b with
      | up => rfl
      | _ => simp [rank] at hrank
  | name s =>
      cases b with
      | name t =>
          -- Characters are told apart by their numbers, and names by their characters.
          have hchars : s.toList.map Char.toNat = t.toList.map Char.toNat := by
            simpa [rank] using hrank
          have hnat : Function.Injective Char.toNat := fun c d h =>
            Char.ext (UInt32.toNat_inj.1 h)
          have hlist : s.toList = t.toList := List.map_injective_iff.2 hnat hchars
          rw [String.toList_inj.1 hlist]
      | _ => simp [rank] at hrank

namespace Path

variable {p q r : Path}

theorem same_of_rank_eq (h : p.rank = q.rank) : p.Same q :=
  List.map_injective_iff.2 Component.rank_injective h

theorem precedes_iff : p.precedes q = true ↔ p.rank < q.rank := by
  simp [precedes]

theorem not_same_of_precedes (h : p.precedes q = true) : ¬ p.Same q := by
  intro hsame
  have hrank : p.rank = q.rank := congrArg (List.map Component.rank) hsame
  have hlt : p.rank < q.rank := precedes_iff.1 h
  exact absurd hrank hlt.ne

theorem precedes_trans (h : p.precedes q = true) (h' : q.precedes r = true) :
    p.precedes r = true :=
  precedes_iff.2 ((precedes_iff.1 h).trans (precedes_iff.1 h'))

/-- Of two paths that differ one precedes the other. -/
theorem precedes_of_not_precedes (hdiffer : ¬ p.Same q) (h : ¬ p.precedes q = true) :
    q.precedes p = true := by
  have hge : q.rank ≤ p.rank := not_lt.1 fun hlt => h (precedes_iff.2 hlt)
  have hne : q.rank ≠ p.rank := fun heq => hdiffer (same_of_rank_eq heq.symm)
  exact precedes_iff.2 (lt_of_le_of_ne hge hne)

end Path
end BuildTrace
