/-!
# Digits — how natural numbers are written

* `Number.isDigit_of_mem_toDigits` — digits are all there is;
* `Number.length_toDigits_of_head` — only the number zero begins with a zero.
-/

namespace BuildTrace
namespace Number

theorem isDigit_of_mem_toDigits {n : Nat} {c : Char} (h : c ∈ Nat.toDigits 10 n) :
    c.isDigit = true :=
  Nat.isDigit_of_mem_toDigits (by decide) (by decide) h

theorem eq_zero_of_head_toDigits (n : Nat) : (Nat.toDigits 10 n).head? = some '0' → n = 0 := by
  induction n using Nat.strongRecOn with
  | ind n ih =>
      intro hhead
      by_cases hsmall : n < 10
      · have hdigit : n.digitChar = '0' := by
          simpa [Nat.toDigits_of_lt_base hsmall] using hhead
        have hcases : ∀ m < 10, m.digitChar = '0' → m = 0 := by decide
        exact hcases n hsmall hdigit
      · have hfront : (Nat.toDigits 10 (n / 10)).head? = some '0' := by
          rw [Nat.toDigits_of_base_le (by decide) (by omega)] at hhead
          have hsome : Nat.toDigits 10 (n / 10) ≠ [] := Nat.toDigits_ne_nil
          rcases List.exists_cons_of_ne_nil hsome with ⟨d, ds, hd⟩
          simpa [hd] using hhead
        have hzero : n / 10 = 0 := ih (n / 10) (by omega) hfront
        omega

theorem length_toDigits_of_head (n : Nat) (h : (Nat.toDigits 10 n).head? = some '0') :
    (Nat.toDigits 10 n).length = 1 := by
  rw [eq_zero_of_head_toDigits n h]
  rfl

end Number
end BuildTrace
