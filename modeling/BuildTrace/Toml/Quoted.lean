import BuildTrace.Toml.Basic

/-!
# Quoted — TOML strings

There are four ways to write a string: in quotes or in apostrophes, on one line or on several.

* `basic?`, `literal?` — on one line; in quotes a backslash begins an escape;
* `basicLines?`, `literalLines?` — on several lines, between triple quotes or apostrophes. A line
  break right behind the opening does not count, and every other one is a line feed;
* `string?` — any of them, and `lineString?` the first two.

Each of them takes at least one character: `shortens_string?`, `shortens_lineString?`.
-/

namespace BuildTrace
namespace Toml

/-- Whether a character stands for itself in a string, quotes and backslashes aside. -/
def isPlain (c : Char) : Bool :=
  c = '\t' || (' ' ≤ c && c.toNat ≠ 0x7F)

/-! ## Escapes -/

/-- The value of a digit of base sixteen. -/
def hexValue? (c : Char) : Option Nat :=
  if c.isDigit then some (c.toNat - 48)
  else if 'a' ≤ c && c ≤ 'f' then some (c.toNat - 87)
  else if 'A' ≤ c && c ≤ 'F' then some (c.toNat - 55)
  else none

/-- The number that digits of base sixteen stand for. -/
def hexNumber? (cs : List Char) : Option Nat :=
  cs.foldlM (fun n c => (hexValue? c).map fun d => 16 * n + d) 0

/-- The character of a number, if it has one. -/
def charOf? (n : Nat) : Option Char :=
  if h : n.isValidChar then some (Char.ofNatAux n h) else none

/-- The character that digits of base sixteen stand for. -/
def hexChar? (cs : List Char) : Option Char :=
  (hexNumber? cs).bind charOf?

/-- The character a one-letter escape stands for. -/
def escaped? (c : Char) : Option Char :=
  if c = 'b' then some (Char.ofNat 8)
  else if c = 't' then some '\t'
  else if c = 'n' then some '\n'
  else if c = 'f' then some (Char.ofNat 12)
  else if c = 'r' then some '\r'
  else if c = '"' then some '"'
  else if c = '\\' then some '\\'
  else none

/-! ## One line -/

/-- Puts a character in front of what was found. -/
def consTo (c : Char) (p : Option (List Char × List Char)) : Option (List Char × List Char) :=
  p.map fun (cs, rest) => (c :: cs, rest)

/-- A string in quotes, behind the opening one. -/
def basic? : List Char → Option (List Char × List Char)
  | '"' :: rest => some ([], rest)
  | '\\' :: 'u' :: a :: b :: c :: d :: rest =>
    (hexChar? [a, b, c, d]).bind fun x => consTo x (basic? rest)
  | '\\' :: 'U' :: a :: b :: c :: d :: e :: f :: g :: h :: rest =>
    (hexChar? [a, b, c, d, e, f, g, h]).bind fun x => consTo x (basic? rest)
  | '\\' :: c :: rest => (escaped? c).bind fun x => consTo x (basic? rest)
  | c :: rest => if isPlain c && c ≠ '\\' then consTo c (basic? rest) else none
  | [] => none

/-- A string in apostrophes, behind the opening one. -/
def literal? : List Char → Option (List Char × List Char)
  | '\'' :: rest => some ([], rest)
  | c :: rest => if isPlain c then consTo c (literal? rest) else none
  | [] => none

/-! ## Several lines -/

/-- Whether nothing but blanks is left of the line. -/
def isLineRest (cs : List Char) : Bool :=
  (newLine? (skipBlanks cs)).isSome

/-- A string in triple quotes, behind the opening ones. A backslash at the end of a line takes away
all blanks and line breaks behind it. -/
def basicLines? (skipping : Bool) : List Char → Option (List Char × List Char)
  | '"' :: '"' :: '"' :: '"' :: '"' :: rest => some (['"', '"'], rest)
  | '"' :: '"' :: '"' :: '"' :: rest => some (['"'], rest)
  | '"' :: '"' :: '"' :: rest => some ([], rest)
  | '\\' :: 'u' :: a :: b :: c :: d :: rest =>
    (hexChar? [a, b, c, d]).bind fun x => consTo x (basicLines? false rest)
  | '\\' :: 'U' :: a :: b :: c :: d :: e :: f :: g :: h :: rest =>
    (hexChar? [a, b, c, d, e, f, g, h]).bind fun x => consTo x (basicLines? false rest)
  | '\\' :: c :: rest =>
    if isLineRest (c :: rest) then basicLines? true (c :: rest)
    else (escaped? c).bind fun x => consTo x (basicLines? false rest)
  | '\r' :: '\n' :: rest =>
    if skipping then basicLines? true rest else consTo '\n' (basicLines? false rest)
  | c :: rest =>
    if skipping && (isBlank c || c = '\n') then basicLines? true rest
    else if c = '\n' || (isPlain c && c ≠ '\\') then consTo c (basicLines? false rest)
    else none
  | [] => none

/-- A string in triple apostrophes, behind the opening ones. -/
def literalLines? : List Char → Option (List Char × List Char)
  | '\'' :: '\'' :: '\'' :: '\'' :: '\'' :: rest => some (['\'', '\''], rest)
  | '\'' :: '\'' :: '\'' :: '\'' :: rest => some (['\''], rest)
  | '\'' :: '\'' :: '\'' :: rest => some ([], rest)
  | '\r' :: '\n' :: rest => consTo '\n' (literalLines? rest)
  | c :: rest => if c = '\n' || isPlain c then consTo c (literalLines? rest) else none
  | [] => none

/-- The text without a line break in front. -/
def dropNewLine (cs : List Char) : List Char :=
  (newLine? cs).getD cs

/-! ## Strings -/

/-- A string on one line. -/
def lineString? : List Char → Option (String × List Char)
  | '"' :: rest => (basic? rest).map fun (cs, rest) => (String.ofList cs, rest)
  | '\'' :: rest => (literal? rest).map fun (cs, rest) => (String.ofList cs, rest)
  | _ => none

/-- A string. -/
def string? : List Char → Option (String × List Char)
  | '"' :: '"' :: '"' :: rest =>
    (basicLines? false (dropNewLine rest)).map fun (cs, rest) => (String.ofList cs, rest)
  | '\'' :: '\'' :: '\'' :: rest =>
    (literalLines? (dropNewLine rest)).map fun (cs, rest) => (String.ofList cs, rest)
  | cs => lineString? cs

/-! ## How much is taken -/

theorem length_lt_of_consTo {c : Char} {p : Option (List Char × List Char)} {n : Nat}
    {cs rest : List Char} (h : consTo c p = some (cs, rest))
    (ih : ∀ {found}, p = some (found, rest) → rest.length < n) : rest.length < n := by
  obtain ⟨⟨found, behind⟩, hp, hcs⟩ := Option.map_eq_some_iff.1 h
  simp only [Prod.mk.injEq] at hcs
  exact ih (hcs.2 ▸ hp)

theorem length_lt_of_bind_consTo {o : Option Char} {p : Option (List Char × List Char)} {n : Nat}
    {cs rest : List Char} (h : (o.bind fun x => consTo x p) = some (cs, rest))
    (ih : ∀ {found}, p = some (found, rest) → rest.length < n) : rest.length < n := by
  obtain ⟨x, -, hx⟩ := Option.bind_eq_some_iff.1 h
  exact length_lt_of_consTo hx ih

theorem shortens_basic? : Shortens basic? := by
  intro cs rest found h
  fun_induction basic? cs generalizing found with
  | case1 => simp_all
  | case2 | case3 | case4 =>
    have := length_lt_of_bind_consTo h ‹_›
    simp only [List.length_cons]
    omega
  | case5 => exact Nat.lt_succ_of_lt (length_lt_of_consTo h ‹_›)
  | case6 | case7 => simp_all

theorem shortens_literal? : Shortens literal? := by
  intro cs rest found h
  fun_induction literal? cs generalizing found with
  | case1 => simp_all
  | case2 => exact Nat.lt_succ_of_lt (length_lt_of_consTo h ‹_›)
  | case3 | case4 => simp_all

theorem shortens_basicLines? (skipping : Bool) : Shortens (basicLines? skipping) := by
  intro cs rest found h
  fun_induction basicLines? skipping cs generalizing found with
  | case1 | case2 | case3 =>
    simp only [Option.some.injEq, Prod.mk.injEq] at h
    simp only [← h.2, List.length_cons]
    omega
  | case4 | case5 | case7 =>
    have := length_lt_of_bind_consTo h ‹_›
    simp only [List.length_cons] at this ⊢
    omega
  | case6 | case8 | case10 => grind
  | case9 =>
    have := length_lt_of_consTo h ‹_›
    simp only [List.length_cons]
    omega
  | case11 => exact Nat.lt_succ_of_lt (length_lt_of_consTo h ‹_›)
  | case12 | case13 => simp_all

theorem shortens_literalLines? : Shortens literalLines? := by
  intro cs rest found h
  fun_induction literalLines? cs generalizing found with
  | case1 | case2 | case3 =>
    simp only [Option.some.injEq, Prod.mk.injEq] at h
    simp only [← h.2, List.length_cons]
    omega
  | case4 | case5 =>
    have := length_lt_of_consTo h ‹_›
    simp only [List.length_cons]
    omega
  | case6 | case7 => simp_all

theorem length_dropNewLine_le (cs : List Char) : (dropNewLine cs).length ≤ cs.length := by
  unfold dropNewLine
  cases h : newLine? cs with
  | none => exact Nat.le_refl _
  | some rest => exact Nat.le_of_lt (length_newLine?_lt h)

theorem shortens_lineString? : Shortens lineString? := by
  intro cs rest s h
  unfold lineString? at h
  split at h
  · obtain ⟨⟨found, behind⟩, hf, heq⟩ := Option.map_eq_some_iff.1 h
    have := shortens_basic? hf
    grind
  · obtain ⟨⟨found, behind⟩, hf, heq⟩ := Option.map_eq_some_iff.1 h
    have := shortens_literal? hf
    grind
  · simp at h

theorem shortens_string? : Shortens string? := by
  intro cs rest s h
  unfold string? at h
  split at h
  · next body =>
    obtain ⟨⟨found, behind⟩, hf, heq⟩ := Option.map_eq_some_iff.1 h
    have := shortens_basicLines? false hf
    grind [length_dropNewLine_le body]
  · next body =>
    obtain ⟨⟨found, behind⟩, hf, heq⟩ := Option.map_eq_some_iff.1 h
    have := shortens_literalLines? hf
    grind [length_dropNewLine_le body]
  · exact shortens_lineString? h

end Toml
end BuildTrace
