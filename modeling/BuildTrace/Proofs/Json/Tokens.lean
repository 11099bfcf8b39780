import BuildTrace.Json.Token
import BuildTrace.Proofs.Number.Digits
import Mathlib.Data.List.TakeWhile

/-!
# Tokens — the text of a row of tokens is read back

* `Token.IsExact` — a token that its text tells apart from all others;
* `Spells` — a text that is a row of tokens, one behind the other or with spaces between them;
* `Lexer.foldlM_escapeChar` — what is written for a character of a string adds that character;
* `Number.ofText?_text` — what is written for an integer stands for that integer;
* `tokens?_of_spells` — a text has the tokens it spells.

Only a number or a word could take in what comes next, so only behind one of them does the text have
to go on with something else.
-/

namespace BuildTrace
namespace Json

/-! ## What is written -/

namespace Token

/-- A number is an integer, and a string has a text. -/
def IsExact : Token → Prop
  | .number (.decimal ..) | .string none => False
  | _ => True

/-- A token that could go on with the next character. -/
def IsOpen : Token → Prop
  | .null | .bool _ | .number _ => True
  | _ => False

end Token

/-- A text that neither a number nor a word goes on with. -/
def Delimited (cs : List Char) : Prop :=
  ∀ c ∈ cs.head?, isNumberChar c = false ∧ c.isLower = false

/-- A text that is a row of tokens, with any spaces between them. -/
inductive Spells : List Token → List Char → Prop
  | nil : Spells [] []
  | space {c : Char} {ts : List Token} {cs : List Char} (hc : isSpace c = true)
      (rest : Spells ts cs) : Spells ts (c :: cs)
  | token {t : Token} {ts : List Token} {cs : List Char} (exact : t.IsExact)
      (delimited : t.IsOpen → Delimited cs) (rest : Spells ts cs) :
      Spells (t :: ts) (t.text ++ cs)

namespace Lexer

variable {r : List Token} {cs : List Char}

/-! ## Strings -/

theorem hexValue?_hexDigit : ∀ n < 16, hexValue? (hexDigit n) = some n := by
  decide

theorem addUnit_of_lt (l : Literal) {n : Nat} (h : n < 0x20) :
    l.addUnit n = l.add (Char.ofNat n) := by
  have hlow : ¬ 0xDC00 ≤ n := by omega
  have hhigh : ¬ 0xD800 ≤ n := by omega
  simp [Literal.addUnit, hlow, hhigh]

theorem foldlM_escapeChar (l : Literal) (c : Char) :
    (escapeChar c).foldlM step { reversed := r, mode := .string l } =
      some { reversed := r, mode := .string (l.add c) } := by
  unfold escapeChar
  split_ifs with hquote hslash hline hreturn htab hback hfeed hcontrol
  · subst hquote; rfl
  · subst hslash; rfl
  · subst hline; rfl
  · subst hreturn; rfl
  · subst htab; rfl
  · subst hback; rfl
  · subst hfeed; rfl
  · have hhigh := hexValue?_hexDigit (c.toNat / 16) (by omega)
    have hlow := hexValue?_hexDigit (c.toNat % 16) (by omega)
    have hzero : hexValue? '0' = some 0 := rfl
    have hadd : l.addUnit (c.toNat / 16 * 16 + c.toNat % 16) = l.add c := by
      simpa [Nat.div_add_mod'] using addUnit_of_lt l hcontrol
    simp [step, hhigh, hlow, hzero, hadd]
  · simp [step, hquote, hslash, hcontrol]

/-- A literal without half a pair that is open takes in any characters. -/
theorem foldlM_escaped : ∀ (text : List Char) (read : List Char),
    (text.flatMap escapeChar).foldlM step
        { reversed := r, mode := .string { reversed := read } } =
      some { reversed := r, mode := .string { reversed := text.reverse ++ read } } := by
  intro text
  induction text with
  | nil =>
      intro read
      rfl
  | cons c text ih =>
      intro read
      have hadd : ({ reversed := read } : Literal).add c = { reversed := c :: read } := rfl
      simpa [List.foldlM_append, foldlM_escapeChar, hadd] using ih (c :: read)

theorem foldlM_quoted (s : String) :
    (quoted s).foldlM step { reversed := r } = some { reversed := .string (some s) :: r } := by
  have hopen : step { reversed := r } '"' =
      some { reversed := r, mode := .string { reversed := [] } } := rfl
  have hclose : step { reversed := r, mode := .string { reversed := s.toList.reverse ++ [] } } '"' =
      some { reversed := .string (some s) :: r } := by
    simp [step, emit, Literal.text?]
  simp only [quoted, List.cons_append, List.foldlM_cons, List.foldlM_append, List.foldlM_nil, hopen,
    foldlM_escaped, hclose, Option.bind_eq_bind, Option.bind_some, Option.pure_def]

/-! ## Numbers and words -/

/-- What is open takes in all characters that it goes on with. -/
theorem foldlM_longer {goesOn : Char → Prop} {mode : List Char → LexerMode}
    (hstep : ∀ c begun, goesOn c → step { reversed := r, mode := mode begun } c =
      some { reversed := r, mode := mode (c :: begun) }) :
    ∀ {more : List Char} (begun : List Char), (∀ c ∈ more, goesOn c) →
      more.foldlM step { reversed := r, mode := mode begun } =
        some { reversed := r, mode := mode (more.reverse ++ begun) } := by
  intro more
  induction more with
  | nil =>
      intro begun _
      rfl
  | cons c more ih =>
      intro begun hall
      have hmore : ∀ d ∈ more, goesOn d := fun d hd => hall d (List.mem_cons_of_mem _ hd)
      simpa [hstep c begun (hall c List.mem_cons_self)] using ih (c :: begun) hmore

/-- Reads the rest of a text. -/
def read (l : Lexer) (cs : List Char) : Option Lexer :=
  (cs.foldlM step l).bind close

theorem read_append (l : Lexer) (cs ds : List Char) :
    l.read (cs ++ ds) = (cs.foldlM step l).bind fun l => l.read ds := by
  simp [read, List.foldlM_append, Option.bind_assoc]

/-- A text that does not go on with what is open ends it. -/
theorem read_of_close {l : Lexer} {t : Token}
    (hclose : l.close = some { reversed := t :: r })
    (hends : ∀ c ∈ cs.head?, l.step c = l.close.bind fun l => l.start c) :
    l.read cs = read { reversed := t :: r } cs := by
  cases cs with
  | nil => exact hclose
  | cons c cs =>
      have hstep : l.step c = step { reversed := t :: r } c := by
        rw [hends c rfl, hclose]
        rfl
      simp [read, hstep]

theorem read_number {n : Number} {digits : List Char} (hcs : Delimited cs)
    (hn : Number.ofText? digits.reverse = some n) :
    read { reversed := r, mode := .number digits } cs = read { reversed := .number n :: r } cs := by
  apply read_of_close
  · simp [close, hn, emit]
  · intro c hc
    simp [step, (hcs c hc).1]

theorem read_word {t : Token} {letters : List Char} (hcs : Delimited cs)
    (ht : word? letters.reverse = some t) :
    read { reversed := r, mode := .word letters } cs = read { reversed := t :: r } cs := by
  apply read_of_close
  · simp [close, ht, emit]
  · intro c hc
    simp [step, (hcs c hc).2]

end Lexer

open BuildTrace.Number

namespace Number

theorem ofText?_text (negative : Bool) (n : Nat) :
    ofText? (text (.integer negative n)) = some (.integer negative n) := by
  have hall : ∀ c ∈ Nat.toDigits 10 n, c.isDigit = true := fun c => isDigit_of_mem_toDigits
  have hvalue : Nat.ofDigitChars 10 (Nat.toDigits 10 n) 0 = n :=
    Nat.ofDigitChars_toDigits (by decide) (by decide)
  have hzero := length_toDigits_of_head n
  have hsome : Nat.toDigits 10 n ≠ [] := Nat.toDigits_ne_nil
  rcases List.exists_cons_of_ne_nil hsome with ⟨d, ds, hdigits⟩
  rw [hdigits] at hall hvalue hzero
  have htake : (d :: ds).takeWhile Char.isDigit = d :: ds := List.takeWhile_eq_self_iff.2 hall
  have hdrop : (d :: ds).dropWhile Char.isDigit = [] := List.dropWhile_eq_nil_iff.2 hall
  have hsign : d ≠ '-' := by
    rintro rfl
    cases hall '-' List.mem_cons_self
  cases negative <;> simpa [text, hdigits, ofText?, hsign, htake, hdrop, hvalue] using hzero

/-- An integer is written with digits, and perhaps a sign in front of them. -/
theorem exists_text (negative : Bool) (n : Nat) : ∃ c more,
    text (.integer negative n) = c :: more ∧ (c.isDigit = true ∨ c = '-') ∧
      ∀ d ∈ more, d.isDigit = true := by
  have hall : ∀ c ∈ Nat.toDigits 10 n, c.isDigit = true := fun c => isDigit_of_mem_toDigits
  have hsome : Nat.toDigits 10 n ≠ [] := Nat.toDigits_ne_nil
  cases negative with
  | true => exact ⟨'-', Nat.toDigits 10 n, rfl, Or.inr rfl, hall⟩
  | false =>
      rcases List.exists_cons_of_ne_nil hsome with ⟨c, more, hdigits⟩
      rw [hdigits] at hall
      refine ⟨c, more, hdigits, Or.inl (hall c List.mem_cons_self), ?_⟩
      exact fun d hd => hall d (List.mem_cons_of_mem c hd)

end Number

namespace Lexer

variable {r : List Token} {cs : List Char}

theorem start_number {c : Char} (hc : c.isDigit = true ∨ c = '-') :
    start { reversed := r } c = some { reversed := r, mode := .number [c] } := by
  have hspace : isSpace c = false := by
    by_contra hspace
    simp only [isSpace, Bool.or_eq_true, decide_eq_true_eq, Bool.not_eq_false] at hspace
    rcases hspace with ((rfl | rfl) | rfl) | rfl <;> simp at hc
  have hquote : c ≠ '"' := by
    rintro rfl
    simp at hc
  simp [start, hspace, hquote, hc]

theorem foldlM_number (negative : Bool) (n : Nat) :
    (Number.text (.integer negative n)).foldlM step { reversed := r } =
      some { reversed := r, mode := .number (Number.text (.integer negative n)).reverse } := by
  rcases Number.exists_text negative n with ⟨c, more, htext, hc, hmore⟩
  have hbegin : step { reversed := r } c = some { reversed := r, mode := .number [c] } :=
    start_number hc
  have hlonger : ∀ d begun, d.isDigit = true →
      step { reversed := r, mode := .number begun } d =
        some { reversed := r, mode := .number (d :: begun) } := by
    intro d begun hd
    simp [step, isNumberChar, hd]
  simpa [htext, hbegin] using foldlM_longer hlonger [c] hmore

/-- A token is read from its text. -/
theorem read_token {t : Token} (exact : t.IsExact) (delimited : t.IsOpen → Delimited cs) :
    read { reversed := r } (t.text ++ cs) = read { reversed := t :: r } cs := by
  cases t with
  | openBracket | closeBracket | openBrace | closeBrace | comma | colon => rfl
  | null => exact read_word (delimited trivial) rfl
  | bool b => cases b <;> exact read_word (delimited trivial) rfl
  | number n =>
      cases n with
      | decimal => exact exact.elim
      | integer negative n =>
          simp only [Token.text, read_append, foldlM_number, Option.bind_some]
          apply read_number (delimited trivial)
          simp [Number.ofText?_text]
  | string s =>
      cases s with
      | none => exact exact.elim
      | some s =>
          simp only [Token.text, Option.getD_some, read_append, foldlM_quoted, Option.bind_some]

theorem read_of_spells {ts : List Token} (h : Spells ts cs) : ∀ r : List Token,
    read { reversed := r } cs = some { reversed := ts.reverse ++ r } := by
  induction h with
  | nil =>
      intro r
      rfl
  | @space c ts cs hc _ ih =>
      intro r
      have hstep : step { reversed := r } c = some { reversed := r } := by
        simp [step, start, hc]
      simpa [read, hstep] using ih r
  | @token t ts cs exact delimited _ ih =>
      intro r
      simpa [read_token exact delimited] using ih (t :: r)

end Lexer

/-- **A text has the tokens it spells.** -/
theorem tokens?_of_spells {ts : List Token} {cs : List Char} (h : Spells ts cs) :
    tokens? cs = some ts := by
  have hread := Lexer.read_of_spells h []
  simp only [Lexer.read, List.append_nil] at hread
  simp [tokens?, hread]

end Json
end BuildTrace
