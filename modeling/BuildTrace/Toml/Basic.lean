import BuildTrace.Number.Binary64

/-!
# Toml — values of the TOML data format

* `Toml.Value` — a value. A date or a time is kept as its text;
* `Toml.skipBlanks`, `skipLines`, `lineEnd?` — what stands between values;
* `Toml.Shortens` — says that a reader takes at least one character.

A reader gives what it found at the beginning of a text together with the text behind it.
-/

namespace BuildTrace
namespace Toml

/-- A TOML value. -/
inductive Value where
  | string (s : String)
  | integer (n : Int)
  | float (x : Binary64)
  | boolean (b : Bool)
  /-- A date, a time, or both. -/
  | moment (text : String)
  | array (items : List Value)
  | table (entries : List (String × Value))
deriving Repr

/-- A reader that finds something takes at least one character. -/
def Shortens {α : Type} (read? : List Char → Option (α × List Char)) : Prop :=
  ∀ {cs rest : List Char} {a : α}, read? cs = some (a, rest) → rest.length < cs.length

/-! ## Blanks and lines -/

/-- Whether a character is a blank inside a line. -/
def isBlank (c : Char) : Bool :=
  c = ' ' || c = '\t'

/-- Whether a character may stand in a comment. -/
def isCommentChar (c : Char) : Bool :=
  c = '\t' || (' ' ≤ c && c.toNat ≠ 0x7F)

/-- The text without the blanks in front. -/
def skipBlanks (cs : List Char) : List Char :=
  cs.dropWhile isBlank

/-- The text behind a line break. -/
def newLine? : List Char → Option (List Char)
  | '\n' :: cs => some cs
  | '\r' :: '\n' :: cs => some cs
  | _ => none

/-- The text without blanks, line breaks and comments in front. -/
def skipLines (inComment : Bool) : List Char → List Char
  | [] => []
  | '\r' :: '\n' :: cs => skipLines false cs
  | c :: cs =>
    if c = '\n' then skipLines false cs
    else if inComment && isCommentChar c then skipLines true cs
    else if c = '#' then skipLines true cs
    else if isBlank c then skipLines false cs
    else c :: cs

/-- The text without a comment in front. -/
def dropComment : List Char → List Char
  | '#' :: cs => cs.dropWhile isCommentChar
  | cs => cs

/-- The text behind the end of a line, which may have a comment. -/
def lineEnd? (cs : List Char) : Option (List Char) :=
  match dropComment (skipBlanks cs) with
  | [] => some []
  | cs => newLine? cs

/-! ## How much is taken -/

theorem length_dropWhile_le (f : Char → Bool) (cs : List Char) :
    (cs.dropWhile f).length ≤ cs.length :=
  (List.dropWhile_sublist f).length_le

theorem length_skipBlanks_le (cs : List Char) : (skipBlanks cs).length ≤ cs.length :=
  length_dropWhile_le isBlank cs

theorem length_lt_of_skipBlanks {cs rest : List Char} {c : Char} (h : skipBlanks cs = c :: rest) :
    rest.length < cs.length := by
  have := length_skipBlanks_le cs
  rw [h] at this
  exact this

theorem length_newLine?_lt {cs rest : List Char} (h : newLine? cs = some rest) :
    rest.length < cs.length := by
  unfold newLine? at h
  split at h
  · obtain rfl := Option.some.inj h
    exact Nat.lt_succ_self _
  · obtain rfl := Option.some.inj h
    exact Nat.lt_succ_of_lt (Nat.lt_succ_self _)
  · exact absurd h (by simp)

theorem length_skipLines_le (inComment : Bool) (cs : List Char) :
    (skipLines inComment cs).length ≤ cs.length := by
  fun_induction skipLines inComment cs with
  | case1 => exact Nat.le_refl _
  | case2 _ _ ih => exact Nat.le_succ_of_le (Nat.le_succ_of_le ih)
  | case3 | case4 | case5 | case6 => exact Nat.le_succ_of_le ‹_›
  | case7 => exact Nat.le_refl _

theorem length_lt_of_skipLines {inComment : Bool} {cs rest : List Char} {c : Char}
    (h : skipLines inComment cs = c :: rest) : rest.length < cs.length := by
  have := length_skipLines_le inComment cs
  rw [h] at this
  exact this

theorem length_dropComment_le (cs : List Char) : (dropComment cs).length ≤ cs.length := by
  unfold dropComment
  split
  · exact Nat.le_succ_of_le (length_dropWhile_le isCommentChar _)
  · exact Nat.le_refl _

/-- The end of a line takes something unless the text is at its end. -/
theorem length_lineEnd?_lt {cs rest : List Char} (h : lineEnd? cs = some rest)
    (some_left : cs ≠ []) : rest.length < cs.length := by
  have blanks := length_skipBlanks_le cs
  have comment := length_dropComment_le (skipBlanks cs)
  unfold lineEnd? at h
  split at h
  · simp only [Option.some.injEq] at h
    subst h
    exact List.length_pos_iff.2 some_left
  · have := length_newLine?_lt h
    omega

/-- The end of a line never puts anything back. -/
theorem length_lineEnd?_le {cs rest : List Char} (h : lineEnd? cs = some rest) :
    rest.length ≤ cs.length := by
  by_cases some_left : cs = []
  · subst some_left
    simp_all [lineEnd?, skipBlanks, dropComment]
  · exact Nat.le_of_lt (length_lineEnd?_lt h some_left)

end Toml
end BuildTrace
