import BuildTrace.Proofs.Shell.Words
import Mathlib.Data.List.Induction

/-!
# Quoting — the ways of writing a word

A word of a command line is written in pieces: plain characters, a backslash with the character
behind it, and text in quotes of two kinds. This file gives a grammar of its own for lines,

* `DoubleQuoted`, `Segment`, `Written` — quoted text, a piece and a word, each beside what it stands
  for;
* `Line` — words with blanks between them;
* `Closed`, `EndsIn` — a text in which no quote is left open, and what is open at the end of a text;

and compares the splitter with it. A text that is written one way or the other takes the splitter
where the grammar says (`Segment.foldl`, `EndsIn.quoting_foldl`), and each character that is read
keeps the grammar in step (`EndsIn.snoc`). Main statement: `words?_quoted`.
-/

namespace BuildTrace
namespace Shell

/-! ## Writing -/

/-- Text between double quotes, and what it stands for. -/
inductive DoubleQuoted : List Char → List Char → Prop where
  | nil : DoubleQuoted [] []
  | char {c : Char} {text value : List Char} : DoubleQuoted text value → c ≠ '"' → c ≠ '\\' →
      DoubleQuoted (text ++ [c]) (value ++ [c])
  | escape {c : Char} {text value : List Char} : DoubleQuoted text value →
      isDoubleQuoteEscape c = true → DoubleQuoted (text ++ ['\\', c]) (value ++ [c])
  | both {c : Char} {text value : List Char} : DoubleQuoted text value →
      isDoubleQuoteEscape c = false → DoubleQuoted (text ++ ['\\', c]) (value ++ ['\\', c])

/-- A piece of a word, and what it stands for. -/
inductive Segment : List Char → List Char → Prop where
  | plain {text : List Char} : text ≠ [] → (∀ c ∈ text, IsPlain c) → Segment text text
  | escaped (c : Char) : Segment ['\\', c] [c]
  | single {text : List Char} : '\'' ∉ text → Segment ('\'' :: text ++ ['\'']) text
  | double {text value : List Char} : DoubleQuoted text value →
      Segment ('"' :: text ++ ['"']) value

/-- A word in pieces, and what it stands for. -/
inductive Written : List Char → List Char → Prop where
  | piece {text value : List Char} : Segment text value → Written text value
  | pieces {text value rest restValue : List Char} : Segment text value →
      Written rest restValue → Written (text ++ rest) (value ++ restValue)

/-- Words with blanks between them, and perhaps around them. -/
inductive Line : List Char → List String → Prop where
  | blanks {blanks : List Char} : (∀ c ∈ blanks, Text.isBlank c) → Line blanks []
  | word {blanks text value rest : List Char} {words : List String} :
      (∀ c ∈ blanks, Text.isBlank c) → Written text value →
        (∀ c ∈ rest.head?, Text.isBlank c) → Line rest words →
          Line (blanks ++ text ++ rest) (String.ofList value :: words)

/-- Pieces of words and blanks, in any order. -/
inductive Closed : List Char → Prop where
  | nil : Closed []
  | blank {text : List Char} {c : Char} : Closed text → Text.isBlank c → Closed (text ++ [c])
  | piece {text piece value : List Char} : Closed text → Segment piece value →
      Closed (text ++ piece)

/-- What is open at the end of a text. -/
inductive EndsIn : Quoting → List Char → Prop where
  | bare {text : List Char} : Closed text → EndsIn .bare text
  | escaped {text : List Char} : Closed text → EndsIn .escaped (text ++ ['\\'])
  | single {text inside : List Char} : Closed text → '\'' ∉ inside →
      EndsIn .single (text ++ '\'' :: inside)
  | double {text inside value : List Char} : Closed text → DoubleQuoted inside value →
      EndsIn .double (text ++ '"' :: inside)
  | doubleEscaped {text inside value : List Char} : Closed text → DoubleQuoted inside value →
      EndsIn .doubleEscaped (text ++ '"' :: inside ++ ['\\'])

/-! ## Reading what is written -/

namespace Splitter

variable {s : Splitter} {c : Char}

/-- Adds characters to the word, and opens one if none is open. -/
def write (s : Splitter) (value : List Char) : Splitter :=
  { s with current := some (value.reverse ++ s.current.getD []) }

@[simp] theorem write_write (s : Splitter) (value value' : List Char) :
    (s.write value).write value' = s.write (value ++ value') := by
  simp [write]

theorem withQuoting_of_eq {q : Quoting} (h : s.quoting = q) : s.withQuoting q = s := by
  subst h
  rfl

theorem endWord_of_none (h : s.current = none) : s.endWord = s := by
  simp [endWord, h]

theorem endWord_write (h : s.current = none) (value : List Char) :
    (s.write value).endWord = { s with finished := String.ofList value :: s.finished } := by
  simp [write, endWord, h]

theorem current_endWord (s : Splitter) : s.endWord.current = none := by
  cases h : s.current with
  | none => simp [endWord, h]
  | some cs => simp [endWord, h]

theorem quoting_endWord (s : Splitter) : s.endWord.quoting = s.quoting := by
  cases h : s.current with
  | none => simp [endWord, h]
  | some cs => simp [endWord, h]

theorem step_blank (hbare : s.quoting = .bare) (hc : Text.isBlank c) : s.step c = s.endWord := by
  -- No quote is a blank, and the backslash is none.
  have hne : ∀ b, Text.isBlank b = false → c ≠ b := by
    intro b hb hcb
    rw [hcb, hb] at hc
    exact Bool.false_ne_true hc
  simp [step, hbare, hc, hne '\'' (by decide), hne '"' (by decide), hne '\\' (by decide)]

theorem step_singleQuote (hbare : s.quoting = .bare) :
    s.step '\'' = (s.write []).withQuoting .single := by
  simp [step, hbare, openWord, write]

theorem step_doubleQuote (hbare : s.quoting = .bare) :
    s.step '"' = (s.write []).withQuoting .double := by
  simp [step, hbare, openWord, write]

theorem foldl_blanks {blanks : List Char} (hbare : s.quoting = .bare) (hnone : s.current = none)
    (hblanks : ∀ c ∈ blanks, Text.isBlank c) : blanks.foldl step s = s := by
  induction blanks with
  | nil => rfl
  | cons c blanks ih =>
      have hc : s.step c = s :=
        (step_blank hbare (hblanks c List.mem_cons_self)).trans (endWord_of_none hnone)
      simpa [hc] using ih fun b hb => hblanks b (List.mem_cons_of_mem c hb)

/-- The word is over where the text ends, and where a blank comes first. -/
theorem endWord_foldl {rest : List Char} (hbare : s.quoting = .bare)
    (hrest : ∀ c ∈ rest.head?, Text.isBlank c) :
    (rest.foldl step s).endWord = (rest.foldl step s.endWord).endWord := by
  have htwice : s.endWord.endWord = s.endWord := endWord_of_none (current_endWord s)
  cases rest with
  | nil => exact htwice.symm
  | cons c rest =>
      have hc : Text.isBlank c := hrest c rfl
      have hbare' : s.endWord.quoting = .bare := (quoting_endWord s).trans hbare
      simp [step_blank hbare hc, step_blank hbare' hc, htwice]

end Splitter

open Splitter

variable {s : Splitter} {text value inside : List Char}

/-! ### Quoted text -/

theorem foldl_single (s : Splitter) (h : '\'' ∉ inside) :
    inside.foldl step ((s.write []).withQuoting .single) =
      (s.write inside).withQuoting .single := by
  induction inside using List.reverseRecOn with
  | nil => rfl
  | append_singleton inside c ih =>
      simp only [List.mem_append, List.mem_singleton, not_or] at h
      have hc : c ≠ '\'' := Ne.symm h.2
      simp only [List.foldl_append, ih h.1]
      simp [step, withQuoting, hc, add, write]

theorem DoubleQuoted.foldl (h : DoubleQuoted inside value) (s : Splitter) :
    inside.foldl step ((s.write []).withQuoting .double) =
      (s.write value).withQuoting .double := by
  induction h with
  | nil => rfl
  | char _ hquote hescape ih =>
      simp only [List.foldl_append, ih]
      simp [step, withQuoting, hquote, hescape, add, write]
  | escape _ hc ih =>
      simp only [List.foldl_append, ih]
      simp [step, withQuoting, hc, add, write]
  | both _ hc ih =>
      simp only [List.foldl_append, ih]
      simp [step, withQuoting, hc, add, write]

/-! ### Pieces, words and lines -/

/-- A piece is added to the word as what it stands for. -/
theorem Segment.foldl (h : Segment text value) (hbare : s.quoting = .bare) :
    text.foldl step s = s.write value := by
  have hopen : (s.write value).withQuoting .bare = s.write value := withQuoting_of_eq hbare
  cases h with
  | plain hne hplain =>
      rcases List.exists_cons_of_ne_nil hne with ⟨c, cs, rfl⟩
      have hc : s.step c = s.add c := step_of_isPlain hbare (hplain c List.mem_cons_self)
      have hcs : ∀ b ∈ cs, IsPlain b := fun b hb => hplain b (List.mem_cons_of_mem c hb)
      calc
        (c :: cs).foldl step s = cs.foldl step (s.add c) := by simp [hc]
        _ = { s.add c with current := some (cs.reverse ++ c :: s.current.getD []) } :=
              foldl_of_isPlain cs hbare rfl hcs
        _ = s.write (c :: cs) := by simp [write, add]
  | escaped c => simp [step, hbare, openWord, withQuoting, add, write]
  | single hinside =>
      calc
        ('\'' :: value ++ ['\'']).foldl step s
            = ((s.write value).withQuoting .single).step '\'' := by
              simp [step_singleQuote hbare, foldl_single s hinside]
        _ = (s.write value).withQuoting .bare := by simp [step, withQuoting]
        _ = s.write value := hopen
  | @double inside _ hinside =>
      calc
        ('"' :: inside ++ ['"']).foldl step s
            = ((s.write value).withQuoting .double).step '"' := by
              simp [step_doubleQuote hbare, hinside.foldl s]
        _ = (s.write value).withQuoting .bare := by simp [step, withQuoting]
        _ = s.write value := hopen

theorem Written.foldl (h : Written text value) (hbare : s.quoting = .bare) :
    text.foldl step s = s.write value := by
  induction h generalizing s with
  | piece hpiece => exact hpiece.foldl hbare
  | @pieces text value rest restValue hpiece _ ih =>
      have hrest : rest.foldl step (s.write value) = (s.write value).write restValue := ih hbare
      simp [hpiece.foldl hbare, hrest]

/-- The words of a line are finished one by one, the last of them where the line ends. -/
theorem Line.foldl {line : List Char} {words : List String} (h : Line line words)
    (hbare : s.quoting = .bare) (hnone : s.current = none) :
    (line.foldl step s).endWord = { s with finished := words.reverse ++ s.finished } := by
  induction h generalizing s with
  | blanks hblanks =>
      simp only [foldl_blanks hbare hnone hblanks]
      exact endWord_of_none hnone
  | @word blanks text value rest words hblanks hword hrest _ ih =>
      calc
        ((blanks ++ text ++ rest).foldl step s).endWord
            = (rest.foldl step (s.write value)).endWord := by
              simp [foldl_blanks hbare hnone hblanks, hword.foldl hbare]
        _ = (rest.foldl step { s with finished := String.ofList value :: s.finished }).endWord := by
              rw [endWord_foldl (s := s.write value) hbare hrest, endWord_write hnone]
        _ = { s with finished := words.reverse ++ String.ofList value :: s.finished } :=
              ih hbare hnone
        _ = { s with finished := (String.ofList value :: words).reverse ++ s.finished } := by simp

theorem words?_of_line {line : List Char} {words : List String} (h : Line line words) :
    words? line = some words := by
  have hread : (line.foldl step {}).endWord = { finished := words.reverse } := by
    simpa using h.foldl (s := {}) rfl rfl
  have hbare : (line.foldl step {}).quoting = .bare := by
    calc
      (line.foldl step {}).quoting = (line.foldl step {}).endWord.quoting :=
            (quoting_endWord _).symm
      _ = .bare := by rw [hread]
  simp [words?, finish?, hbare, hread]

/-! ## What is open -/

theorem Closed.quoting_foldl (h : Closed text) (hbare : s.quoting = .bare) :
    (text.foldl step s).quoting = .bare := by
  induction h with
  | nil => exact hbare
  | @blank text c _ hc ih => simp [step_blank ih hc, quoting_endWord, ih]
  | piece _ hpiece ih => simp [hpiece.foldl ih, write, ih]

/-- The splitter has open what the grammar says. -/
theorem EndsIn.quoting_foldl {q : Quoting} (h : EndsIn q text) (hbare : s.quoting = .bare) :
    (text.foldl step s).quoting = q := by
  cases h with
  | bare hclosed => exact hclosed.quoting_foldl hbare
  | escaped hclosed =>
      have hfront := hclosed.quoting_foldl hbare
      simp [step, hfront, withQuoting]
  | single hclosed hinside =>
      have hfront := hclosed.quoting_foldl hbare
      simp only [List.foldl_append, List.foldl_cons, step_singleQuote hfront,
        foldl_single _ hinside]
      rfl
  | double hclosed hinside =>
      have hfront := hclosed.quoting_foldl hbare
      simp only [List.foldl_append, List.foldl_cons, step_doubleQuote hfront, hinside.foldl]
      rfl
  | doubleEscaped hclosed hinside =>
      have hfront := hclosed.quoting_foldl hbare
      simp only [List.foldl_append, List.foldl_cons, step_doubleQuote hfront, hinside.foldl]
      simp [step, withQuoting]

/-- What is open behind one character more. -/
def Quoting.next : Quoting → Char → Quoting
  | .bare, c =>
    if c = '\'' then .single
    else if c = '"' then .double
    else if c = '\\' then .escaped
    else .bare
  | .escaped, _ => .bare
  | .single, c => if c = '\'' then .bare else .single
  | .double, c => if c = '"' then .bare else if c = '\\' then .doubleEscaped else .double
  | .doubleEscaped, _ => .double

theorem quoting_step (s : Splitter) (c : Char) : (s.step c).quoting = s.quoting.next c := by
  cases hq : s.quoting with
  | bare =>
      simp only [step, hq, Quoting.next]
      split_ifs
      all_goals simp [withQuoting, quoting_endWord, add, hq]
  | escaped => simp [step, hq, Quoting.next, withQuoting]
  | single =>
      simp only [step, hq, Quoting.next]
      split_ifs
      all_goals simp [withQuoting, add, hq]
  | double =>
      simp only [step, hq, Quoting.next]
      split_ifs
      all_goals simp [withQuoting, add, hq]
  | doubleEscaped => simp [step, hq, Quoting.next, withQuoting]

/-- The grammar keeps in step with what is open. -/
theorem EndsIn.snoc {q : Quoting} (h : EndsIn q text) (c : Char) :
    EndsIn (q.next c) (text ++ [c]) := by
  cases h with
  | bare hclosed =>
      simp only [Quoting.next]
      split_ifs with hsingle hdouble hescape
      · subst hsingle
        exact .single hclosed List.not_mem_nil
      · subst hdouble
        exact .double hclosed .nil
      · subst hescape
        exact .escaped hclosed
      · -- Any other character is a blank between words, or a word of its own.
        by_cases hblank : Text.isBlank c = true
        · exact .bare (.blank hclosed hblank)
        · have hplain : IsPlain c := ⟨by simpa using hblank, hsingle, hdouble, hescape⟩
          exact .bare (.piece hclosed (.plain (List.cons_ne_nil c []) (by simpa using hplain)))
  | @escaped front hclosed =>
      have htext : front ++ ['\\'] ++ [c] = front ++ ['\\', c] := by simp
      rw [htext]
      exact .bare (.piece hclosed (.escaped c))
  | @single front inside hclosed hinside =>
      have htext : front ++ '\'' :: inside ++ [c] = front ++ '\'' :: (inside ++ [c]) := by simp
      rw [htext]
      simp only [Quoting.next]
      split_ifs with hc
      · subst hc
        exact .bare (.piece hclosed (.single hinside))
      · exact .single hclosed (by simpa [hinside] using Ne.symm hc)
  | @double front inside value hclosed hinside =>
      have htext : front ++ '"' :: inside ++ [c] = front ++ '"' :: (inside ++ [c]) := by simp
      simp only [Quoting.next]
      split_ifs with hc hescape
      · subst hc
        rw [htext]
        exact .bare (.piece hclosed (.double hinside))
      · subst hescape
        exact .doubleEscaped hclosed hinside
      · rw [htext]
        exact .double hclosed (.char hinside hc hescape)
  | @doubleEscaped front inside value hclosed hinside =>
      have htext : front ++ '"' :: inside ++ ['\\'] ++ [c] =
          front ++ '"' :: (inside ++ ['\\', c]) := by simp
      rw [htext]
      cases hc : isDoubleQuoteEscape c with
      | true => exact .double hclosed (.escape hinside hc)
      | false => exact .double hclosed (.both hinside hc)

theorem endsIn_foldl (line : List Char) : EndsIn (line.foldl step {}).quoting line := by
  induction line using List.reverseRecOn with
  | nil => exact .bare .nil
  | append_singleton line c ih => simpa [quoting_step] using ih.snoc c

theorem quoting_foldl_iff {line : List Char} {q : Quoting} :
    (line.foldl step {}).quoting = q ↔ EndsIn q line := by
  constructor
  · rintro rfl
    exact endsIn_foldl line
  · intro h
    exact h.quoting_foldl rfl

theorem words?_eq_none_iff {line : List Char} :
    words? line = none ↔
      EndsIn .single line ∨ EndsIn .double line ∨ EndsIn .doubleEscaped line := by
  simp only [← quoting_foldl_iff, words?, finish?]
  cases (line.foldl step {}).quoting with
  | bare => simp
  | escaped => simp
  | single => simp
  | double => simp
  | doubleEscaped => simp

/-- **How a line is read.** A line gives nothing exactly if it ends inside quotes, a backslash at
the end of double quotes included; and however words are written, with blanks between them, these
words are read. -/
theorem words?_quoted (line : List Char) :
    (words? line = none ↔
      EndsIn .single line ∨ EndsIn .double line ∨ EndsIn .doubleEscaped line) ∧
      ∀ words, Line line words → words? line = some words :=
  ⟨words?_eq_none_iff, fun _ h => words?_of_line h⟩

/-- Quotes of both kinds, a backslash in front of a blank, and an empty word. -/
def quotedLine : List Char :=
  " \"a\\\"b\\c\"'d e'\\ f '' ".toList

theorem line_quotedLine : Line quotedLine ["a\"b\\cd e f", ""] := by
  have hblank : ∀ c ∈ [' '], Text.isBlank c := fun c hc => by
    rw [List.mem_singleton.1 hc]
    decide
  have hfirst : ∀ rest, ∀ c ∈ (' ' :: rest).head?, Text.isBlank c := fun rest c hc => by
    rw [← Option.mem_some.1 hc]
    decide
  have hdouble : Segment ['"', 'a', '\\', '"', 'b', '\\', 'c', '"'] ['a', '"', 'b', '\\', 'c'] := by
    have hfirst := DoubleQuoted.nil.char (by decide : 'a' ≠ '"') (by decide)
    have hrest := (hfirst.escape (by decide : isDoubleQuoteEscape '"' = true)).char
      (by decide : 'b' ≠ '"') (by decide)
    exact .double (hrest.both (by decide : isDoubleQuoteEscape 'c' = false))
  have hsingle : Segment ['\'', 'd', ' ', 'e', '\''] ['d', ' ', 'e'] :=
    .single (by decide : '\'' ∉ ['d', ' ', 'e'])
  have hplain : Segment ['f'] ['f'] :=
    .plain (by decide) fun c hc => by
      rw [List.mem_singleton.1 hc]
      exact ⟨by decide, by decide, by decide, by decide⟩
  have hempty : Written ['\'', '\''] [] := .piece (.single List.not_mem_nil)
  have hword := Written.pieces hdouble
    (.pieces hsingle (.pieces (.escaped ' ') (.piece hplain)))
  have hlast := Line.word hblank hempty (hfirst []) (.blanks hblank)
  exact .word hblank hword (hfirst _) hlast

theorem words?_quotedLine :
    Line quotedLine ["a\"b\\cd e f", ""] ∧
      words? quotedLine = some ["a\"b\\cd e f", ""] :=
  ⟨line_quotedLine, (words?_quoted quotedLine).2 _ line_quotedLine⟩

end Shell
end BuildTrace
