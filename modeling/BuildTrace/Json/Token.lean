import BuildTrace.Json.Basic

/-!
# Token — JSON text as a row of tokens

* `Json.Token` — brackets, separators, words, numbers and strings;
* `Token.text` — how a token is written;
* `Lexer.step` — reads one character;
* `tokens?` — the tokens of a text, if every character belongs to one.
-/

namespace BuildTrace
namespace Json

/-- The pieces JSON text is made of. -/
inductive Token where
  | openBracket
  | closeBracket
  | openBrace
  | closeBrace
  | comma
  | colon
  | null
  | bool (b : Bool)
  | number (n : Number)
  | string (s : Option String)
deriving DecidableEq, Repr

/-! ## Writing -/

/-- One digit of base sixteen, lower case. -/
def hexDigit (n : Nat) : Char :=
  if n < 10 then Char.ofNat (48 + n) else Char.ofNat (87 + n)

/-- A character of a string literal: quotes, backslashes and controls are escaped. -/
def escapeChar (c : Char) : List Char :=
  if c = '"' then ['\\', '"']
  else if c = '\\' then ['\\', '\\']
  else if c = '\n' then ['\\', 'n']
  else if c = '\r' then ['\\', 'r']
  else if c = '\t' then ['\\', 't']
  else if c = Char.ofNat 8 then ['\\', 'b']
  else if c = Char.ofNat 12 then ['\\', 'f']
  else if c.toNat < 0x20 then
    ['\\', 'u', '0', '0', hexDigit (c.toNat / 16), hexDigit (c.toNat % 16)]
  else [c]

/-- A string literal. -/
def quoted (s : String) : List Char :=
  '"' :: s.toList.flatMap escapeChar ++ ['"']

namespace Number

/-- How a number is written. -/
def text : Number → List Char
  | .integer negative magnitude =>
    let digits := Nat.toDigits 10 magnitude
    if negative then '-' :: digits else digits
  | .decimal negative whole places power =>
    let point := if places.isEmpty then [] else '.' :: places
    let shown := Nat.toDigits 10 whole ++ point ++ 'e' :: (toString power).toList
    if negative then '-' :: shown else shown

end Number

namespace Token

/-- How a token is written. A string without a text is written as the replacement character. -/
def text : Token → List Char
  | .openBracket => ['[']
  | .closeBracket => [']']
  | .openBrace => ['{']
  | .closeBrace => ['}']
  | .comma => [',']
  | .colon => [':']
  | .null => ['n', 'u', 'l', 'l']
  | .bool true => ['t', 'r', 'u', 'e']
  | .bool false => ['f', 'a', 'l', 's', 'e']
  | .number n => n.text
  | .string s => quoted (s.getD (String.singleton (Char.ofNat 0xFFFD)))

end Token

/-! ## Numbers -/

namespace Number

/-- The number a literal stands for: a sign, digits without needless zeros in front, perhaps a point
with digits behind it, perhaps an exponent. -/
def ofText? (cs : List Char) : Option Number :=
  let (negative, cs) := match cs with
    | '-' :: cs => (true, cs)
    | cs => (false, cs)
  let whole := cs.takeWhile Char.isDigit
  let cs := cs.dropWhile Char.isDigit
  if whole.isEmpty || (whole.head? = some '0' && whole.length ≠ 1) then none
  else
    let fraction? : Option (List Char × List Char) := match cs with
      | '.' :: cs =>
        let digits := cs.takeWhile Char.isDigit
        if digits.isEmpty then none else some (digits, cs.dropWhile Char.isDigit)
      | cs => some ([], cs)
    fraction?.bind fun (fraction, cs) =>
      let whole := Nat.ofDigitChars 10 whole 0
      match cs with
      | [] =>
        some (if fraction.isEmpty then .integer negative whole
          else .decimal negative whole fraction 0)
      | e :: cs =>
        let (below, cs) := match cs with
          | '-' :: cs => (true, cs)
          | '+' :: cs => (false, cs)
          | cs => (false, cs)
        if (e = 'e' || e = 'E') && !cs.isEmpty && cs.all Char.isDigit then
          let power : Nat := Nat.ofDigitChars 10 cs 0
          some (.decimal negative whole fraction (if below then -power else power))
        else none

end Number

/-! ## Reading -/

/-- A string literal that is being read: its characters, last one first, the first half of a
surrogate pair if that is what was read last, and whether the literal has a text so far. -/
structure Literal where
  reversed : List Char := []
  high : Option Nat := none
  hasText : Bool := true
deriving DecidableEq, Repr

namespace Literal

/-- Adds a character. Half a pair that is still open stays without its other half. -/
def add (l : Literal) (c : Char) : Literal :=
  { reversed := c :: l.reversed, high := none, hasText := l.hasText && l.high.isNone }

/-- Adds the code unit of a `\u` escape. -/
def addUnit (l : Literal) (unit : Nat) : Literal :=
  if 0xDC00 ≤ unit && unit ≤ 0xDFFF then
    match l.high with
    | some high =>
      { l with
        reversed := Char.ofNat (0x10000 + (high - 0xD800) * 0x400 + (unit - 0xDC00)) :: l.reversed
        high := none }
    | none => { l with hasText := false }
  else if 0xD800 ≤ unit && unit ≤ 0xDBFF then
    { l with high := some unit, hasText := l.hasText && l.high.isNone }
  else l.add (Char.ofNat unit)

/-- The text of the literal, if it has one. -/
def text? (l : Literal) : Option String :=
  if l.hasText && l.high.isNone then some (String.ofList l.reversed.reverse) else none

end Literal

/-- Where in the text the reader is. -/
inductive LexerMode where
  | between
  /-- In a string. -/
  | string (l : Literal)
  /-- Behind a backslash in a string. -/
  | escape (l : Literal)
  /-- In a `\u` escape, with so many digits to come. -/
  | unit (l : Literal) (due value : Nat)
  /-- In a number; its characters, last one first. -/
  | number (reversed : List Char)
  /-- In a word; its characters, last one first. -/
  | word (reversed : List Char)
deriving DecidableEq, Repr

/-- The tokens read so far, last one first, and where the reader is. -/
structure Lexer where
  reversed : List Token := []
  mode : LexerMode := .between
deriving DecidableEq, Repr

/-- The value of a digit of base sixteen. -/
def hexValue? (c : Char) : Option Nat :=
  if c.isDigit then some (c.toNat - 48)
  else if 'a' ≤ c && c ≤ 'f' then some (c.toNat - 87)
  else if 'A' ≤ c && c ≤ 'F' then some (c.toNat - 55)
  else none

/-- The character a one-letter escape stands for. -/
def escaped? (c : Char) : Option Char :=
  if c = '"' then some '"'
  else if c = '\\' then some '\\'
  else if c = '/' then some '/'
  else if c = 'b' then some (Char.ofNat 8)
  else if c = 'f' then some (Char.ofNat 12)
  else if c = 'n' then some '\n'
  else if c = 'r' then some '\r'
  else if c = 't' then some '\t'
  else none

/-- The token of a word. -/
def word? (cs : List Char) : Option Token :=
  if cs = ['n', 'u', 'l', 'l'] then some .null
  else if cs = ['t', 'r', 'u', 'e'] then some (.bool true)
  else if cs = ['f', 'a', 'l', 's', 'e'] then some (.bool false)
  else none

/-- The token of one character that stands for itself. -/
def punctuation? (c : Char) : Option Token :=
  if c = '[' then some .openBracket
  else if c = ']' then some .closeBracket
  else if c = '{' then some .openBrace
  else if c = '}' then some .closeBrace
  else if c = ',' then some .comma
  else if c = ':' then some .colon
  else none

/-- Whether a character may stand between tokens. -/
def isSpace (c : Char) : Bool :=
  c = ' ' || c = '\n' || c = '\r' || c = '\t'

/-- Whether a character may belong to a number. -/
def isNumberChar (c : Char) : Bool :=
  c.isDigit || c = '-' || c = '+' || c = '.' || c = 'e' || c = 'E'

namespace Lexer

/-- Adds a token. -/
def emit (l : Lexer) (t : Token) : Lexer :=
  { reversed := t :: l.reversed, mode := .between }

/-- Reads a character that begins something. -/
def start (l : Lexer) (c : Char) : Option Lexer :=
  if isSpace c then some { l with mode := .between }
  else if c = '"' then some { l with mode := .string {} }
  else if c.isDigit || c = '-' then some { l with mode := .number [c] }
  else if c.isLower then some { l with mode := .word [c] }
  else (punctuation? c).map l.emit

/-- Ends the number or the word that is open. -/
def close (l : Lexer) : Option Lexer :=
  match l.mode with
  | .between => some l
  | .number cs => (Number.ofText? cs.reverse).map fun n => l.emit (.number n)
  | .word cs => (word? cs.reverse).map l.emit
  | .string _ | .escape _ | .unit .. => none

/-- Reads one character. -/
def step (l : Lexer) (c : Char) : Option Lexer :=
  match l.mode with
  | .between => l.start c
  | .number cs =>
    if isNumberChar c then some { l with mode := .number (c :: cs) }
    else l.close.bind fun l => l.start c
  | .word cs =>
    if c.isLower then some { l with mode := .word (c :: cs) }
    else l.close.bind fun l => l.start c
  | .string s =>
    if c = '"' then some (l.emit (.string s.text?))
    else if c = '\\' then some { l with mode := .escape s }
    else if c.toNat < 0x20 then none
    else some { l with mode := .string (s.add c) }
  | .escape s =>
    if c = 'u' then some { l with mode := .unit s 4 0 }
    else (escaped? c).map fun e => { l with mode := .string (s.add e) }
  | .unit s due value =>
    (hexValue? c).map fun d =>
      if due ≤ 1 then { l with mode := .string (s.addUnit (value * 16 + d)) }
      else { l with mode := .unit s (due - 1) (value * 16 + d) }

end Lexer

/-- The tokens of a text. -/
def tokens? (cs : List Char) : Option (List Token) :=
  ((cs.foldlM Lexer.step {}).bind Lexer.close).map fun l => l.reversed.reverse

end Json
end BuildTrace
