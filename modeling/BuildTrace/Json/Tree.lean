import BuildTrace.Json.Token

/-!
# Tree — JSON values as rows of tokens and back

* `Json.toTokens`, `Json.render` — a value without any space;
* `Json.pretty` — a value with a line for every item;
* `Reader.step` — takes in one token;
* `Json.ofTokens?`, `Json.parse?` — the value a row of tokens, or a text, stands for.

The reader keeps the arrays and objects that are open on a stack, so it needs one step per token.
-/

namespace BuildTrace
namespace Json

/-! ## Writing -/

mutual

/-- The tokens of a value. -/
def toTokens : Json → List Token
  | .null => [.null]
  | .bool b => [.bool b]
  | .number n => [.number n]
  | .string s => [.string s]
  | .array [] => [.openBracket, .closeBracket]
  | .array (item :: items) => .openBracket :: (toTokens item ++ itemTokens items)
  | .object [] => [.openBrace, .closeBrace]
  | .object ((name, value) :: members) =>
    .openBrace :: .string name :: .colon :: (toTokens value ++ memberTokens members)

/-- The tokens of the further items of an array. -/
def itemTokens : List Json → List Token
  | [] => [.closeBracket]
  | item :: items => .comma :: (toTokens item ++ itemTokens items)

/-- The tokens of the further members of an object. -/
def memberTokens : List (Option String × Json) → List Token
  | [] => [.closeBrace]
  | (name, value) :: members =>
    .comma :: .string name :: .colon :: (toTokens value ++ memberTokens members)

end

/-- The value as text, without any space. -/
def render (v : Json) : String :=
  String.ofList (v.toTokens.flatMap Token.text)

/-- A new line, indented. -/
def newLine (indent : Nat) : List Char :=
  '\n' :: List.replicate (2 * indent) ' '

mutual

/-- The value as text with a line for every item, from the given depth on. -/
def prettyAt (indent : Nat) : Json → List Char
  | .array (item :: items) =>
    '[' :: (newLine (indent + 1) ++ prettyAt (indent + 1) item ++ prettyItems indent items)
  | .object ((name, value) :: members) =>
    '{' :: (newLine (indent + 1) ++ (Token.string name).text ++ [':', ' '] ++
      prettyAt (indent + 1) value ++ prettyMembers indent members)
  | .array [] => ['[', ']']
  | .object [] => ['{', '}']
  | .null => Token.null.text
  | .bool b => (Token.bool b).text
  | .number n => (Token.number n).text
  | .string s => (Token.string s).text

/-- The further items of an array. -/
def prettyItems (indent : Nat) : List Json → List Char
  | [] => newLine indent ++ [']']
  | item :: items =>
    ',' :: (newLine (indent + 1) ++ prettyAt (indent + 1) item ++ prettyItems indent items)

/-- The further members of an object. -/
def prettyMembers (indent : Nat) : List (Option String × Json) → List Char
  | [] => newLine indent ++ ['}']
  | (name, value) :: members =>
    ',' :: (newLine (indent + 1) ++ (Token.string name).text ++ [':', ' '] ++
      prettyAt (indent + 1) value ++ prettyMembers indent members)

end

/-- The value as text with a line for every item. -/
def pretty (v : Json) : String :=
  String.ofList (prettyAt 0 v)

/-! ## Reading -/

/-- An array or an object that is open: what it holds so far, last one first. An object also has the
name of the member that is being read. -/
inductive Frame where
  | array (items : List Json)
  | object (members : List (Option String × Json)) (name : Option String)
deriving Repr

/-- What may come next. -/
inductive Await where
  | value
  /-- The first item of an array, or its end. -/
  | itemOrEnd
  /-- The first name of an object, or its end. -/
  | nameOrEnd
  | name
  | colon
  | commaOrEnd
  /-- Nothing: the value is complete. -/
  | done (v : Json)
deriving Repr

/-- What is open, innermost first, and what may come next. For an object whose next name has not
been read yet, the name in its frame says nothing. -/
structure Reader where
  stack : List Frame := []
  await : Await := .value
deriving Repr

namespace Reader

/-- Takes in a complete value. -/
def complete (stack : List Frame) (v : Json) : Reader :=
  match stack with
  | [] => { stack := [], await := .done v }
  | .array items :: stack => { stack := .array (v :: items) :: stack, await := .commaOrEnd }
  | .object members name :: stack =>
    { stack := .object ((name, v) :: members) none :: stack, await := .commaOrEnd }

/-- Takes in the token a value begins with. -/
def begin? (stack : List Frame) : Token → Option Reader
  | .openBracket => some { stack := .array [] :: stack, await := .itemOrEnd }
  | .openBrace => some { stack := .object [] none :: stack, await := .nameOrEnd }
  | .null => some (complete stack .null)
  | .bool b => some (complete stack (.bool b))
  | .number n => some (complete stack (.number n))
  | .string s => some (complete stack (.string s))
  | .closeBracket | .closeBrace | .comma | .colon => none

/-- Takes in one token. -/
def step (r : Reader) (t : Token) : Option Reader :=
  match r.await, r.stack, t with
  | .value, stack, t => begin? stack t
  | .itemOrEnd, .array items :: stack, .closeBracket => some (complete stack (.array items.reverse))
  | .itemOrEnd, stack, t => begin? stack t
  | .nameOrEnd, .object members _ :: stack, .closeBrace =>
    some (complete stack (.object members.reverse))
  | .nameOrEnd, .object members _ :: stack, .string name
  | .name, .object members _ :: stack, .string name =>
    some { stack := .object members name :: stack, await := .colon }
  | .colon, stack, .colon => some { stack := stack, await := .value }
  | .commaOrEnd, .array items :: stack, .comma =>
    some { stack := .array items :: stack, await := .value }
  | .commaOrEnd, .array items :: stack, .closeBracket =>
    some (complete stack (.array items.reverse))
  | .commaOrEnd, .object members name :: stack, .comma =>
    some { stack := .object members name :: stack, await := .name }
  | .commaOrEnd, .object members _ :: stack, .closeBrace =>
    some (complete stack (.object members.reverse))
  | _, _, _ => none

end Reader

/-- The value a row of tokens stands for. -/
def ofTokens? (ts : List Token) : Option Json :=
  (ts.foldlM Reader.step {}).bind fun r =>
    match r.await with
    | .done v => some v
    | _ => none

/-- The value a text stands for. -/
def parse? (s : String) : Option Json :=
  (tokens? s.toList).bind ofTokens?

end Json
end BuildTrace
