import BuildTrace.Toml.Basic

/-!
# Node — tables that are being built

A document fills its tables line by line, under names with dots and under headers. A node remembers
how a table came about, for that decides what may still be added to it.

* `Node` — a value, a table, or a row of tables;
* `Node.descend?` — changes the table at the end of a row of names;
* `Node.define?` — gives a value to a name; `Node.open?`, `Node.append?` — the two kinds of headers.
-/

namespace BuildTrace
namespace Toml

/-- What a name in a table stands for. A table is implicit until a header or a value names it, and
dotted if a name with dots made it. -/
inductive Node where
  | value (v : Value)
  | table (implicit dotted : Bool) (entries : List (String × Node))
  | tables (rows : List (List (String × Node)))
deriving Repr

namespace Node

/-- Puts a node in the place of the one a name stands for, or behind all others. -/
def put (name : String) (n : Node) : List (String × Node) → List (String × Node)
  | [] => [(name, n)]
  | (other, old) :: rest =>
    if other = name then (other, n) :: rest else (other, old) :: put name n rest

/-- Changes the table at the end of a row of names by `f`, which is told whether it is dotted.
Missing tables are made. A name with dots must not lead into a table that has been made by a header.
-/
def descend? (byDots : Bool) (f : Bool → List (String × Node) → Option (List (String × Node))) :
    List String → Bool → List (String × Node) → Option (List (String × Node))
  | [], dotted, entries => f dotted entries
  | name :: names, _, entries =>
    match entries.lookup name with
    | none =>
      (descend? byDots f names byDots []).map fun made => put name (.table true byDots made) entries
    | some (.value _) => none
    | some (.table implicit dotted inner) =>
      if byDots && !implicit then none
      else (descend? byDots f names dotted inner).map fun inner =>
        put name (.table implicit dotted inner) entries
    | some (.tables rows) =>
      match rows.reverse with
      | [] => none
      | last :: before =>
        (descend? byDots f names false last).map fun last =>
          put name (.tables (before.reverse ++ [last])) entries

/-- Gives a value to a name in a table. A name with dots must end in a dotted table. -/
def define? (names : List String) (name : String) (v : Value) (entries : List (String × Node)) :
    Option (List (String × Node)) :=
  descend? true (fun dotted inner =>
    if dotted = names.isEmpty || (inner.lookup name).isSome then none
    else some (inner ++ [(name, .value v)])) names false entries

/-- Makes a table by its header. A table that is only implied by others is taken over, and comes
behind all others. -/
def open? (names : List String) (name : String) (entries : List (String × Node)) :
    Option (List (String × Node)) :=
  descend? false (fun _ inner =>
    match inner.lookup name with
    | none => some (put name (.table false false []) inner)
    | some (.table true false rest) =>
      some (inner.filter (fun e => e.1 ≠ name) ++ [(name, .table false false rest)])
    | some _ => none) names false entries

/-- Adds a table to a row of tables by its header. -/
def append? (names : List String) (name : String) (entries : List (String × Node)) :
    Option (List (String × Node)) :=
  descend? false (fun _ inner =>
    match inner.lookup name with
    | none => some (put name (.tables [[]]) inner)
    | some (.tables rows) => some (put name (.tables (rows ++ [[]])) inner)
    | some _ => none) names false entries

mutual

/-- The value a node stands for. -/
def toValue : Node → Value
  | .value v => v
  | .table _ _ entries => .table (toEntries entries)
  | .tables rows => .array (toTables rows)

/-- The entries of a table. -/
def toEntries : List (String × Node) → List (String × Value)
  | [] => []
  | (name, n) :: rest => (name, toValue n) :: toEntries rest

/-- The tables of a row. -/
def toTables : List (List (String × Node)) → List Value
  | [] => []
  | entries :: rest => .table (toEntries entries) :: toTables rest

end

end Node
end Toml
end BuildTrace
