import BuildTrace.Path.Basic

/-!
# Stack — nested working directories

* `Directory.Stack` — the directories a build is in, from the one it started in to the innermost;
* `Stack.push`, `Stack.pop?` — entering and leaving; the bottom is never removed.
-/

namespace BuildTrace
namespace Directory

/-- Nested directories: the one at the bottom, and those above it, innermost first. -/
structure Stack where
  root : Path
  above : List Path := []
deriving DecidableEq, Repr

namespace Stack

/-- The innermost directory. -/
def top (s : Stack) : Path :=
  s.above.headD s.root

/-- How many directories are open, the bottom included. -/
def depth (s : Stack) : Nat :=
  s.above.length + 1

/-- The directories from the bottom up. -/
def toList (s : Stack) : List Path :=
  s.root :: s.above.reverse

/-- Enters a directory. -/
def push (s : Stack) (p : Path) : Stack :=
  { s with above := p :: s.above }

/-- Leaves the innermost directory, unless only the bottom is left. -/
def pop? (s : Stack) : Option (Path × Stack) :=
  match s.above with
  | [] => none
  | p :: above => some (p, { s with above := above })

@[simp] theorem toList_push (s : Stack) (p : Path) : (s.push p).toList = s.toList ++ [p] := by
  simp [toList, push]

@[simp] theorem pop?_push (s : Stack) (p : Path) : (s.push p).pop? = some (p, s) := rfl

@[simp] theorem length_toList (s : Stack) : s.toList.length = s.depth := by
  simp [toList, depth]

end Stack
end Directory
end BuildTrace
