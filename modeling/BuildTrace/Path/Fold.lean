import BuildTrace.Path.Basic

/-!
# Fold — paths without dots

Command lines name files relative to the directory they run in. Folding joins such a name to the
directory and works off `.` and `..` on the spelling alone, without asking the file system.

* `Folded` — a path that is being built: whether it starts at the root, and its names;
* `Folded.step` — one component more; `..` takes the last name away and stops at the front;
* `Path.lexicalJoin` — a name as seen from a directory;
* `Path.relativeTo` — the way from one path to another.
-/

namespace BuildTrace

/-- A path without `.` and `..`: the names are kept last one first. -/
structure Folded where
  absolute : Bool := false
  reversedNames : List String := []
deriving DecidableEq, Repr

namespace Folded

/-- Takes in one component. -/
def step (f : Folded) : Component → Folded
  | .root => { absolute := true, reversedNames := [] }
  | .here => f
  | .up => { f with reversedNames := f.reversedNames.tail }
  | .name s => { f with reversedNames := s :: f.reversedNames }

/-- The path folded from components. -/
def ofComponents (cs : List Component) : Folded :=
  cs.foldl step {}

/-- The one spelling of a folded path. -/
def toPath (f : Folded) : Path :=
  let names := Path.joinSegments (f.reversedNames.reverse.map String.toList)
  ⟨String.ofList (if f.absolute then '/' :: names else names)⟩

theorem ofComponents_append (xs ys : List Component) :
    ofComponents (xs ++ ys) = ys.foldl step (ofComponents xs) := by
  simp [ofComponents]

end Folded

namespace Path

/-- The path with `.` and `..` worked off. -/
def fold (p : Path) : Path :=
  (Folded.ofComponents p.components).toPath

/-- The name `p` as seen from the directory `base`, folded. -/
def lexicalJoin (base p : Path) : Path :=
  (base.join p).fold

/-- The rest of two component lists behind what they share. -/
def dropShared : List Component → List Component → List Component × List Component
  | a :: as, b :: bs => if a = b then dropShared as bs else (a :: as, b :: bs)
  | as, bs => (as, bs)

/-- The way to the path `p` from the directory `base`, by components. -/
def relativeTo (p base : Path) : Path :=
  let (forth, back) := dropShared p.components base.components
  ofComponents (back.map (fun _ => .up) ++ forth)

end Path
end BuildTrace
