/-!
# Path — spelled paths and their components

A path keeps the spelling it was given. Two spellings are the same path when their components agree:
repeated separators, a separator at the end and `.` anywhere but in front do not count. A spelling
is text: a path whose bytes are no UTF-8 is none of these paths.

* `Path` — a spelling;
* `Component`, `Path.components` — what the spelling says;
* `Path.Same`, `Path.precedes` — sameness and order by components;
* `Path.join`, `Path.parent?`, `Path.fileName?` — the pieces of a path, spelled as they stand.
-/

namespace BuildTrace

/-- A path as it was spelled. -/
structure Path where
  spelling : String
deriving DecidableEq, Repr, Inhabited

/-- One step of a path. -/
inductive Component where
  /-- The separator in front of an absolute path. -/
  | root
  /-- A `.` in front of a relative path. -/
  | here
  /-- A `..`. -/
  | up
  /-- A file name. -/
  | name (s : String)
deriving DecidableEq, Repr

namespace Path

/-! ## Segments -/

/-- The parts between separators, empty ones included; there is always at least one. -/
def segmentsOf : List Char → List (List Char)
  | [] => [[]]
  | c :: cs =>
    if c = '/' then [] :: segmentsOf cs
    else
      match segmentsOf cs with
      | [] => [[c]]
      | s :: ss => (c :: s) :: ss

theorem segmentsOf_ne_nil (cs : List Char) : segmentsOf cs ≠ [] := by
  cases cs with
  | nil => simp [segmentsOf]
  | cons c cs =>
      simp only [segmentsOf]
      split
      · simp
      · split <;> simp

/-- The parts with separators between them. -/
def joinSegments : List (List Char) → List Char
  | [] => []
  | [s] => s
  | s :: ss => s ++ '/' :: joinSegments ss

theorem joinSegments_cons_of_ne_nil (s : List Char) {ss : List (List Char)} (h : ss ≠ []) :
    joinSegments (s :: ss) = s ++ '/' :: joinSegments ss := by
  cases ss with
  | nil => exact absurd rfl h
  | cons t ts => rfl

/-! ## Components -/

/-- Whether the path starts at the root. -/
def isAbsolute (p : Path) : Bool :=
  p.spelling.toList.head? = some '/'

/-- A segment behind the front of a path; empty segments and `.` say nothing. -/
def componentOf? (segment : List Char) : Option Component :=
  if segment = [] ∨ segment = ['.'] then none
  else if segment = ['.', '.'] then some .up
  else some (.name (String.ofList segment))

/-- The front of a path, if it says something, and the segments behind it. -/
def front (p : Path) : Option Component × List (List Char) :=
  match segmentsOf p.spelling.toList with
  | [] => (none, [])
  | s :: ss =>
    if p.isAbsolute then (some .root, ss)
    else if s = ['.'] then (some .here, ss)
    else (none, s :: ss)

/-- What the spelling says, from left to right. -/
def components (p : Path) : List Component :=
  p.front.1.toList ++ p.front.2.filterMap componentOf?

/-- Two spellings of one path. -/
def Same (p q : Path) : Prop :=
  p.components = q.components

instance : DecidableRel Same := fun p q => inferInstanceAs (Decidable (p.components = q.components))

theorem Same.refl (p : Path) : p.Same p := rfl

theorem Same.symm {p q : Path} (h : p.Same q) : q.Same p := Eq.symm h

theorem Same.trans {p q r : Path} (h : p.Same q) (h' : q.Same r) : p.Same r := Eq.trans h h'

/-! ## Order -/

end Path

/-- The place of a component in the order: the root, then `.`, then `..`, then names by their
characters. -/
def Component.rank : Component → List Nat
  | .root => [0]
  | .here => [1]
  | .up => [2]
  | .name s => 3 :: s.toList.map Char.toNat

namespace Path

/-- The key that orders paths. -/
def rank (p : Path) : List (List Nat) :=
  p.components.map Component.rank

/-- Order by components. -/
def precedes (p q : Path) : Bool :=
  decide (p.rank < q.rank)

/-! ## Joining and taking apart -/

/-- `p` with `q` behind it, or `q` alone if it is absolute. The spelling of both is kept, with one
separator between them unless `p` ends in one. -/
def join (p q : Path) : Path :=
  if q.isAbsolute then q
  else
    match p.spelling.toList.getLast? with
    | none => q
    | some '/' => ⟨p.spelling ++ q.spelling⟩
    | some _ => ⟨p.spelling ++ "/" ++ q.spelling⟩

/-- The segments without those at the end that say nothing. -/
def dropSilentEnd (segments : List (List Char)) : List (List Char) :=
  (segments.reverse.dropWhile fun s => (componentOf? s).isNone).reverse

/-- The path without its last component, spelled as it stands; nothing for the root and for the
empty path. -/
def parent? (p : Path) : Option Path :=
  let spelled (lead : List Char) (segments : List (List Char)) : Option Path :=
    match (dropSilentEnd segments).reverse with
    | [] => if lead = ['.'] then some ⟨""⟩ else none
    | _ :: before =>
      let kept := dropSilentEnd before.reverse
      let lead := if lead = ['.'] && !kept.isEmpty then ['.', '/'] else lead
      some ⟨String.ofList (lead ++ joinSegments kept)⟩
  match p.front with
  | (some .root, segments) => spelled ['/'] segments
  | (some .here, segments) => spelled ['.'] segments
  | (_, segments) => spelled [] segments

/-- The last component, if it is a name. -/
def fileName? (p : Path) : Option String :=
  match p.components.getLast? with
  | some (.name s) => some s
  | _ => none

/-- The part of the file name behind its last dot; a dot in front does not count. -/
def extension? (p : Path) : Option String :=
  p.fileName?.bind fun name =>
    let reversed := name.toList.reverse
    match reversed.dropWhile (· ≠ '.') with
    | _ :: _ :: _ => some (String.ofList (reversed.takeWhile (· ≠ '.')).reverse)
    | _ => none

/-- The path with `suffix` right behind its file name, and without what follows the name. -/
def withSuffix? (p : Path) (suffix : String) : Option Path :=
  p.fileName?.map fun name =>
    match p.parent? with
    | none => ⟨name ++ suffix⟩
    | some dir => dir.join ⟨name ++ suffix⟩

/-- The spelling of components in a row. -/
def ofComponents (cs : List Component) : Path :=
  cs.foldl (fun p c =>
    p.join ⟨match c with | .root => "/" | .here => "." | .up => ".." | .name s => s⟩) ⟨""⟩

end Path
end BuildTrace
