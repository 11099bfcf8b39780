import BuildTrace.Path.Basic
import BuildTrace.Row

/-!
# Origins — from precompiled artifacts to their headers

* `PchOrigins` — which header each artifact was made from;
* `PchOrigins.set`, `get?`, `headersOf` — recording and looking up.

Two spellings of one artifact are one key, and the last header recorded for it counts.
-/

namespace BuildTrace

/-- Which header each precompiled artifact was made from. -/
structure PchOrigins where
  entries : List (Path × Path) := []
deriving DecidableEq, Repr

namespace PchOrigins

/-- Records that `output` was made from `input`. -/
def set (o : PchOrigins) (output input : Path) : PchOrigins :=
  { entries := Row.put Path.Same output input o.entries }

/-- The header an artifact was made from. -/
def get? (o : PchOrigins) (output : Path) : Option Path :=
  Row.get? Path.Same output o.entries

/-- The headers of those candidates that are known, in their order. -/
def headersOf (o : PchOrigins) (candidates : List Path) : List Path :=
  candidates.filterMap o.get?

/-- How many artifacts are known. -/
def size (o : PchOrigins) : Nat :=
  o.entries.length

end PchOrigins
end BuildTrace
