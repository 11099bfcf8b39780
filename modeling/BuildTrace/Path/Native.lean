import BuildTrace.Path.Basic
import BuildTrace.Text.Utf8

/-!
# Native — paths as the system has them

For the system a path is any row of bytes; a `Path` is one that is text. The two differ where a path
is shown or hashed as text: there bytes that are no UTF-8 are replaced, and paths that differ in
nothing else cannot be told apart any more.

* `NativePath`, `NativePath.display` — a path as bytes, and the text it is shown as;
* `Path.native` — the bytes of a path that is text.
-/

namespace BuildTrace

/-- A path as the system has it. -/
structure NativePath where
  bytes : List UInt8
deriving DecidableEq, Repr

/-- The text a path is shown as, with U+FFFD for whatever is not UTF-8. -/
def NativePath.display (p : NativePath) : String :=
  Text.ofBytesLossy p.bytes

/-- The bytes of a path that is text. -/
def Path.native (p : Path) : NativePath :=
  { bytes := Text.bytes p.spelling }

end BuildTrace
