import BuildTrace.Precompile.Header
import BuildTrace.Row

/-!
# Cache — the precompiled headers of a session

* `HeaderCache` — all headers ever made, which of them are in use, and where among these the header
  of a key stands;
* `lookup?`, `request`, `install`, `dropAll` — finding, making, replacing and dropping headers;
* `at?`, `update` — a header by its handle.

Handles stay good: a header that has been replaced or dropped can still be worked with by whoever
has its handle, but can no longer be found by its key.
-/

namespace BuildTrace

/-- The handle of a precompiled header. -/
abbrev HeaderHandle := Nat

/-- The precompiled headers of a session. -/
structure HeaderCache where
  kind : StampKind := .mtime
  /-- All headers ever made; a handle is a position here. -/
  headers : List PrecompiledHeader := []
  /-- The headers in use, in the order their keys came up. -/
  handles : List HeaderHandle := []
  /-- The slot of each key: a position among the headers in use. -/
  index : List (HeaderKey × Nat) := []
deriving DecidableEq, Repr

namespace HeaderCache

/-- How many headers are in use. -/
def size (c : HeaderCache) : Nat :=
  c.handles.length

/-! ## By handle -/

/-- The header of a handle. -/
def at? (c : HeaderCache) (handle : HeaderHandle) : Option PrecompiledHeader :=
  c.headers[handle]?

/-- Changes the header of a handle. -/
def update (c : HeaderCache) (handle : HeaderHandle)
    (f : PrecompiledHeader → PrecompiledHeader) : HeaderCache :=
  { c with headers := c.headers.modify handle f }

/-- Takes in a new header, which is not in use yet. -/
def make (c : HeaderCache) (h : PrecompiledHeader) : HeaderHandle × HeaderCache :=
  (c.headers.length, { c with headers := c.headers ++ [h] })

/-! ## By key -/

/-- The slot of a key. -/
def slot? (c : HeaderCache) (k : HeaderKey) : Option Nat :=
  Row.get? HeaderKey.Same k c.index

/-- The header in use for a key. -/
def lookup? (c : HeaderCache) (k : HeaderKey) : Option HeaderHandle :=
  (c.slot? k).bind fun slot => c.handles[slot]?

/-- Puts a header in use for a key that has no slot, behind all others. -/
def enlist (c : HeaderCache) (k : HeaderKey) (handle : HeaderHandle) : HeaderCache :=
  { c with
    handles := c.handles ++ [handle]
    index := Row.put HeaderKey.Same k c.handles.length c.index }

/-- The header in use for a key, looked for and if need be made while nobody else does. -/
def ensure (c : HeaderCache) (k : HeaderKey) : HeaderHandle × HeaderCache :=
  match c.lookup? k with
  | some handle => (handle, c)
  | none =>
    let (handle, c) := c.make { key := k, kind := c.kind, file := k.header }
    (handle, c.enlist k handle)

/-- The header in use for a key, which is made if there is none. Most of the time there is one, and
then others need not be kept waiting. -/
def request (c : HeaderCache) (k : HeaderKey) : HeaderHandle × HeaderCache :=
  match c.lookup? k with
  | some handle => (handle, c)
  | none => c.ensure k

/-- Makes a new header for a key, with stamps known from elsewhere. It takes the slot of the key,
and whatever was there is no longer in use. -/
def install (c : HeaderCache) (k : HeaderKey) (file : Path) (t : StampTable) :
    HeaderHandle × HeaderCache :=
  let (handle, c) := c.make { key := k, kind := c.kind, file := file, stamps := t }
  match c.slot? k with
  | some slot => (handle, { c with handles := c.handles.set slot handle })
  | none => (handle, c.enlist k handle)

/-- Drops all headers from use. -/
def dropAll (c : HeaderCache) : HeaderCache :=
  { c with handles := [], index := [] }

end HeaderCache
end BuildTrace
