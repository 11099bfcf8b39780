import BuildTrace.Digest.Blake3
import BuildTrace.FileSystem.Basic
import BuildTrace.Number.Width
import BuildTrace.Row

/-!
# Stamp — has a file changed since it was read?

* `StampKind`, `FileStamp` — what is remembered of a file: its time of change, or a digest of
  its content;
* `FileStamp.now`, `FileStamp.read` — the stamp of a file now, alone or with its content;
* `StampTable` — a table from paths to stamps, in the order of the paths;
* `StampTable.freshness` — the paths whose files would give another stamp today.

Two spellings of one path are one key. Inserting a stamp keeps the spelling that is there; a table
that is made at once from a row of entries has the last spelling of each path in it.
-/

namespace BuildTrace

/-- How changes of a file are noticed. -/
inductive StampKind where
  /-- By its time of change. -/
  | mtime
  /-- By its content. -/
  | content
deriving DecidableEq, Repr, Inhabited

/-- What is remembered of a file. -/
inductive FileStamp where
  /-- Its time of change, in nanoseconds since the epoch. -/
  | modified (time : Nat)
  /-- The digest of its content. -/
  | content (digest : String)
deriving DecidableEq, Repr

namespace FileStamp

/-- What kind of stamp this is. -/
def kind : FileStamp → StampKind
  | .modified _ => .mtime
  | .content _ => .content

/-- The stamp of a time. Times outside of 64 bits count as the nearest inside. -/
def ofTime (time : Int) : FileStamp :=
  .modified (min time.toNat (Number.limit 64 - 1))

/-- The stamp of a content. -/
def ofData (data : List UInt8) : FileStamp :=
  .content (Blake3.hexDigest data)

/-- The stamp of a file now. -/
def now (fs : FileSystem) (kind : StampKind) (p : Path) : Except SystemError FileStamp :=
  match kind with
  | .mtime => (fs.modified p).map ofTime
  | .content => (fs.readFile p).map ofData

/-- The content of a file and the stamp that goes with it. -/
def read (fs : FileSystem) (kind : StampKind) (p : Path) :
    Except SystemError (List UInt8 × FileStamp) := do
  let stamp ← now fs kind p
  let data ← fs.readFile p
  return (data, stamp)

end FileStamp

/-! ## The table -/

/-- Stamps of files, ordered by path. -/
structure StampTable where
  entries : List (Path × FileStamp) := []
deriving DecidableEq, Repr

/-- The verdict on a table. -/
inductive Freshness where
  | fresh
  /-- Files whose stamp differs, or that have none any more. -/
  | stale (paths : List Path)
deriving DecidableEq, Repr

namespace StampTable

/-- Puts a stamp into a row that is ordered by path. -/
def insertEntry (p : Path) (stamp : FileStamp) :
    List (Path × FileStamp) → List (Path × FileStamp)
  | [] => [(p, stamp)]
  | (q, old) :: rest =>
    if p.Same q then (q, stamp) :: rest
    else if p.precedes q then (p, stamp) :: (q, old) :: rest
    else (q, old) :: insertEntry p stamp rest

/-- Remembers the stamp of a file. -/
def insert (t : StampTable) (p : Path) (stamp : FileStamp) : StampTable :=
  { entries := insertEntry p stamp t.entries }

/-- The stamp of a file, if one is remembered. -/
def get? (t : StampTable) (p : Path) : Option FileStamp :=
  Row.get? Path.Same p t.entries

/-- How many files are remembered. -/
def size (t : StampTable) : Nat :=
  t.entries.length

/-- Forgets a file. -/
def erase (t : StampTable) (p : Path) : StampTable :=
  { entries := t.entries.filter fun e => !p.Same e.1 }

/-- The table after a row of insertions. -/
def insertAll (t : StampTable) (entries : List (Path × FileStamp)) : StampTable :=
  entries.foldl (fun t e => t.insert e.1 e.2) t

/-- The table of a row of entries. Of several for one path the last counts, spelling and all. -/
def ofList (entries : List (Path × FileStamp)) : StampTable :=
  entries.foldl (fun t e => (t.erase e.1).insert e.1 e.2) {}

/-- The stamps that all the files have now. -/
def now (fs : FileSystem) (kind : StampKind) (paths : List Path) :
    Except SystemError StampTable := do
  let entries ← paths.mapM fun p => do
    let stamp ← FileStamp.now fs kind p
    return (p, stamp)
  return insertAll {} entries

/-- Whether the file still gives the stamp. -/
def isCurrent (fs : FileSystem) (e : Path × FileStamp) : Bool :=
  match FileStamp.now fs e.2.kind e.1 with
  | .ok now => now = e.2
  | .error _ => false

/-- Compares every stamp with the one the file has now. -/
def freshness (fs : FileSystem) (t : StampTable) : Freshness :=
  match (t.entries.filter fun e => !isCurrent fs e).map Prod.fst with
  | [] => .fresh
  | p :: ps => .stale (p :: ps)

@[simp] theorem size_empty : ({} : StampTable).size = 0 := rfl

end StampTable
end BuildTrace
