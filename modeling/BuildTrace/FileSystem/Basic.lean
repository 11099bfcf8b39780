import BuildTrace.FileSystem.Error
import BuildTrace.Path.Basic
import BuildTrace.Text.Utf8

/-!
# FileSystem — files, directories and links at one moment

A file system is a value: a finite table from places to nodes, the directory that relative paths
start from, and a clock.

* `Place` — where a node is: the names on the way down from the root, with no link on it;
* `Node` — a file, a directory, a link or a device, and when it was last changed;
* `FileSystem.walk` — follows a path, links included;
* `FileSystem.realPath`, `isFile`, `readFile`, `modified` — what can be asked about a path.
-/

namespace BuildTrace

/-- The names on the way down from the root. -/
abbrev Place := List String

/-- The spelling of a place. -/
def Place.toPath (place : Place) : Path :=
  ⟨String.ofList ('/' :: Path.joinSegments (place.map String.toList))⟩

/-- What a node holds. -/
inductive NodeContent where
  | file (data : List UInt8) (executable : Bool)
  | directory
  | link (target : Path)
  /-- A device that is always empty. -/
  | device
deriving DecidableEq, Repr

/-- A node: what it holds, and its time of change in nanoseconds since the epoch. -/
structure Node where
  content : NodeContent
  modified : Int
deriving DecidableEq, Repr

/-- The state of a file system. The root is always there and is a directory. -/
structure FileSystem where
  nodes : List (Place × Node) := []
  rootModified : Int := 0
  cwd : Place := []
  clock : Int := 0
deriving DecidableEq, Repr

namespace FileSystem

/-- The node at a place. -/
def node? (fs : FileSystem) (place : Place) : Option Node :=
  if place = [] then some ⟨.directory, fs.rootModified⟩ else fs.nodes.lookup place

/-- Whether a directory is at the place. -/
def isDirectoryAt (fs : FileSystem) (place : Place) : Bool :=
  (fs.node? place).any fun n => n.content = .directory

/-! ## Following a path -/

/-- How many links one path may lead through. -/
def linkLimit : Nat := 40

/-- How many bytes a name may have. -/
def nameLimit : Nat := 255

/-- How many bytes a path may have. -/
def pathLimit : Nat := 4095

/-- The segments of a spelling that come behind its start, and the place it starts from. -/
def startOf (here : Place) (p : Path) : Place × List (List Char) :=
  match Path.segmentsOf p.spelling.toList with
  | [] => (here, [])
  | s :: ss => if p.isAbsolute then ([], ss) else (here, s :: ss)

/-- Follows the segments `todo` from the place `here`, with `links` links left. The last segment may
be missing; everything before it has to be there, and has to be a directory. -/
def walk (fs : FileSystem) (links : Nat) (here : Place) (todo : List (List Char)) :
    Except SystemError Place :=
  match todo with
  | [] => .ok here
  | segment :: rest =>
    if !fs.isDirectoryAt here then .error .notADirectory
    else if segment = [] ∨ segment = ['.'] then walk fs links here rest
    else if segment = ['.', '.'] then walk fs links here.dropLast rest
    else if nameLimit < (Text.encode segment).length then .error .nameTooLong
    else
      let there := here ++ [String.ofList segment]
      match fs.node? there with
      | none => if rest = [] then .ok there else .error .noSuchFile
      | some node =>
        match node.content with
        | .link target =>
          match links with
          | 0 => .error .tooManyLinks
          | links + 1 =>
            let (start, segments) := startOf here target
            walk fs links start (segments ++ rest)
        | _ => walk fs links there rest
termination_by (links, todo.length)

/-- Whether a path has a NUL in it. Such a path is never passed to the system. -/
def hasNul (p : Path) : Bool :=
  p.spelling.toList.contains (Char.ofNat 0)

/-- The place a path leads to, which may be empty. -/
def follow (fs : FileSystem) (p : Path) : Except SystemError Place :=
  if hasNul p then .error .nulInPath
  else if p.spelling.toList = [] then .error .noSuchFile
  else
    let (start, segments) := startOf fs.cwd p
    fs.walk linkLimit start segments

/-- The place a path leads to, and the node there. -/
def locate (fs : FileSystem) (p : Path) : Except SystemError (Place × Node) := do
  let place ← fs.follow p
  match fs.node? place with
  | none => .error .noSuchFile
  | some node => .ok (place, node)

/-- `locate` for a request that passes the whole path to the system, which limits its length. -/
def find (fs : FileSystem) (p : Path) : Except SystemError (Place × Node) :=
  if pathLimit < (Text.bytes p.spelling).length && !hasNul p then .error .nameTooLong
  else fs.locate p

/-! ## Questions about a path -/

/-- The one path without links and dots that leads to the same node. It stays folded, so that no
proof walks down a tree by itself. -/
@[irreducible] def realPath (fs : FileSystem) (p : Path) : Except SystemError Path :=
  (fs.locate p).map fun found => found.1.toPath

/-- Whether a regular file is at the end of the path. -/
def isFile (fs : FileSystem) (p : Path) : Bool :=
  match fs.find p with
  | .ok (_, ⟨.file .., _⟩) => true
  | _ => false

/-- Whether anything is at the end of the path. -/
def isPresent (fs : FileSystem) (p : Path) : Bool :=
  (fs.find p).isOk

/-- The bytes of a file. -/
def readFile (fs : FileSystem) (p : Path) : Except SystemError (List UInt8) := do
  let (_, node) ← fs.find p
  match node.content with
  | .file data _ => .ok data
  | .device => .ok []
  | .directory | .link _ => .error .isADirectory

/-- When the node at the end of the path was last changed. -/
def modified (fs : FileSystem) (p : Path) : Except SystemError Int :=
  (fs.find p).map fun found => found.2.modified

end FileSystem
end BuildTrace
