import BuildTrace.FileSystem.Basic

/-!
# Change — writing to a file system

* `FileSystem.put`, `erase` — one node, and with it the time of the directory it is in;
* `FileSystem.makeDirectories`, `writeFile`, `makeDirectory`, `makeLink`, `remove`, `unlink` — what
  programs do to a tree. Each leaves the tree alone where the system would refuse.
-/

namespace BuildTrace
namespace FileSystem

/-- Sets the time of the node at a place. -/
def setTime (fs : FileSystem) (place : Place) (time : Int) : FileSystem :=
  if place = [] then { fs with rootModified := time }
  else
    { fs with
      nodes := fs.nodes.map fun (q, node) =>
        (q, if q = place then { node with modified := time } else node) }

/-- Lets time pass, and marks the directory that a place is in as changed. -/
def touchParent (fs : FileSystem) (place : Place) : FileSystem :=
  { fs.setTime place.dropLast fs.clock with clock := fs.clock + 1 }

/-- Puts a node at a place. A new name changes the directory it is in. -/
def put (fs : FileSystem) (place : Place) (node : Node) : FileSystem :=
  match fs.node? place with
  | some _ =>
    { fs with nodes := fs.nodes.map fun (q, old) => (q, if q = place then node else old) }
  | none => { fs with nodes := fs.nodes ++ [(place, node)] }.touchParent place

/-- Takes away the node at a place and all that is below it. -/
def erase (fs : FileSystem) (place : Place) : FileSystem :=
  { fs with nodes := fs.nodes.filter fun (q, _) => !place.isPrefixOf q }.touchParent place

/-- The place of the name a path ends in; a link there is not followed. -/
def nameplace (fs : FileSystem) (p : Path) : Except SystemError Place :=
  match p.fileName? with
  | none => fs.follow p
  | some name => do
    let dir := p.parent?.getD ⟨""⟩
    let place ← if dir.spelling.isEmpty then pure fs.cwd else fs.follow dir
    if fs.isDirectoryAt place then pure (place ++ [name])
    else if (fs.node? place).isSome then .error .notADirectory
    else .error .noSuchFile

/-- Makes the directory at the end of a path unless something is there. -/
def makeDirectory (fs : FileSystem) (p : Path) : FileSystem :=
  match fs.follow p with
  | .error _ => fs
  | .ok place =>
    if (fs.node? place).isSome then fs else fs.put place ⟨.directory, fs.clock⟩

/-- Makes every directory on the way to the end of a path, and the last one. -/
def makeDirectories (fs : FileSystem) (p : Path) : FileSystem :=
  let (made, _) := p.components.foldl
    (fun (fs, dir) c =>
      let dir := Path.join dir (Path.ofComponents [c])
      (fs.makeDirectory dir, dir))
    (fs, (⟨""⟩ : Path))
  made

/-- Makes the directories that the name at the end of a path is to be in. -/
def makeParents (fs : FileSystem) (p : Path) : FileSystem :=
  match p.parent? with
  | none => fs
  | some dir => fs.makeDirectories dir

/-- Writes a file, through a link if the path ends in one. -/
def writeFile (fs : FileSystem) (p : Path) (data : List UInt8) (executable : Bool) (time : Int) :
    FileSystem :=
  match fs.follow p with
  | .error _ => fs
  | .ok place =>
    match fs.node? place with
    | some ⟨.directory, _⟩ => fs
    | _ => fs.put place ⟨.file data executable, time⟩

/-- Makes a link unless the name is taken. -/
def makeLink (fs : FileSystem) (p target : Path) : FileSystem :=
  match fs.nameplace p with
  | .error _ => fs
  | .ok place => if (fs.node? place).isSome then fs else fs.put place ⟨.link target, fs.clock⟩

/-- Removes a file, a link, or a directory with all it holds. -/
def remove (fs : FileSystem) (p : Path) : FileSystem :=
  match fs.nameplace p with
  | .error _ => fs
  | .ok place => if (fs.node? place).isSome then fs.erase place else fs

/-- The place of the name a path ends in, as it is spelled: behind the last separator there has to
be a name, and not dots. A link there is not followed. -/
def entryPlace? (fs : FileSystem) (p : Path) : Option Place :=
  let (start, segments) := startOf fs.cwd p
  let name := segments.getLastD []
  if hasNul p || pathLimit < (Text.bytes p.spelling).length || nameLimit < (Text.encode name).length
      || [[], ['.'], ['.', '.']].contains name then none
  else
    match fs.walk linkLimit start segments.dropLast with
    | .ok dir => if fs.isDirectoryAt dir then some (dir ++ [String.ofList name]) else none
    | .error _ => none

/-- Removes a file or a link, but no directory. -/
def unlink (fs : FileSystem) (p : Path) : FileSystem :=
  match fs.entryPlace? p with
  | none => fs
  | some place =>
    match fs.node? place with
    | some node => if node.content = .directory then fs else fs.erase place
    | none => fs

end FileSystem
end BuildTrace
