import BuildTrace.Directory.Announcement
import BuildTrace.Directory.Stack
import BuildTrace.FileSystem.Basic

/-!
# Follow — following a build through directories

* `Event` — what a line did to the stack of directories;
* `Fault` — why the directories of later lines would be wrong;
* `enter`, `leave`, `follow` — one line.

A line changes the stack only if it enters or leaves a directory; an error leaves it as it was.
-/

namespace BuildTrace
namespace Directory

/-- What a line did. -/
inductive Event where
  /-- The line announces nothing. -/
  | nothing
  | entered (dir : Path)
  | left (dir : Path)
  /-- A directory was left, but another one than the line names. -/
  | leftOther (announced : String) (popped : Path)
  /-- The line announces something else than entering or leaving. -/
  | otherVerb (verb dir : String)
deriving DecidableEq, Repr

namespace Event

/-- Whether an event should not happen in a well-formed log. -/
def isUnexpected : Event → Bool
  | .leftOther .. | .otherVerb .. => true
  | .nothing | .entered _ | .left _ => false

end Event

/-- Why tracking cannot go on. -/
inductive Fault where
  /-- The directory to enter could not be found. -/
  | notFound (dir : String) (base : Path) (cause : SystemError)
  /-- Only the bottom of the stack is left. -/
  | atBottom (dir : String) (root : Path)
deriving DecidableEq, Repr

namespace Fault

/-- The text of an error. -/
def message : Fault → String
  | .notFound dir base cause =>
    "Unable to resolve directory " ++ dir ++ " against " ++ base.spelling ++ ": " ++ cause.message
  | .atBottom dir root =>
    "Leaving directory " ++ dir ++ " would pop the root entry " ++ root.spelling

end Fault

/-- Enters a directory, named as seen from the innermost one. -/
def enter (fs : FileSystem) (s : Stack) (dir : String) : Except Fault Event × Stack :=
  match fs.realPath (s.top.join ⟨dir⟩) with
  | .ok found => (.ok (.entered found), s.push found)
  | .error cause => (.error (.notFound dir s.top cause), s)

/-- Whether `dir`, as seen from `base`, is the directory `popped`. A name that leads nowhere any
more is compared by its last part. -/
def names (fs : FileSystem) (base : Path) (dir : String) (popped : Path) : Bool :=
  match fs.realPath (base.join ⟨dir⟩) with
  | .ok found => decide (found.Same popped)
  | .error _ => popped.fileName? = Path.fileName? ⟨dir⟩

/-- Leaves the innermost directory, whichever the line names. -/
def leave (fs : FileSystem) (s : Stack) (dir : String) : Except Fault Event × Stack :=
  match s.pop? with
  | none => (.error (.atBottom dir s.root), s)
  | some (popped, s') =>
    if names fs s'.top dir popped then (.ok (.left popped), s')
    else (.ok (.leftOther dir popped), s')

/-- Does what a line announces. -/
def follow (fs : FileSystem) (s : Stack) (line : String) : Except Fault Event × Stack :=
  match Announcement.find? line.toList with
  | none => (.ok .nothing, s)
  | some a =>
    if a.verb = "Entering" then enter fs s a.dir
    else if a.verb = "Leaving" then leave fs s a.dir
    else (.ok (.otherVerb a.verb a.dir), s)

end Directory
end BuildTrace
