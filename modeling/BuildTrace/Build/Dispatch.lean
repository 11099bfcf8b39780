import BuildTrace.Build.Origins
import BuildTrace.Build.LineReader
import BuildTrace.Directory.Follow
import BuildTrace.Invocation.Basic

/-!
# Dispatch — what the lines of a build do

* `Recogniser` — a way to read lines as compiler commands;
* `Dispatcher` — where the build is, what it has run so far and which headers it has precompiled;
* `Dispatcher.line` — one line: a compiler command is delivered, any other line may change the
  directory;
* `Dispatcher.lines` — all complete lines of a buffer, up to one that cannot be followed.
-/

namespace BuildTrace

/-- A way to read lines, printed while the build was in a directory, as compiler commands. -/
abbrev Recogniser := Path → String → Option Invocation

/-- A line that was read as a compiler command, or was not one. -/
structure Offer where
  cwd : Path
  line : String
  /-- The command, with the flags of the session. -/
  invocation : Option Invocation
deriving DecidableEq, Repr

/-- Where a build is, and what it has run so far. -/
structure Dispatcher where
  stack : Directory.Stack
  aliases : PchOrigins := {}
  sourceCount : Nat := 0
  pchCount : Nat := 0
deriving DecidableEq, Repr

namespace Dispatcher

/-- Counts a command, and records what a precompiled header was made from. -/
def deliver (d : Dispatcher) (i : Invocation) : Dispatcher :=
  if i.makesPch then
    { d with
      pchCount := d.pchCount + 1
      aliases := match i.output with
        | some output => d.aliases.set output i.sourceFile
        | none => d.aliases }
  else { d with sourceCount := d.sourceCount + 1 }

@[simp] theorem stack_deliver (d : Dispatcher) (i : Invocation) :
    (d.deliver i).stack = d.stack := by
  unfold deliver
  split <;> rfl

/-- Takes in one line. -/
def line (fs : FileSystem) (recognise : Recogniser) (extra : List String) (d : Dispatcher)
    (line : String) : Offer × Except Directory.Fault Dispatcher :=
  match recognise d.stack.top line with
  | some i =>
    let i := i.withSessionFlags extra
    ({ cwd := d.stack.top, line := line, invocation := some i }, .ok (d.deliver i))
  | none =>
    ({ cwd := d.stack.top, line := line, invocation := none },
      match Directory.follow fs d.stack line with
      | (.ok _, stack) => .ok { d with stack := stack }
      | (.error e, _) => .error e)

end Dispatcher

/-- What taking in lines has come to: the lines offered, where the build is now, the bytes that are
waiting, and why the last line could not be followed. -/
structure Dispatched where
  offers : List Offer
  dispatcher : Dispatcher
  buffer : LineReader
  fault : Option Directory.Fault
deriving DecidableEq, Repr

/-- Takes in all complete lines of a buffer, up to one that cannot be followed. -/
def Dispatcher.lines (fs : FileSystem) (recognise : Recogniser) (extra : List String)
    (d : Dispatcher) (b : LineReader) : Dispatched :=
  match h : b.next? with
  | none => { offers := [], dispatcher := d, buffer := b, fault := none }
  | some (text, b') =>
    match d.line fs recognise extra text with
    | (offer, .error e) => { offers := [offer], dispatcher := d, buffer := b', fault := some e }
    | (offer, .ok d') =>
      have := LineReader.pending_lt_of_next? h
      let rest := Dispatcher.lines fs recognise extra d' b'
      { rest with offers := offer :: rest.offers }
termination_by b.pending

end BuildTrace
