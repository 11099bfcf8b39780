import BuildTrace.CommandLine.Outcome
import BuildTrace.CommandLine.Reader

/-!
# Main — the program

The outer layer: it looks at the files and variables around it, has the request carried out, and
writes what comes of it. The build program is run by the shell, and its output comes in at the
standard input:

    make -j1 -w | buildtrace run Makefile
-/

namespace BuildTrace
namespace Program

/-- The nodes at and below an entry of a directory. What cannot be read is left out. -/
partial def nodesAt (place : Place) (entry : IO.FS.DirEntry) : IO (List (Place × Node)) := do
  try
    let info ← entry.path.symlinkMetadata
    let time : Int := info.modified.sec * 1000000000 + info.modified.nsec.toNat
    match info.type with
    | .dir =>
      let below ← (← entry.path.readDir).toList.mapM fun e => nodesAt (place ++ [e.fileName]) e
      return (place, ⟨.directory, time⟩) :: below.flatten
    | .file =>
      let data ← IO.FS.readBinFile entry.path
      return [(place, ⟨.file data.toList false, time⟩)]
    | .symlink =>
      let target ← IO.FS.realPath entry.path
      return [(place, ⟨.link ⟨toString target⟩, time⟩)]
    | .other => return []
  catch _ => return []

/-- The names on the way from the root to a directory. -/
def placeOf (dir : String) : Place :=
  (dir.splitOn "/").filter fun name => !name.isEmpty

/-- The files at and below the working directory. -/
def lookAround : IO FileSystem := do
  let dir ← IO.currentDir
  let place := placeOf (toString dir)
  let above : List (Place × Node) := (List.range place.length).tail.map fun n =>
    (place.take n, ⟨.directory, 0⟩)
  let below ← nodesAt place { root := dir, fileName := "." }
  return { nodes := above ++ below, cwd := place }

/-- The variables that are looked at. -/
def variableNames : List String :=
  ["HOME", "XDG_CONFIG_HOME", CommandLine.configVariable, "BUILDLORE__EXTRA_FLAGS",
    "BUILDLORE__MAKE__PROGRAM", "BUILDLORE__MAKE__FIXED_ARGS", "BUILDLORE__MAKE__PRELOAD_LIBRARY",
    "BUILDLORE__MAKE__DISABLE_PRELOAD_FLAG", "BUILDLORE__MAKE__SHIM_LOG",
    "BUILDLORE__MAKE__TERMINATION_GRACE_MS", "BUILDLORE__PRECOMPILE__SYSTEM_INCLUDES",
    "BUILDLORE__PRECOMPILE__FINGERPRINT_MODE"]

/-- The variables that are set. -/
def environment : IO Environment := do
  let found ← variableNames.mapM fun name => do
    return (← IO.getEnv name).map fun value => (name, value)
  return found.filterMap id

/-- The pieces of output that come in, up to the end. -/
partial def piecesOf (input : IO.FS.Stream) : IO (List OutputChunk) := do
  let piece ← input.read 65536
  if piece.isEmpty then return []
  else return .output piece.toList :: (← piecesOf input)

/-- What the build program does: it writes what comes in at the standard input. -/
def script (command : CommandLine.Command) : IO ProcessScript := do
  match command with
  | .run _ => return { chunks := ← piecesOf (← IO.getStdin) }
  | _ => return {}

/-- What is said to those who have made a mistake, or ask. -/
def usageText : CommandLine.UsageError → String
  | .version => "buildlore " ++ CommandLine.versionText
  | _ =>
    "Usage: buildlore [-c FILE] [-v] [--json-logs] run MAKEFILE | headers HEADER | config"

end Program
end BuildTrace

open BuildTrace BuildTrace.Program in
/-- Carries out the request of the command line. -/
def main (words : List String) : IO UInt32 := do
  let env ← environment
  match CommandLine.parse (env.lookup CommandLine.configVariable) words with
  | .error e =>
    if e.exitCode = 0 then IO.println (usageText e) else IO.eprintln (usageText e)
    return e.exitCode.toUInt32
  | .ok request =>
    let start ← IO.monoMsNow
    let files ← lookAround
    let script ← script request.command
    let elapsed := (← IO.monoMsNow) - start
    let outcome := request.perform
      { files := files
        environment := env
        refusal? := fun _ _ => none
        script := script
        elapsed := toString elapsed ++ "ms" }
    IO.print outcome.output
    IO.eprint outcome.errors
    return outcome.exit.toUInt32
