import BuildTrace.FileSystem.Change

/-!
# Launch — starting a program

* `Launch` — how a process is started;
* `interpreter?` — the program that the first line of a script names;
* `startFailure?` — why the system refuses a launch.

The system looks at the file first, then at the size of what is passed on, and then at the form of
the file. A script is run by the program it names, which may be a script itself.
-/

namespace BuildTrace

/-- How a process is started. -/
structure Launch where
  directory : Path
  program : String
  arguments : List String
  preload : Option Path
deriving DecidableEq, Repr

/-- Whether a text has a NUL in it. Such a text is never passed on. -/
def hasNul (s : String) : Bool :=
  s.toList.contains (Char.ofNat 0)

namespace Launch

/-- The texts that are passed on to the process. -/
def texts (l : Launch) : List String :=
  l.program :: l.arguments ++ (l.preload.map fun p => "LD_PRELOAD=" ++ p.spelling).toList

/-- How many bytes one text may have. -/
def textLimit : Nat := 131071

/-- How many bytes all texts together may take up, with an end mark and an address for each. -/
def totalLimit : Nat := 2097152

/-- Whether more is passed on than the system takes. -/
def isTooLong (l : Launch) : Bool :=
  let sizes := l.texts.map fun s => (Text.bytes s).length
  sizes.any (fun n => textLimit < n) || totalLimit < sizes.foldl (fun total n => total + n + 9) 0

end Launch

/-! ## The form of a program -/

/-- Whether a file holds machine code: its marks say that it can be loaded, and for what machine. -/
def isMachineCode (data : List UInt8) : Bool :=
  data.take 4 = [0x7F, 0x45, 0x4C, 0x46] && [[2, 0], [3, 0]].contains ((data.drop 16).take 2) &&
    (data.drop 18).take 2 = [62, 0]

/-- Whether a byte is a blank in the first line of a script. -/
def isScriptBlank (b : UInt8) : Bool :=
  b = 32 || b = 9

/-- How many bytes at the beginning of a script are looked at. -/
def scriptHead : Nat := 256

/-- The name that the head of a script gives, behind its two marks and with zeros up to the end. A
line that ends in the head has to hold a name; if no line does, something has to end the name. -/
def interpreterName? (head : List UInt8) : Option (List UInt8) :=
  let line := head.takeWhile fun b => b ≠ 10 && b ≠ 0
  let start := head.dropWhile isScriptBlank
  let name := start.takeWhile fun b => !isScriptBlank b && b ≠ 10 && b ≠ 0
  match head.drop line.length with
  | 10 :: _ => if name.isEmpty then none else some name
  | _ =>
    if start.isEmpty || name.length = start.length then none
    else some name

/-- The program that the first line of a script names. -/
def interpreter? (data : List UInt8) : Option Path :=
  match data with
  | 35 :: 33 :: rest =>
    let room := scriptHead - 2
    let head := rest.take room
    (interpreterName? (head ++ List.replicate (room - head.length) 0)).map fun name =>
      ⟨String.ofList (Text.decodeLossy name)⟩
  | _ => none

/-- What a file that may be run holds. A name without a character is that of a directory. -/
def openProgram (fs : FileSystem) (p : Path) : Except SystemError (List UInt8) :=
  if p.spelling.isEmpty then .error .permissionDenied
  else
    match fs.find p with
    | .error e => .error e
    | .ok (_, ⟨.file data true, _⟩) => .ok data
    | .ok _ => .error .permissionDenied

/-- How many scripts may name one another. -/
def scriptLimit : Nat := 5

/-- Why a file of this content cannot be run, with so many scripts to come. -/
def formFailure? (fs : FileSystem) (scripts : Nat) (data : List UInt8) : Option SystemError :=
  if isMachineCode data then none
  else
    match interpreter? data with
    | none => some .notExecutable
    | some p =>
      match openProgram fs p, scripts with
      | .error e, _ => some e
      | .ok _, 0 => some .tooManyLinks
      | .ok data, scripts + 1 => formFailure? fs scripts data

/-! ## Starting -/

/-- Why the file at the end of a path cannot be started. -/
def fileStartFailure? (fs : FileSystem) (l : Launch) (p : Path) : Option SystemError :=
  match if p.spelling.isEmpty then .error .noSuchFile else openProgram fs p with
  | .error e => some e
  | .ok data => if l.isTooLong then some .tooLong else formFailure? fs scriptLimit data

/-- Whether a search for a program goes on after a refusal. -/
def isPassedOver (e : SystemError) : Bool :=
  [SystemError.permissionDenied, .noSuchFile, .notADirectory].contains e

/-- What comes of looking for a program in one place after another. -/
def searchFailure? : List (Option SystemError) → Option SystemError
  | [] => some .noSuchFile
  | none :: _ => none
  | some e :: rest =>
    if !isPassedOver e then some e
    else
      match searchFailure? rest with
      | some later =>
        some (if e = .permissionDenied && isPassedOver later then e else later)
      | none => none

/-- Why a launch cannot be made. A name without a separator is looked for in the directories of
`searchDirectories`; any other is seen from the directory of the launch. -/
def startFailure? (searchDirectories : List Path) (fs : FileSystem) (l : Launch) :
    Option SystemError :=
  let fs := { fs with cwd := l.directory.components.filterMap fun
    | .name s => some s
    | _ => none }
  if l.texts.any hasNul then some .nulInArgument
  else if l.program.toList.contains '/' then fileStartFailure? fs l ⟨l.program⟩
  else if l.program.isEmpty then some .noSuchFile
  else if FileSystem.nameLimit < (Text.bytes l.program).length then some .nameTooLong
  else
    searchFailure? (searchDirectories.map fun dir => fileStartFailure? fs l (dir.join ⟨l.program⟩))

end BuildTrace
