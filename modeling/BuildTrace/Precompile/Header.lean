import BuildTrace.Precompile.Expand
import BuildTrace.Precompile.Key

/-!
# Header — one precompiled header

A precompiled header collects text and keeps the unit it was parsed to.

* `PrecompiledHeader` — key, text, recorded stamps and unit;
* `append`, `clear`, `setStamps`, `freshness` — its operations;
* `PrecompiledHeader.begin`, `PrecompiledHeader.finish` — a parse, in two parts. The engine works
  between them, and so may everyone else: `begin` hands out all the engine needs as a `ParseJob`,
  and `finish` keeps the unit only if the text has not been cleared since.
-/

namespace BuildTrace

/-- What an engine makes of a header, known by its number. -/
structure TranslationUnit where
  number : Nat
deriving DecidableEq, Repr

/-- Why an engine made nothing. -/
inductive EngineFailure where
  | parse (text : String)
  | unavailable (text : String)
deriving DecidableEq, Repr

namespace EngineFailure

/-- The text of an error. -/
def message : EngineFailure → String
  | .parse text => "Parse failed: " ++ text
  | .unavailable text => "Engine unavailable: " ++ text

end EngineFailure

/-- Why there is no unit. -/
inductive PrecompileFailure where
  /-- No text has been added. -/
  | empty (header : Path)
  /-- An included file could not be read. -/
  | read (e : ReadError)
  | engine (e : EngineFailure)
deriving DecidableEq, Repr

namespace PrecompileFailure

/-- The text of an error. -/
def message : PrecompileFailure → String
  | .empty header => "No header data accumulated for " ++ header.spelling
  | .read e => e.message
  | .engine e => "Source analysis failed: " ++ e.message

end PrecompileFailure

/-- One precompiled header. -/
structure PrecompiledHeader where
  key : HeaderKey
  kind : StampKind
  file : Path
  data : List UInt8 := []
  stamps : StampTable := {}
  unit : Option TranslationUnit := none
  /-- How often the text has been cleared. -/
  generation : Nat := 0
deriving DecidableEq, Repr

/-- A parse that has begun. -/
structure ParseJob where
  file : Path
  source : List UInt8
  flags : List String
  /-- The stamps of the files that went into the source. -/
  stamps : StampTable
  generation : Nat
deriving DecidableEq, Repr

/-- How a parse begins. -/
inductive ParseStart where
  /-- There is a unit already. -/
  | cached (unit : TranslationUnit)
  | job (j : ParseJob)
deriving DecidableEq, Repr

namespace PrecompiledHeader

/-- Adds text behind the text there is. -/
def append (h : PrecompiledHeader) (bytes : List UInt8) : PrecompiledHeader :=
  { h with data := h.data ++ bytes }

/-- Drops the text and the unit; key and stamps stay. -/
def clear (h : PrecompiledHeader) : PrecompiledHeader :=
  { h with data := [], unit := none, generation := h.generation + 1 }

/-- Replaces the recorded stamps. -/
def setStamps (h : PrecompiledHeader) (t : StampTable) : PrecompiledHeader :=
  { h with stamps := t }

/-- Compares the recorded stamps with those of the files now. -/
def freshness (fs : FileSystem) (h : PrecompiledHeader) : Freshness :=
  h.stamps.freshness fs

/-- Where the includes of the text are looked for. -/
def searchPath (h : PrecompiledHeader) (systemDirectories : List Path) : SearchPath :=
  { directories := h.key.searchDirectories, systemDirectories := systemDirectories, kind := h.kind }

/-- Begins a parse of the text there is now. -/
def begin (fs : FileSystem) (systemDirectories : List Path) (h : PrecompiledHeader) :
    Except PrecompileFailure ParseStart :=
  match h.unit with
  | some unit => .ok (.cached unit)
  | none =>
    if h.data = [] then .error (.empty h.file)
    else
      match (h.searchPath systemDirectories).expand fs h.file h.data with
      | .error cause => .error (.read cause)
      | .ok expanded =>
        .ok (.job
          { file := h.file
            source := expanded.source
            flags := h.key.flags
            stamps := expanded.stamps
            generation := h.generation })

/-- Ends a parse that made a unit. -/
def finish (h : PrecompiledHeader) (j : ParseJob) (unit : TranslationUnit) : PrecompiledHeader :=
  if h.generation = j.generation then
    { h with stamps := j.stamps, unit := some unit }
  else h

end PrecompiledHeader
end BuildTrace
