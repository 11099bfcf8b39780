import BuildTrace.Invocation.Basic
import BuildTrace.Json.Decode

/-!
# Encoding — compiler commands as data

* `Invocation.toJson`, `Invocation.ofJson?` — a command as a JSON record, with paths as spelled.
-/

namespace BuildTrace

/-- A path as data. -/
def Path.toJson (p : Path) : Json :=
  .text p.spelling

/-- The path that data stand for. -/
def Path.ofJson? (v : Json) : Option Path :=
  v.text?.map Path.mk

namespace ProductKind

/-- The name of a kind in data. -/
def name : ProductKind → String
  | .compile => "compile"
  | .precompiledHeader => "precompiled_header"

/-- The kind that data stand for. -/
def ofJson? (v : Json) : Option ProductKind :=
  match v.plainVariant? with
  | some "compile" => some .compile
  | some "precompiled_header" => some .precompiledHeader
  | _ => none

end ProductKind

namespace Invocation

/-- The command as data. -/
def toJson (i : Invocation) : Json :=
  .record [("working_directory", i.workingDirectory.toJson), ("compiler", .text i.compiler),
    ("source_file", i.sourceFile.toJson), ("kind", .text i.kind.name),
    ("flags", .array (i.flags.map Json.text)), ("output", .ofOption Path.toJson i.output),
    ("raw_line", .text i.rawLine)]

/-- The command that data stand for. -/
def ofJson? (v : Json) : Option Invocation := do
  match ← v.fields? false
      ["working_directory", "compiler", "source_file", "kind", "flags", "output", "raw_line"] with
  | [some workingDirectory, some compiler, some sourceFile, some kind, some flags, output,
      some rawLine] =>
    return { workingDirectory := ← Path.ofJson? workingDirectory
             compiler := ← compiler.text?
             sourceFile := ← Path.ofJson? sourceFile
             kind := ← ProductKind.ofJson? kind
             flags := ← flags.listOf? Json.text?
             output := ← Json.optional? Path.ofJson? output
             rawLine := ← rawLine.text? }
  | _ => none

end Invocation
end BuildTrace
