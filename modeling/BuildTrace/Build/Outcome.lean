import BuildTrace.Json.Decode

/-!
# Outcome — the outcome of a build

* `BuildOutcome` — how the build ended and how many commands it ran;
* `BuildOutcome.text` — the line that reports it;
* `BuildOutcome.toJson`, `ofJson?` — its form as data.
-/

namespace BuildTrace

/-- The outcome of a build whose process has ended. -/
structure BuildOutcome where
  /-- The exit code; there is none if a signal ended the process. -/
  exitCode : Option Int
  success : Bool
  sourceCount : Nat
  pchCount : Nat
  stderr : String
deriving DecidableEq, Repr

namespace BuildOutcome

/-- The line that reports the outcome. -/
def text (s : BuildOutcome) : String :=
  "Build " ++ (if s.success then "succeeded" else "failed") ++
    " | exit: " ++ (match s.exitCode with | some code => toString code | none => "signal") ++
    " | sources: " ++ toString s.sourceCount ++
    " | precompiled headers: " ++ toString s.pchCount

/-- The outcome as data. -/
def toJson (s : BuildOutcome) : Json :=
  .record [("exit_code", .ofOption Json.int s.exitCode), ("success", .bool s.success),
    ("source_count", .nat s.sourceCount), ("pch_count", .nat s.pchCount),
    ("stderr", .text s.stderr)]

/-- The outcome that data stand for. -/
def ofJson? (v : Json) : Option BuildOutcome := do
  match ← v.fields? false ["exit_code", "success", "source_count", "pch_count", "stderr"] with
  | [exitCode, some success, some sourceCount, some pchCount, some stderr] =>
    return { exitCode := ← Json.optional? (Json.intWithin? 32) exitCode
             success := ← success.bool?
             sourceCount := ← sourceCount.natBelow? (Number.limit 64)
             pchCount := ← pchCount.natBelow? (Number.limit 64)
             stderr := ← stderr.text? }
  | _ => none

end BuildOutcome
end BuildTrace
