import BuildTrace.Invocation.Options

/-!
# Invocation — one compiler command of a build

* `Invocation` — a compile or precompile command as it was seen in the output of a build;
* `Invocation.withSessionFlags` — the command with flags that hold for the whole session;
* `Invocation.searchDirectories`, `Invocation.pchCandidates` — the files its flags name.
-/

namespace BuildTrace

/-- What a compiler command produces. -/
inductive ProductKind where
  | compile
  | precompiledHeader
deriving DecidableEq, Repr

/-- One compiler command. -/
structure Invocation where
  workingDirectory : Path
  compiler : String
  sourceFile : Path
  kind : ProductKind
  /-- Every token behind the compiler, in order. -/
  flags : List String
  output : Option Path
  /-- The line as the build printed it. -/
  rawLine : String
deriving DecidableEq, Repr

namespace Invocation

/-- Whether the command makes a precompiled header. -/
def makesPch (i : Invocation) : Bool :=
  i.kind = .precompiledHeader

/-- The command with those options of `extra` it does not have yet. -/
def withSessionFlags (i : Invocation) (extra : List String) : Invocation :=
  { i with flags := Options.withExtra i.flags extra }

/-- The directories the command searches by `-I`. -/
def searchDirectories (i : Invocation) : List Path :=
  Options.searchDirectories i.workingDirectory i.flags

/-- The precompiled artifacts the command may use. -/
def pchCandidates (i : Invocation) : List Path :=
  Options.pchCandidates i.workingDirectory i.flags

end Invocation
end BuildTrace
