import BuildTrace.Digest.Blake3
import BuildTrace.Invocation.Basic
import BuildTrace.Path.Native

/-!
# Key — when two commands can share a precompiled header

* `HeaderKey` — a header and the flags that decide how it is read, with a digest of both;
* `HeaderKey.digestOf` — the digest, also of a header whose path is no text;
* `HeaderKey.Same` — keys that stand for the same unit;
* `HeaderKey.ofCommand` — the key a compiler command gives a header.

Flags that only name a product, a dependency file or the source are left out, and directories named
by `-I` are made absolute, so that commands run in different directories can agree. Paths go into
digests and flags as the text they are shown as. Keys are made here of paths that are text and show
as they are spelled; of others a digest or a flag may stand for several.
-/

namespace BuildTrace

/-- A header and the flags that decide how it is read. -/
structure HeaderKey where
  digest : String
  header : Path
  flags : List String
deriving DecidableEq, Repr

namespace HeaderKey

/-- The bytes the digest is taken of: the text of the header and the flags, each with a NUL behind
it. -/
def digestInput (header : NativePath) (flags : List String) : List UInt8 :=
  (header.display :: flags).flatMap fun s => Text.bytes s ++ [0]

/-- The digest of a header and flags. -/
def digestOf (header : NativePath) (flags : List String) : String :=
  Blake3.hexDigest (digestInput header flags)

/-- The key of a header and flags. -/
def ofParts (header : Path) (flags : List String) : HeaderKey :=
  { digest := digestOf header.native flags
    header := header
    flags := flags }

/-- Keys that stand for the same unit; the spelling of the header does not count. -/
def Same (k l : HeaderKey) : Prop :=
  k.digest = l.digest ∧ k.header.Same l.header ∧ k.flags = l.flags

instance : DecidableRel Same := fun k l =>
  inferInstanceAs (Decidable (k.digest = l.digest ∧ k.header.Same l.header ∧ k.flags = l.flags))

theorem Same.refl (k : HeaderKey) : k.Same k :=
  ⟨rfl, .refl _, rfl⟩

theorem Same.symm {k l : HeaderKey} (h : k.Same l) : l.Same k :=
  ⟨h.1.symm, h.2.1.symm, h.2.2.symm⟩

theorem Same.trans {k l m : HeaderKey} (h : k.Same l) (h' : l.Same m) : k.Same m :=
  ⟨h.1.trans h'.1, h.2.1.trans h'.2.1, h.2.2.trans h'.2.2⟩

/-! ## From a command -/

/-- Options that name a product or a dependency file by the token behind them. -/
def namingOptions : List String :=
  ["-o", "-MF", "-MT", "-MQ"]

/-- Options that ask for a product or a dependency file. -/
def productOptions : List String :=
  ["-c", "-M", "-MM", "-MD", "-MMD", "-MP", "-MG"]

/-- The `-I` flag of a directory: the text it is shown as. -/
def directoryFlag (dir : NativePath) : String :=
  "-I" ++ dir.display

/-- The `-I` flag of a directory, as seen from `cwd`. -/
def includeFlag (cwd : Path) (dir : String) : String :=
  directoryFlag (cwd.lexicalJoin ⟨dir⟩).native

/-- Whether a token names the source. -/
def namesSource (cwd source : Path) (flag : String) : Bool :=
  flag.toList.head? ≠ some '-' && decide ((cwd.lexicalJoin ⟨flag⟩).Same source)

/-- The flags that decide how a header is read, out of those of a command that compiles `source` in
`cwd`. -/
def relevantFlags (cwd source : Path) : List String → List String
  | [] => []
  | [flag] =>
    if namingOptions.contains flag || flag = "-I" then [] else lone flag
  | flag :: value :: rest =>
    if namingOptions.contains flag then relevantFlags cwd source rest
    else if flag = "-I" then includeFlag cwd value :: relevantFlags cwd source rest
    else lone flag ++ relevantFlags cwd source (value :: rest)
where
  /-- What a token that is read on its own leaves behind. -/
  lone (flag : String) : List String :=
    if productOptions.contains flag || (Options.attached? "-o" flag).isSome then []
    else if namesSource cwd source flag then []
    else
      match Options.attached? "-I" flag with
      | some dir => [includeFlag cwd dir]
      | none => [flag]

/-- The key that a command gives a header, named as seen from where the command runs. -/
def ofCommand (i : Invocation) (header : Path) : HeaderKey :=
  ofParts (i.workingDirectory.lexicalJoin header)
    (relevantFlags i.workingDirectory i.sourceFile i.flags)

/-! ## Views -/

/-- The directories the flags name by `-I`, as they stand there. -/
def searchDirectories (k : HeaderKey) : List Path :=
  (k.flags.filterMap (Options.attached? "-I")).map Path.mk

/-- The length of a digest in short. -/
def shortLength : Nat := 12

/-- The digest in short; all of it if it is shorter or cannot be cut there. -/
def shortDigest (k : HeaderKey) : String :=
  ((Text.decode? ((Text.bytes k.digest).take shortLength)).filter fun cs =>
    (Text.encode cs).length = shortLength).elim k.digest String.ofList

/-- The key as text. -/
def text (k : HeaderKey) : String :=
  k.header.native.display ++ " (" ++ k.shortDigest ++ ")"

end HeaderKey
end BuildTrace
