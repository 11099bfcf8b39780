import BuildTrace.Proofs.Text.Lossy
import Mathlib.Algebra.Group.Nat.Defs

/-!
# Decoding — the decoder reads by the rule

Of the bytes of an open sequence the decoder keeps their bits, how many bytes are due, and a range
for the next one. These say all about the characters that the bytes can still become:

* `Utf8.Long`, `Utf8.continuation` — the forms of more than one byte;
* `Utf8.Opened` — the invariant: the values that an open sequence allows are the characters that its
  bytes begin; `Utf8.ofByte_spec`, `Utf8.Opened.extend`, `Utf8.Opened.complete` — its steps;
* `Utf8.readsOn` — what the decoder makes of the bytes to come, from wherever it is;
* `lossy_iff` — the text that is read is the one the rule says;
* `ofBytesLossy_bytes` — a text is read back from its own bytes.
-/

namespace BuildTrace
namespace Text

open String (utf8EncodeChar)

/-! ## The decoder's open sequence -/

namespace Utf8

/-- The last `n` bytes of the form of a character with value `v`: six bits each. -/
def continuation : Nat → Nat → List UInt8
  | 0, _ => []
  | n + 1, v => UInt8.ofNat (v / 64 ^ n % 64 + 0x80) :: continuation n v

/-- The forms of `n + 1` bytes: what the first byte has beside the top bits of the value, and the
values written so, from `least` up to `bound`. -/
inductive Long : (n lead least bound : Nat) → Prop where
  | two : Long 1 0xC0 0x80 0x800
  | three : Long 2 0xE0 0x800 0x10000
  | four : Long 3 0xF0 0x10000 0x110000

section Forms

variable {n lead least bound : Nat} {b : UInt8} {c : Char}

theorem toNat_lt (c : Char) : c.toNat < 0x110000 := by
  have hvalid : c.toNat.isValidChar := c.valid
  rw [Nat.isValidChar] at hvalid
  omega

theorem encodeChar_of_lt (h : c.toNat < 0x80) : utf8EncodeChar c = [UInt8.ofNat c.toNat] := by
  unfold utf8EncodeChar
  exact if_pos (Nat.le_of_lt_succ h)

theorem Long.encodeChar (h : Long n lead least bound) (hleast : least ≤ c.toNat)
    (hbound : c.toNat < bound) :
    utf8EncodeChar c = UInt8.ofNat (c.toNat / 64 ^ n + lead) :: continuation n c.toNat := by
  have hv : c.val.toNat = c.toNat := rfl
  unfold utf8EncodeChar
  rw [hv]
  generalize c.toNat = v at hleast hbound
  cases h with
  | two =>
      rw [if_neg (by omega), if_pos (by omega), Nat.mod_eq_of_lt (by omega)]
      simp [continuation]
  | three =>
      rw [if_neg (by omega), if_neg (by omega), if_pos (by omega), Nat.mod_eq_of_lt (by omega)]
      simp [continuation]
  | four =>
      rw [if_neg (by omega), if_neg (by omega), if_neg (by omega), Nat.mod_eq_of_lt (by omega)]
      simp [continuation]

/-- Every character has one byte or one of the longer forms. -/
theorem lt_or_long (c : Char) : c.toNat < 0x80 ∨
    ∃ n lead least bound, Long n lead least bound ∧ least ≤ c.toNat ∧ c.toNat < bound := by
  have hmax := toNat_lt c
  by_cases h1 : c.toNat < 0x80
  · exact .inl h1
  by_cases h2 : c.toNat < 0x800
  · exact .inr ⟨_, _, _, _, .two, by omega, h2⟩
  by_cases h3 : c.toNat < 0x10000
  · exact .inr ⟨_, _, _, _, .three, by omega, h3⟩
  · exact .inr ⟨_, _, _, _, .four, by omega, hmax⟩

/-- A form begins with the byte that its value says. -/
theorem toNat_first (h : [b] <+: utf8EncodeChar c) :
    c.toNat < 0x80 ∧ b.toNat = c.toNat ∨
      ∃ n lead least bound, Long n lead least bound ∧ (least ≤ c.toNat ∧ c.toNat < bound) ∧
        b.toNat = c.toNat / 64 ^ n + lead := by
  rcases lt_or_long c with hlt | ⟨n, lead, least, bound, hlong, hleast, hbound⟩
  · rw [encodeChar_of_lt hlt, List.cons_prefix_cons] at h
    rw [h.1, UInt8.toNat_ofNat', Nat.mod_eq_of_lt (by omega)]
    exact .inl ⟨hlt, rfl⟩
  · rw [hlong.encodeChar hleast hbound, List.cons_prefix_cons] at h
    refine .inr ⟨n, lead, least, bound, hlong, ⟨hleast, hbound⟩, ?_⟩
    rw [h.1, UInt8.toNat_ofNat', Nat.mod_eq_of_lt]
    cases hlong <;> omega

/-- The bytes that can begin a form of `n + 1` bytes begin no other. -/
theorem Long.of_first (h : Long n lead least bound) (hb : least / 64 ^ n + lead ≤ b.toNat)
    (hb' : b.toNat ≤ (bound - 1) / 64 ^ n + lead) (hc : [b] <+: utf8EncodeChar c) :
    (least ≤ c.toNat ∧ c.toNat < bound) ∧ b.toNat = c.toNat / 64 ^ n + lead := by
  rcases toNat_first hc with ⟨hlt, heq⟩ | ⟨n', lead', least', bound', hlong, hrange, heq⟩
  · cases h <;> omega
  · cases h <;> cases hlong <;> omega

end Forms

/-- The values that an open sequence can still become. -/
structure Partial.Allows (p : Partial) (v : Nat) : Prop where
  bits : v / 64 ^ p.due = p.bits
  low : p.low.toNat ≤ v / 64 ^ (p.due - 1) % 64 + 0x80
  high : v / 64 ^ (p.due - 1) % 64 + 0x80 ≤ p.high.toNat

/-- The open sequence `p` is what the decoder has to know of the bytes in `part`: the characters
that they begin are those of the values it allows, and what is due is the rest of their forms. -/
structure Opened (part : List UInt8) (p : Partial) : Prop where
  due_pos : 0 < p.due
  low_ge : 0x80 ≤ p.low.toNat
  low_le_high : p.low.toNat ≤ p.high.toNat
  high_le : p.high.toNat ≤ 0xBF
  valid : ∀ v, p.Allows v → v.isValidChar
  allows : ∀ c, part <+: utf8EncodeChar c → p.Allows c.toNat
  form : ∀ c, p.Allows c.toNat → utf8EncodeChar c = part ++ continuation p.due c.toNat

/-- A byte that begins a form of `n + 1` bytes opens a sequence, if the range for the second byte
leaves just the values that are written so. -/
theorem Opened.of_long {b low high : UInt8} {n lead least bound : Nat}
    (h : Long n lead least bound) (hb : least / 64 ^ n + lead ≤ b.toNat)
    (hb' : b.toNat ≤ (bound - 1) / 64 ^ n + lead)
    (hends : 0x80 ≤ low.toNat ∧ low.toNat ≤ high.toNat ∧ high.toNat ≤ 0xBF)
    (hrange : ∀ v, b.toNat = v / 64 ^ n + lead →
      (low.toNat ≤ v / 64 ^ (n - 1) % 64 + 0x80 ∧ v / 64 ^ (n - 1) % 64 + 0x80 ≤ high.toNat ↔
        (least ≤ v ∧ v < bound) ∧ v.isValidChar)) :
    Opened [b] { due := n, bits := b.toNat - lead, low := low, high := high } := by
  have hlead : lead ≤ b.toNat := Nat.le_trans (Nat.le_add_left _ _) hb
  have hbits : ∀ v, v / 64 ^ n = b.toNat - lead ↔ b.toNat = v / 64 ^ n + lead := by
    intro v
    omega
  refine ⟨?_, hends.1, hends.2.1, hends.2.2, ?_, ?_, ?_⟩
  · cases h <;> exact Nat.succ_pos _
  · rintro v ⟨hv, hlow, hhigh⟩
    exact ((hrange v ((hbits v).1 hv)).1 ⟨hlow, hhigh⟩).2
  · intro c hc
    rcases h.of_first hb hb' hc with ⟨hv, heq⟩
    rcases (hrange c.toNat heq).2 ⟨hv, c.valid⟩ with ⟨hlow, hhigh⟩
    exact ⟨(hbits c.toNat).2 heq, hlow, hhigh⟩
  · rintro c ⟨hv, hlow, hhigh⟩
    have heq := (hbits c.toNat).1 hv
    rcases (hrange c.toNat heq).1 ⟨hlow, hhigh⟩ with ⟨⟨hleast, hbound⟩, -⟩
    rw [h.encodeChar hleast hbound, ← heq, UInt8.ofNat_toNat, List.singleton_append]

theorem toNat_ofNat {v : Nat} (h : v.isValidChar) : (Char.ofNat v).toNat = v := by
  have hchar : Char.ofNat v = Char.ofNatAux v h := dif_pos h
  rw [hchar]
  rfl

/-- Bytes that go on with a sequence begin none, and neither do those that no value has. -/
theorem not_begins_of_first {b : UInt8}
    (h : 0x80 ≤ b.toNat ∧ b.toNat < 0xC2 ∨ 0xF4 < b.toNat) : ¬ Begins [b] := by
  rintro ⟨c, hc⟩
  rcases toNat_first hc with ⟨hlt, heq⟩ | ⟨_, _, _, _, hlong, hrange, heq⟩
  · omega
  · cases hlong <;> omega

/-- The first byte of a sequence is read as the characters say that it can begin. -/
theorem ofByte_spec (b : UInt8) :
    match Lead.ofByte b with
    | .complete c => utf8EncodeChar c = [b]
    | .opens p => Opened [b] p
    | .stray => ¬ Begins [b] := by
  have hlt : ∀ {k : UInt8}, b < k → b.toNat < k.toNat := UInt8.lt_iff_toNat_lt.1
  have hge : ∀ {k : UInt8}, ¬ b < k → k.toNat ≤ b.toNat :=
    fun h => Nat.le_of_not_lt (mt UInt8.lt_iff_toNat_lt.2 h)
  have hne : ∀ {k : UInt8}, b ≠ k → b.toNat ≠ k.toNat := fun h heq => h (UInt8.toNat_inj.1 heq)
  fun_cases Lead.ofByte b with
  | case1 hascii =>
      have hb : b.toNat < 0x80 := hlt hascii
      have hv := toNat_ofNat (v := b.toNat) (.inl (by omega))
      dsimp only
      rw [encodeChar_of_lt (by rwa [hv]), hv, UInt8.ofNat_toNat]
  | case2 hascii hcont => exact not_begins_of_first (.inl ⟨hge hascii, hlt hcont⟩)
  | case3 _ hcont htwo =>
      have hb : 0xC2 ≤ b.toNat := hge hcont
      have hb' : b.toNat < 0xE0 := hlt htwo
      refine Opened.of_long .two (by omega) (by omega) (by decide) ?_
      simp only [UInt8.reduceToNat, Nat.isValidChar]
      omega
  | case4 _ _ _ hE0 =>
      -- Values that have a shorter form need a lower second byte.
      subst hE0
      refine Opened.of_long .three (by decide) (by decide) (by decide) ?_
      simp only [UInt8.reduceToNat, Nat.isValidChar]
      omega
  | case5 _ _ _ _ hED =>
      -- Values that are surrogates need a higher one.
      subst hED
      refine Opened.of_long .three (by decide) (by decide) (by decide) ?_
      simp only [UInt8.reduceToNat, Nat.isValidChar]
      omega
  | case6 _ _ htwo hE0 hED hthree =>
      have hb : 0xE0 ≤ b.toNat := hge htwo
      have hb' : b.toNat < 0xF0 := hlt hthree
      have hb0 : b.toNat ≠ 0xE0 := hne hE0
      have hbD : b.toNat ≠ 0xED := hne hED
      refine Opened.of_long .three (by omega) (by omega) (by decide) ?_
      simp only [UInt8.reduceToNat, Nat.isValidChar]
      omega
  | case7 _ _ _ _ _ _ hF0 =>
      subst hF0
      refine Opened.of_long .four (by decide) (by decide) (by decide) ?_
      simp only [UInt8.reduceToNat, Nat.isValidChar]
      omega
  | case8 _ _ _ _ _ hthree hF0 hfour =>
      have hb : 0xF0 ≤ b.toNat := hge hthree
      have hb' : b.toNat < 0xF4 := hlt hfour
      have hb0 : b.toNat ≠ 0xF0 := hne hF0
      refine Opened.of_long .four (by omega) (by omega) (by decide) ?_
      simp only [UInt8.reduceToNat, Nat.isValidChar]
      omega
  | case9 _ _ _ _ _ _ _ _ hF4 =>
      -- So do values above the last character.
      subst hF4
      refine Opened.of_long .four (by decide) (by decide) (by decide) ?_
      simp only [UInt8.reduceToNat, Nat.isValidChar]
      omega
  | case10 _ _ _ _ _ _ _ hfour hF4 =>
      have hb : 0xF4 ≤ b.toNat := hge hfour
      have hb4 : b.toNat ≠ 0xF4 := hne hF4
      exact not_begins_of_first (.inr (by omega))

theorem toNat_digit (q : Nat) : (UInt8.ofNat (q % 64 + 0x80)).toNat = q % 64 + 0x80 := by
  have hlt : q % 64 < 64 := Nat.mod_lt _ (by decide)
  rw [UInt8.toNat_ofNat', Nat.mod_eq_of_lt (by omega)]

theorem Partial.accepts_iff {p : Partial} {b : UInt8} :
    p.accepts b ↔ p.low.toNat ≤ b.toNat ∧ b.toNat ≤ p.high.toNat := by
  simp only [accepts, Bool.and_eq_true, decide_eq_true_eq, UInt8.le_iff_toNat_le]

namespace Opened

variable {part : List UInt8} {p : Partial} {b : UInt8}

/-- The byte that a value has next is one that the sequence takes, and says the next six bits. -/
theorem continuation_eq (h : Opened part p) (v : Nat) :
    continuation p.due v =
      UInt8.ofNat (v / 64 ^ (p.due - 1) % 64 + 0x80) :: continuation (p.due - 1) v := by
  cases hdue : p.due with
  | zero => exact absurd h.due_pos (by omega)
  | succ n => rw [continuation, Nat.add_sub_cancel]

/-- A value has the bits read so far and those of the next byte just if it was allowed so far and
says that byte. -/
theorem allows_iff (h : Opened part p) (hb : p.accepts b) (v : Nat) :
    v / 64 ^ (p.due - 1) = p.withByte b ↔
      p.Allows v ∧ v / 64 ^ (p.due - 1) % 64 + 0x80 = b.toNat := by
  rw [Partial.accepts_iff] at hb
  have hlow := h.low_ge
  have hhigh := h.high_le
  have hbits : v / 64 ^ p.due = v / 64 ^ (p.due - 1) / 64 := by
    rw [Nat.div_div_eq_div_mul, ← Nat.pow_succ, Nat.succ_eq_add_one, Nat.sub_add_cancel h.due_pos]
  have hdigit : ∀ q, q = p.bits * 64 + (b.toNat - 0x80) ↔
      q / 64 = p.bits ∧ q % 64 + 0x80 = b.toNat := by
    intro q
    omega
  constructor
  · intro hv
    rcases (hdigit _).1 hv with ⟨hquotient, hbyte⟩
    exact ⟨⟨hbits.trans hquotient, hb.1.trans hbyte.ge, hbyte.le.trans hb.2⟩, hbyte⟩
  · rintro ⟨hv, hbyte⟩
    exact (hdigit _).2 ⟨hbits.symm.trans hv.bits, hbyte⟩

/-- Where the bytes go on with `b`, the character is one of those allowed, and `b` says its next six
bits. -/
theorem allows_snoc (h : Opened part p) {c : Char} (hc : part ++ [b] <+: utf8EncodeChar c) :
    p.Allows c.toNat ∧ c.toNat / 64 ^ (p.due - 1) % 64 + 0x80 = b.toNat := by
  have hallows := h.allows c ((List.prefix_append _ _).trans hc)
  rw [h.form c hallows, h.continuation_eq, List.prefix_append_right_inj,
    List.cons_prefix_cons] at hc
  refine ⟨hallows, ?_⟩
  rw [hc.1, toNat_digit]

/-- A byte that the sequence does not take goes on with no character. -/
theorem not_begins_snoc (h : Opened part p) (hb : ¬ p.accepts b) : ¬ Begins (part ++ [b]) := by
  rintro ⟨c, hc⟩
  rcases h.allows_snoc hc with ⟨hallows, hdigit⟩
  exact hb (Partial.accepts_iff.2 ⟨hallows.low.trans hdigit.le, hdigit.ge.trans hallows.high⟩)

/-- The sequence with one more byte, of which more are due. -/
theorem extend (h : Opened part p) (hb : p.accepts b) (hdue : 1 < p.due) :
    Opened (part ++ [b]) (p.extend b) := by
  have hallows : ∀ v, (p.extend b).Allows v ↔ v / 64 ^ (p.due - 1) = p.withByte b := by
    intro v
    refine ⟨fun hv => hv.bits, fun hv => ⟨hv, ?_, ?_⟩⟩
    · exact Nat.le_add_left _ _
    · exact Nat.add_le_add_right (Nat.le_of_lt_succ (Nat.mod_lt _ (by decide))) 0x80
  have hform : ∀ c : Char, (p.extend b).Allows c.toNat →
      utf8EncodeChar c = part ++ b :: continuation (p.due - 1) c.toNat := by
    intro c hc
    rcases (h.allows_iff hb _).1 ((hallows _).1 hc) with ⟨hv, hdigit⟩
    rw [h.form c hv, h.continuation_eq, hdigit, UInt8.ofNat_toNat]
  have hends : (0x80 : UInt8).toNat ≤ (0xBF : UInt8).toNat := by decide
  refine ⟨Nat.sub_pos_of_lt hdue, Nat.le_refl _, hends, Nat.le_refl _, ?_, ?_, ?_⟩
  · intro v hv
    exact h.valid v ((h.allows_iff hb v).1 ((hallows v).1 hv)).1
  · intro c hc
    exact (hallows _).2 ((h.allows_iff hb _).2 (h.allows_snoc hc))
  · intro c hc
    rw [hform c hc, List.append_assoc]
    rfl

/-- The last byte of a sequence ends a character. -/
theorem complete (h : Opened part p) (hb : p.accepts b) (hdue : p.due ≤ 1) :
    utf8EncodeChar (Char.ofNat (p.withByte b)) = part ++ [b] := by
  have hone : p.due - 1 = 0 := by omega
  rcases (h.allows_iff hb (p.withByte b)).1 (by simp [hone]) with ⟨hv, hdigit⟩
  have hvalue := toNat_ofNat (h.valid _ hv)
  rw [h.form _ (hvalue.symm ▸ hv), hvalue, h.continuation_eq, hdigit, UInt8.ofNat_toNat, hone]
  rfl

/-- A sequence that is open can still be completed. -/
theorem exists_unfinished (h : Opened part p) :
    ∃ c, part <+: utf8EncodeChar c ∧ part ≠ utf8EncodeChar c := by
  -- The value with the smallest byte that is taken next, and zeros behind it.
  have hpos : 0 < 64 ^ (p.due - 1) := Nat.pow_pos (by decide)
  have hb : p.accepts p.low := Partial.accepts_iff.2 ⟨Nat.le_refl _, h.low_le_high⟩
  have hv := ((h.allows_iff hb (p.withByte p.low * 64 ^ (p.due - 1))).1
    (Nat.mul_div_cancel _ hpos)).1
  have hvalue := toNat_ofNat (h.valid _ hv)
  have hform := h.form _ (hvalue.symm ▸ hv)
  rw [h.continuation_eq] at hform
  refine ⟨_, ⟨_, hform.symm⟩, fun hwhole => ?_⟩
  rw [← hwhole, List.self_eq_append_right] at hform
  exact List.cons_ne_nil _ _ hform

theorem isCut (h : Opened part p) (hpart : part ≠ []) {rest : List UInt8}
    (hrest : ∀ b ∈ rest.head?, ¬ p.accepts b) : IsCut part rest where
  nonempty := hpart
  unfinished := h.exists_unfinished
  maximal b hb := h.not_begins_snoc (hrest b hb)

end Opened

/-! ## The whole stream -/

/-- The bytes behind the last piece, and the sequence that the decoder has open for them. -/
inductive Waiting : List UInt8 → Option Partial → Prop where
  | between : Waiting [] none
  | inside {part : List UInt8} {p : Partial} : part ≠ [] → Opened part p → Waiting part (some p)

/-- The decoder reads the bytes by the rule, from where it is. -/
def ReadsOn (bs : List UInt8) : Prop :=
  ∀ (part : List UInt8) (d : Decoder), Waiting part d.pending →
    ∃ cs, Lossy (part ++ bs) cs ∧ (bs.foldl Decoder.feed d).finish.out = cs.reverse ++ d.out

section Run

variable {b : UInt8} {bs : List UInt8}

/-- A byte in front of which nothing is open. -/
theorem ReadsOn.start (h : ReadsOn bs) (d : Decoder) :
    ∃ cs, Lossy (b :: bs) cs ∧
      (bs.foldl Decoder.feed (d.start b)).finish.out = cs.reverse ++ d.out := by
  have hspec := ofByte_spec b
  rw [Decoder.start]
  generalize Lead.ofByte b = lead at hspec
  cases lead with
  | complete c =>
      rcases h [] (d.emit c) .between with ⟨cs, hcs, hout⟩
      have hpiece : Piece [b] c bs := hspec ▸ .char c bs
      refine ⟨c :: cs, .cons hpiece hcs, ?_⟩
      rw [hout, List.reverse_cons, List.append_assoc]
      rfl
  | opens p =>
      exact h [b] { d with pending := some p } (.inside (List.cons_ne_nil _ _) hspec)
  | stray =>
      rcases h [] d.replace .between with ⟨cs, hcs, hout⟩
      refine ⟨'\uFFFD' :: cs, .cons (.stray bs hspec) hcs, ?_⟩
      rw [hout, List.reverse_cons, List.append_assoc]
      rfl

/-- At the end a sequence that is open is cut off. -/
theorem ReadsOn.nil : ReadsOn [] := by
  intro part d hwaiting
  rw [List.foldl_nil, Decoder.finish]
  generalize hpending : d.pending = pending at hwaiting
  cases hwaiting with
  | between => exact ⟨[], .nil, rfl⟩
  | @inside part p hpart hopened =>
      have hcut : IsCut part [] := hopened.isCut hpart (by simp)
      exact ⟨['\uFFFD'], .cons (.cut hcut) .nil, rfl⟩

/-- One byte more in front. -/
theorem ReadsOn.cons (h : ReadsOn bs) (b : UInt8) : ReadsOn (b :: bs) := by
  intro part d hwaiting
  rw [List.foldl_cons, Decoder.feed]
  generalize hpending : d.pending = pending at hwaiting
  cases hwaiting with
  | between => exact h.start d
  | @inside part p hpart hopened =>
      by_cases hb : p.accepts b
      · by_cases hdue : p.due ≤ 1
        · -- The byte ends a character.
          rcases h [] (d.emit (Char.ofNat (p.withByte b))) .between with ⟨cs, hcs, hout⟩
          have hpiece := Piece.char (Char.ofNat (p.withByte b)) bs
          rw [hopened.complete hb hdue] at hpiece
          have hstream : part ++ b :: bs = part ++ [b] ++ bs := by simp
          refine ⟨Char.ofNat (p.withByte b) :: cs, hstream ▸ .cons hpiece hcs, ?_⟩
          simp only [hb, hdue, if_true, hout, List.reverse_cons, List.append_assoc]
          rfl
        · -- The sequence is one byte longer.
          have hopened' := hopened.extend hb (by omega)
          rcases h (part ++ [b]) { d with pending := some (p.extend b) }
            (.inside (by simp) hopened') with ⟨cs, hcs, hout⟩
          refine ⟨cs, by simpa using hcs, ?_⟩
          simpa only [hb, hdue, if_true, if_false] using hout
      · -- The sequence is cut off, and the byte is read again.
        rcases h.start (b := b) d.replace with ⟨cs, hcs, hout⟩
        have hcut : IsCut part (b :: bs) := hopened.isCut hpart (by simpa using hb)
        refine ⟨'\uFFFD' :: cs, .cons (.cut hcut) hcs, ?_⟩
        simp only [hb, Bool.false_eq_true, if_false, hout, List.reverse_cons, List.append_assoc]
        rfl

theorem readsOn : ∀ bs, ReadsOn bs
  | [] => .nil
  | b :: bs => (readsOn bs).cons b

end Run
end Utf8

/-! ## The text of the bytes -/

/-- The decoder reads every stream by the rule. -/
theorem lossy_decodeLossy (stream : List UInt8) : Lossy stream (decodeLossy stream) := by
  rcases Utf8.readsOn stream [] {} .between with ⟨cs, hcs, hout⟩
  rw [decodeLossy, Utf8.Decoder.run, hout]
  simpa using hcs

theorem lossy_iff {stream : List UInt8} {cs : List Char} :
    Lossy stream cs ↔ cs = decodeLossy stream :=
  ⟨fun h => h.unique (lossy_decodeLossy stream), fun h => h ▸ lossy_decodeLossy stream⟩

/-- A text is read back from its own bytes. -/
theorem ofBytesLossy_bytes (s : String) : ofBytesLossy (bytes s) = s := by
  rw [ofBytesLossy, bytes, ← lossy_iff.1 (lossy_encode s.toList)]
  exact String.ofList_toList

/-- A beginning that is cut off costs one U+FFFD, a byte that begins nothing one of its own. -/
example : decodeLossy [0xE2, 0x82, 0x41, 0xFF, 0xC3, 0xA9] = ['\uFFFD', 'A', '\uFFFD', 'é'] := by
  decide

end Text
end BuildTrace
