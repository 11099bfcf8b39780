import BuildTrace.Precompile.Key
import BuildTrace.Proofs.Path.Folding
import BuildTrace.Proofs.Path.Native

/-!
# KeyFlags — the flags of a key, option by option

A key reads the flags of a command token by token, but a flag list means options, some of which
have a value. Where no value looks like an option the two readings agree:

* `HeaderKey.kept` — what is left of one option;
* `HeaderKey.IsPlain` — a token that is kept as it stands, wherever it is;
* `HeaderKey.HasPlainValue` — an option whose value is such a token;
* `units_relevantFlags` — if all values are plain, the flags of a key, cut into options, are what is
  left of each option.
-/

namespace BuildTrace

/-! ## Cutting -/

namespace Options

/-- A token that takes no value stands alone wherever it is. -/
theorem units_cons_of_not_wantsValue {flag : String} (h : wantsValue flag = false)
    (rest : List String) : units (flag :: rest) = .lone flag :: units rest := by
  cases rest with
  | nil => rfl
  | cons value rest => rw [units, if_neg (by simp [h])]

theorem units_append_of_not_wantsValue {flags : List String}
    (h : ∀ flag ∈ flags, wantsValue flag = false) (rest : List String) :
    units (flags ++ rest) = flags.map .lone ++ units rest := by
  induction flags with
  | nil => rfl
  | cons flag flags ih =>
      rw [List.cons_append, units_cons_of_not_wantsValue (h flag List.mem_cons_self),
        ih fun x hx => h x (List.mem_cons_of_mem flag hx)]
      rfl

end Options

namespace HeaderKey

open Options (units wantsValue attached?)

variable {cwd source : Path} {flag option value : String} {flags rest : List String}

/-! ## Single tokens -/

/-- Options that name a product take it as their value. -/
theorem wantsValue_of_naming (h : flag ∈ namingOptions) : wantsValue flag = true := by
  have hall : ∀ o ∈ namingOptions, wantsValue o = true := by decide
  exact hall flag h

theorem includeFlag_eq (cwd : Path) (dir : String) :
    includeFlag cwd dir = "-I" ++ (cwd.lexicalJoin ⟨dir⟩).spelling := by
  rw [includeFlag, directoryFlag, Path.display_native]

/-- The flag of a directory has that directory behind it, which starts at the root. -/
theorem toList_includeFlag (hcwd : cwd.isAbsolute = true) (dir : String) :
    ∃ cs, (includeFlag cwd dir).toList = '-' :: 'I' :: '/' :: cs := by
  rcases Path.toList_of_isAbsolute (Path.isAbsolute_lexicalJoin hcwd ⟨dir⟩) with ⟨cs, hcs⟩
  exact ⟨cs, by simp [includeFlag_eq, hcs]⟩

theorem wantsValue_includeFlag (hcwd : cwd.isAbsolute = true) (dir : String) :
    wantsValue (includeFlag cwd dir) = false := by
  have hall : ∀ o ∈ Options.optionsWithValue, o.toList.take 3 ≠ ['-', 'I', '/'] := by
    decide +kernel
  rcases toList_includeFlag hcwd dir with ⟨cs, hcs⟩
  have hnot : includeFlag cwd dir ∉ Options.optionsWithValue := by
    intro hmem
    exact hall _ hmem (by simp [hcs])
  simpa [wantsValue] using hnot

/-- A token that a key keeps as it stands, wherever it is. -/
structure IsPlain (cwd source : Path) (token : String) : Prop where
  not_naming : token ∉ namingOptions
  not_product : token ∉ productOptions
  not_output : attached? "-o" token = none
  not_source : namesSource cwd source token = false
  ne_directory : token ≠ "-I"
  not_directory : attached? "-I" token = none

instance : DecidablePred (IsPlain cwd source) := fun token =>
  decidable_of_iff
    (token ∉ namingOptions ∧ token ∉ productOptions ∧ attached? "-o" token = none ∧
      namesSource cwd source token = false ∧ token ≠ "-I" ∧ attached? "-I" token = none)
    ⟨fun h => ⟨h.1, h.2.1, h.2.2.1, h.2.2.2.1, h.2.2.2.2.1, h.2.2.2.2.2⟩, fun h =>
      ⟨h.not_naming, h.not_product, h.not_output, h.not_source, h.ne_directory, h.not_directory⟩⟩

theorem IsPlain.lone (h : IsPlain cwd source flag) :
    relevantFlags.lone cwd source flag = [flag] := by
  simp [relevantFlags.lone, h.not_product, h.not_output, h.not_source, h.not_directory]

theorem IsPlain.relevantFlags_cons (h : IsPlain cwd source flag) (rest : List String) :
    relevantFlags cwd source (flag :: rest) = flag :: relevantFlags cwd source rest := by
  cases rest with
  | nil => simp [relevantFlags, h.not_naming, h.ne_directory, h.lone]
  | cons next rest => simp [relevantFlags, h.not_naming, h.ne_directory, h.lone]

/-- An option that takes a value, and names no product and no directory by `-I`, is plain. -/
theorem isPlain_of_wantsValue (hwants : wantsValue option = true)
    (hnaming : option ∉ namingOptions) (hne : option ≠ "-I") : IsPlain cwd source option := by
  have hall : ∀ o ∈ Options.optionsWithValue, o ∉ namingOptions → o ≠ "-I" →
      o ∉ productOptions ∧ attached? "-o" o = none ∧ o.toList.head? = some '-' ∧
        attached? "-I" o = none := by decide +kernel
  rcases hall option (by simpa [wantsValue] using hwants) hnaming hne with
    ⟨hproduct, houtput, hdash, hdirectory⟩
  have hsource : namesSource cwd source option = false := by simp [namesSource, hdash]
  exact ⟨hnaming, hproduct, houtput, hsource, hne, hdirectory⟩

/-- What a token leaves behind takes no value if the token took none. -/
theorem not_wantsValue_of_mem_lone (hcwd : cwd.isAbsolute = true)
    (hflag : wantsValue flag = false) :
    ∀ x ∈ relevantFlags.lone cwd source flag, wantsValue x = false := by
  intro x hx
  rw [relevantFlags.lone] at hx
  split at hx
  · exact absurd hx List.not_mem_nil
  · split at hx
    · exact absurd hx List.not_mem_nil
    · split at hx
      · rw [List.mem_singleton.1 hx]
        exact wantsValue_includeFlag hcwd _
      · rwa [List.mem_singleton.1 hx]

/-! ## Options -/

/-- What is left of an option in a key. -/
def kept (cwd source : Path) : Options.Unit → List Options.Unit
  | .lone flag =>
    if flag ∈ namingOptions ∨ flag = "-I" then []
    else (relevantFlags.lone cwd source flag).map .lone
  | .paired option value =>
    if option ∈ namingOptions then []
    else if option = "-I" then [.lone (includeFlag cwd value)]
    else [.paired option value]

/-- An option whose value is plain, if a key keeps it. -/
def HasPlainValue (cwd source : Path) : Options.Unit → Prop
  | .lone _ => True
  | .paired option value => option ∉ namingOptions → option ≠ "-I" → IsPlain cwd source value

instance : DecidablePred (HasPlainValue cwd source)
  | .lone _ => isTrue trivial
  | .paired option value =>
    inferInstanceAs (Decidable (option ∉ namingOptions → option ≠ "-I" → IsPlain cwd source value))

/-- A token that takes no value is read on its own. -/
theorem relevantFlags_cons_of_not_wantsValue (h : wantsValue flag = false) (rest : List String) :
    relevantFlags cwd source (flag :: rest) =
      relevantFlags.lone cwd source flag ++ relevantFlags cwd source rest := by
  have hnaming : flag ∉ namingOptions := fun hmem =>
    absurd (h.symm.trans (wantsValue_of_naming hmem)) nofun
  have hne : flag ≠ "-I" := by
    rintro rfl
    exact absurd h (by decide)
  cases rest with
  | nil => simp [relevantFlags, hnaming, hne]
  | cons value rest => simp [relevantFlags, hnaming, hne]

/-- **The flags of a key.** If the values are plain, the flags of a key are what is left of each
option of the command, in their order. -/
theorem units_relevantFlags (hcwd : cwd.isAbsolute = true)
    (hplain : ∀ u ∈ units flags, HasPlainValue cwd source u) :
    units (relevantFlags cwd source flags) = (units flags).flatMap (kept cwd source) := by
  fun_induction units flags with
  | case1 => rfl
  | case2 flag =>
      by_cases hdropped : flag ∈ namingOptions ∨ flag = "-I"
      · simp [relevantFlags, kept, hdropped, units]
      · -- One token at most is left, and it stands at the end.
        have hlone : units (relevantFlags.lone cwd source flag) =
            (relevantFlags.lone cwd source flag).map .lone := by
          rw [relevantFlags.lone]
          repeat' split
          all_goals rfl
        simp [relevantFlags, kept, hdropped, hlone]
  | case3 option value rest hwants ih =>
      have hrest : units (relevantFlags cwd source rest) =
          (units rest).flatMap (kept cwd source) :=
        ih fun u hu => hplain u (List.mem_cons_of_mem _ hu)
      by_cases hnaming : option ∈ namingOptions
      · simp [relevantFlags, kept, hnaming, hrest]
      · by_cases hinclude : option = "-I"
        · subst hinclude
          simp [relevantFlags, kept, hnaming,
            Options.units_cons_of_not_wantsValue (wantsValue_includeFlag hcwd value), hrest]
        · have hvalue : IsPlain cwd source value :=
            hplain (.paired option value) List.mem_cons_self hnaming hinclude
          have hoption : IsPlain cwd source option :=
            isPlain_of_wantsValue hwants hnaming hinclude
          rw [hoption.relevantFlags_cons, hvalue.relevantFlags_cons, units, if_pos hwants, hrest]
          simp [kept, hnaming, hinclude]
  | case4 flag value rest hwants ih =>
      have hnot : wantsValue flag = false := by simpa using hwants
      have hrest : units (relevantFlags cwd source (value :: rest)) =
          (units (value :: rest)).flatMap (kept cwd source) :=
        ih fun u hu => hplain u (List.mem_cons_of_mem _ hu)
      have hnaming : flag ∉ namingOptions := fun hmem => hwants (wantsValue_of_naming hmem)
      have hne : flag ≠ "-I" := by
        rintro rfl
        exact hwants (by decide)
      rw [relevantFlags_cons_of_not_wantsValue hnot,
        Options.units_append_of_not_wantsValue (not_wantsValue_of_mem_lone hcwd hnot), hrest]
      simp [kept, hnaming, hne]

end HeaderKey
end BuildTrace
