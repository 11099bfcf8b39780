import BuildTrace.Proofs.Invocation.Names
import BuildTrace.Proofs.Precompile.NamedFiles
import BuildTrace.Proofs.Shell.Quoting

/-!
# Recognition — which lines are compiler commands

A line is read from left to right: words, launchers, the compiler, then option by option. What comes
of it is said here without an order of reading:

* `CommandWords` — the words of the command in a line;
* `LastNamed`, `NamesOutput`, `NamesLanguage` — options of which the last one counts;
* `FirstSource` — of the sources the first one counts;
* `Reading.step`, `ofFlags_eq_foldl` — tokens are read option by option; `Does`, `does_step` — what
  one option can do;
* `foldl_last`, `source_foldl_of_some` — what one option after the other comes to;
* `IsCommand`, `Describes` — commands by their words, and what is kept of them;
* `Invocation.ofLine?_spec` — these are the lines that stand for a command, and what they stand for.
-/

namespace BuildTrace
namespace Recognise

open Options (units attached? wantsValue)

/-! ## Words -/

/-- What a wrapper prints in front of the command it runs. -/
def wrapperLabel : List Char :=
  "libtool: compile:".toList

/-- The words of the command in a line: those of the line, without blanks at its ends and without
the label of a wrapper, behind all launchers. -/
def CommandWords (line : String) (words : List String) : Prop :=
  ∃ text launchers,
    (Text.trim line.toList = wrapperLabel ++ text ∨
      ¬ wrapperLabel <+: Text.trim line.toList ∧ text = Text.trim line.toList) ∧
    Shell.words? text = some (launchers ++ words) ∧ (∀ word ∈ launchers, NamesLauncher word) ∧
    ∀ word ∈ words.head?, ¬ NamesLauncher word

/-- Blanks in front of a line do not matter. -/
theorem words?_trimStart (text : List Char) :
    Shell.words? (Text.trimStart text) = Shell.words? text := by
  have hblanks : ∀ c ∈ text.takeWhile Text.isBlank, Text.isBlank c = true := fun c hc =>
    List.mem_takeWhile_imp hc
  have hcut : text = text.takeWhile Text.isBlank ++ Text.trimStart text :=
    List.takeWhile_append_dropWhile.symm
  have hread : (text.takeWhile Text.isBlank ++ Text.trimStart text).foldl Shell.Splitter.step {} =
      (Text.trimStart text).foldl Shell.Splitter.step {} := by
    rw [List.foldl_append, Shell.Splitter.foldl_blanks rfl rfl hblanks]
  rw [Shell.words?, Shell.words?, ← hread, ← hcut]

theorem commandText_eq (line : String) :
    commandText line =
      match wrapperLabel.isPrefixOf? (Text.trim line.toList) with
      | some rest => Text.trimStart rest
      | none => Text.trim line.toList :=
  rfl

/-- The text of the command is what is left of the line. -/
theorem words?_commandText {line : String} {text : List Char}
    (h : Text.trim line.toList = wrapperLabel ++ text ∨
      ¬ wrapperLabel <+: Text.trim line.toList ∧ text = Text.trim line.toList) :
    Shell.words? (commandText line) = Shell.words? text := by
  rcases h with htext | ⟨hlabel, rfl⟩
  · have hprefix : wrapperLabel.isPrefixOf? (Text.trim line.toList) = some text :=
      List.isPrefixOf?_eq_some_iff_append_eq.2 htext.symm
    rw [commandText_eq, hprefix]
    exact words?_trimStart text
  · have hprefix : wrapperLabel.isPrefixOf? (Text.trim line.toList) = none := by
      cases hrest : wrapperLabel.isPrefixOf? (Text.trim line.toList) with
      | none => rfl
      | some rest =>
          exact absurd ⟨rest, List.isPrefixOf?_eq_some_iff_append_eq.1 hrest⟩ hlabel
    rw [commandText_eq, hprefix]

theorem exists_text (line : String) : ∃ text, Text.trim line.toList = wrapperLabel ++ text ∨
    ¬ wrapperLabel <+: Text.trim line.toList ∧ text = Text.trim line.toList := by
  by_cases hlabel : wrapperLabel <+: Text.trim line.toList
  · rcases hlabel with ⟨text, htext⟩
    exact ⟨text, Or.inl htext.symm⟩
  · exact ⟨_, Or.inr ⟨hlabel, rfl⟩⟩

/-- The words of the command are found by leaving launchers out as long as there are any. -/
theorem commandWords_iff {line : String} {words : List String} :
    CommandWords line words ↔
      (Shell.words? (commandText line)).map (·.dropWhile isLauncher) = some words := by
  constructor
  · rintro ⟨text, launchers, htext, hwords, hlaunchers, hfirst⟩
    have hall : ∀ word ∈ launchers, isLauncher word = true := fun word hword =>
      isLauncher_iff.2 (hlaunchers word hword)
    rw [words?_commandText htext, hwords, Option.map_some, List.dropWhile_append_of_pos hall]
    cases words with
    | nil => rfl
    | cons word words =>
        have hnot : ¬ isLauncher word = true := fun h => hfirst word rfl (isLauncher_iff.1 h)
        rw [List.dropWhile_cons_of_neg hnot]
  · intro hwords
    rcases exists_text line with ⟨text, htext⟩
    rw [words?_commandText htext] at hwords
    rcases Option.map_eq_some_iff.1 hwords with ⟨all, hall, rfl⟩
    refine ⟨text, all.takeWhile isLauncher, htext, ?_, ?_, ?_⟩
    · rw [hall, List.takeWhile_append_dropWhile]
    · intro word hword
      exact isLauncher_iff.1 (List.mem_takeWhile_imp hword)
    · intro word hword hlauncher
      have hnot := List.head?_dropWhile_not isLauncher all
      rw [Option.mem_def.1 hword] at hnot
      simp [isLauncher_iff.2 hlauncher] at hnot

/-! ## Options -/

/-- Of the options that name something the last one names `value`. -/
def LastNamed (names : Options.Unit → String → Prop) (us : List Options.Unit) (value : String) :
    Prop :=
  ∃ front u back, us = front ++ u :: back ∧ names u value ∧ ∀ u' ∈ back, ∀ v, ¬ names u' v

/-- The option names the output, in one of the two forms. -/
inductive NamesOutput : Options.Unit → String → Prop where
  | paired (value : String) : NamesOutput (.paired "-o" value) value
  | attached {value : String} : value ≠ "" → NamesOutput (.lone ("-o" ++ value)) value

/-- The option names the language of the source. -/
inductive NamesLanguage : Options.Unit → String → Prop where
  | paired (value : String) : NamesLanguage (.paired "-x" value) value

/-- A token that may be the source: it is no option, and has the ending of a source or a header. -/
def IsSource (token : String) : Prop :=
  token.toList.head? ≠ some '-' ∧ NamesSource token

/-- The first of the tokens on their own that may be the source. -/
def FirstSource (us : List Options.Unit) (source : String) : Prop :=
  ∃ front back, us = front ++ .lone source :: back ∧ IsSource source ∧
    ∀ token, .lone token ∈ front → ¬ IsSource token

section Folds

variable {σ β : Type} {names : Options.Unit → String → Prop} {get : σ → β} {keep : String → β}
  {step : σ → Options.Unit → σ}

/-- Where each option that names something replaces what was there, the last of them decides. -/
theorem foldl_last (hnames : ∀ s u v, names u v → get (step s u) = keep v)
    (helse : ∀ s u, (∀ v, ¬ names u v) → get (step s u) = get s) (s : σ)
    (us : List Options.Unit) :
    (∃ v, LastNamed names us v ∧ get (us.foldl step s) = keep v) ∨
      ((∀ u ∈ us, ∀ v, ¬ names u v) ∧ get (us.foldl step s) = get s) := by
  -- From the end: the last option either names something or leaves it to those in front.
  induction us using List.reverseRecOn with
  | nil => exact Or.inr ⟨nofun, rfl⟩
  | append_singleton us u ih =>
      rw [List.foldl_append]
      by_cases hu : ∃ v, names u v
      · rcases hu with ⟨v, hv⟩
        exact Or.inl ⟨v, ⟨us, u, [], rfl, hv, nofun⟩, hnames _ u v hv⟩
      · rw [not_exists] at hu
        have hsame : get ([u].foldl step (us.foldl step s)) = get (us.foldl step s) :=
          helse _ u hu
        rw [hsame]
        rcases ih with ⟨v, ⟨front, w, back, rfl, hv, hback⟩, hget⟩ | ⟨hnone, hget⟩
        · refine Or.inl ⟨v, ⟨front, w, back ++ [u], by simp, hv, ?_⟩, hget⟩
          intro u' hu'
          rcases List.mem_append.1 hu' with hu' | hu'
          · exact hback u' hu'
          · rw [List.mem_singleton.1 hu']
            exact hu
        · refine Or.inr ⟨?_, hget⟩
          intro u' hu'
          rcases List.mem_append.1 hu' with hu' | hu'
          · exact hnone u' hu'
          · rw [List.mem_singleton.1 hu']
            exact hu

/-- There is one last option that names something. -/
theorem LastNamed.unique {us : List Options.Unit} {v w : String}
    (hunique : ∀ u v w, names u v → names u w → v = w) (hv : LastNamed names us v)
    (hw : LastNamed names us w) : v = w := by
  rcases hv with ⟨front, u, back, rfl, hu, hback⟩
  rcases hw with ⟨front', u', back', hcut, hu', hback'⟩
  -- Were they at two places, one of them would come behind the other and name something.
  rcases List.append_eq_append_iff.1 hcut with ⟨between, -, hrest⟩ | ⟨between, -, hrest⟩
  · cases between with
    | nil =>
        rw [List.nil_append, List.cons.injEq] at hrest
        exact hunique u v w hu (hrest.1 ▸ hu')
    | cons first between =>
        rw [List.cons_append, List.cons.injEq] at hrest
        exact absurd hu' (hback u' (by simp [hrest.2]) w)
  · cases between with
    | nil =>
        rw [List.nil_append, List.cons.injEq] at hrest
        exact hunique u v w hu (hrest.1 ▸ hu')
    | cons first between =>
        rw [List.cons_append, List.cons.injEq] at hrest
        exact absurd hu (hback' u (by simp [hrest.2]) v)

/-- What the last option names is what is kept, if nothing is there at first. -/
theorem foldl_eq_some_iff {get : σ → Option String}
    (hnames : ∀ s u v, names u v → get (step s u) = some v)
    (helse : ∀ s u, (∀ v, ¬ names u v) → get (step s u) = get s)
    (hunique : ∀ u v w, names u v → names u w → v = w) {s : σ} (hs : get s = none)
    (us : List Options.Unit) (value : String) :
    get (us.foldl step s) = some value ↔ LastNamed names us value := by
  rcases foldl_last hnames helse s us with ⟨v, hv, hget⟩ | ⟨hnone, hget⟩
  · rw [hget, Option.some.injEq]
    constructor
    · rintro rfl
      exact hv
    · exact hv.unique hunique
  · rw [hget, hs]
    constructor
    · exact nofun
    · rintro ⟨front, u, back, rfl, hu, -⟩
      exact absurd hu (hnone u (by simp) value)

end Folds

/-! ### What an option does -/

section Steps

variable {u : Options.Unit} {r r' : Reading} {option token v w : String}

theorem namesOutput_paired_iff : NamesOutput (.paired option v) w ↔ option = "-o" ∧ v = w := by
  constructor
  · intro h
    cases h
    exact ⟨rfl, rfl⟩
  · rintro ⟨rfl, rfl⟩
    exact .paired v

theorem namesOutput_lone_iff : NamesOutput (.lone token) v ↔ attached? "-o" token = some v := by
  constructor
  · intro h
    cases h with
    | attached hne => exact Options.attached?_append hne "-o"
  · intro h
    have htoken : token = "-o" ++ v := by
      rw [← String.toList_inj, Options.toList_of_attached? h, String.toList_append]
    subst htoken
    refine .attached ?_
    rintro rfl
    exact absurd h (by decide)

theorem namesOutput_unique (u : Options.Unit) (v w : String) (hv : NamesOutput u v)
    (hw : NamesOutput u w) : v = w := by
  cases u with
  | paired option value =>
      rw [← (namesOutput_paired_iff.1 hv).2, (namesOutput_paired_iff.1 hw).2]
  | lone token =>
      rw [namesOutput_lone_iff] at hv hw
      exact Option.some.inj (hv.symm.trans hw)

theorem namesLanguage_paired_iff : NamesLanguage (.paired option v) w ↔ option = "-x" ∧ v = w := by
  constructor
  · intro h
    cases h
    exact ⟨rfl, rfl⟩
  · rintro ⟨rfl, rfl⟩
    exact .paired v

theorem not_namesLanguage_lone : ¬ NamesLanguage (.lone token) v := by
  intro h
  cases h

/-- No option is a source. -/
theorem not_isSource_of_head? (h : token.toList.head? = some '-') : ¬ IsSource token :=
  fun hsource => hsource.1 h

theorem not_isSource_of_attached? (h : attached? "-o" token = some v) : ¬ IsSource token := by
  apply not_isSource_of_head?
  rw [Options.toList_of_attached? h]
  rfl

/-- A reading with one option more, which has its value with it. -/
def Reading.step (r : Reading) : Options.Unit → Reading
  | .paired option value => r.takeValue option (some value)
  | .lone token => if wantsValue token then r else r.takeToken token

theorem takeValue_of_ne (houtput : option ≠ "-o") (hlanguage : option ≠ "-x") (r : Reading)
    (value : Option String) : r.takeValue option value = r := by
  unfold Reading.takeValue
  split
  · exact absurd rfl houtput
  · exact absurd rfl hlanguage
  · rfl

/-- An option that lacks its value says nothing. -/
theorem takeValue_none (r : Reading) (option : String) : r.takeValue option none = r := by
  unfold Reading.takeValue
  split
  · next h => cases h
  · next h => cases h
  · rfl

/-- The tokens are read option by option, each with its value. -/
theorem readOn_eq_foldl (flags : List String) (r : Reading) :
    r.readOn flags = (units flags).foldl Reading.step r := by
  -- By the recursion of `units`, which skips the values just as the reading does.
  fun_induction units flags generalizing r with
  | case1 => rfl
  | case2 flag =>
      rw [Reading.readOn, takeValue_none]
      rfl
  | case3 flag value rest hvalue ih =>
      rw [Reading.readOn, if_pos hvalue, ih]
      rfl
  | case4 flag value rest hvalue ih =>
      rw [Reading.readOn, if_neg hvalue, ih, List.foldl_cons, Reading.step, if_neg hvalue]

theorem ofFlags_eq_foldl (flags : List String) :
    Reading.ofFlags flags = (units flags).foldl Reading.step {} :=
  readOn_eq_foldl flags {}

/-- What one option can do: it names the output or the language, asks for compiling only, is the
first source, or is of no account. -/
inductive Does (r : Reading) : Options.Unit → Reading → Prop where
  | output {u : Options.Unit} {v : String} : NamesOutput u v → Does r u { r with output := some v }
  | language (v : String) : Does r (.paired "-x" v)
      { r with headerLanguage := "-header".toList.isSuffixOf v.toList }
  | compileOnly : Does r (.lone "-c") { r with compileOnly := true }
  | source {token : String} : IsSource token → r.source = none →
      Does r (.lone token) { r with source := some token }
  | nothing {u : Options.Unit} : (∀ v, ¬ NamesOutput u v) → (∀ v, ¬ NamesLanguage u v) →
      u ≠ .lone "-c" → (∀ token, u = .lone token → IsSource token → r.source.isSome) → Does r u r

theorem does_step (r : Reading) (u : Options.Unit) : Does r u (r.step u) := by
  cases u with
  | paired option value =>
      by_cases houtput : option = "-o"
      · subst houtput
        exact .output (.paired value)
      · by_cases hlanguage : option = "-x"
        · subst hlanguage
          exact .language value
        · have hstep : r.step (.paired option value) = r :=
            takeValue_of_ne houtput hlanguage r (some value)
          rw [hstep]
          refine .nothing ?_ ?_ nofun nofun
          · exact fun v h => houtput (namesOutput_paired_iff.1 h).1
          · exact fun v h => hlanguage (namesLanguage_paired_iff.1 h).1
  | lone token =>
      rw [Reading.step]
      split
      · next hvalue =>
        -- An option that waits for its value is neither of the others.
        have hoptions : ∀ o ∈ Options.optionsWithValue, attached? "-o" o = none ∧ o ≠ "-c" ∧
            o.toList.head? = some '-' := by
          decide +kernel
        rcases hoptions token (by simpa [wantsValue] using hvalue) with ⟨hnone, hc, hhead⟩
        refine .nothing ?_ (fun _ => not_namesLanguage_lone) (by simpa using hc) ?_
        · simp [namesOutput_lone_iff, hnone]
        · rintro _ ⟨rfl⟩ hsource
          exact absurd hsource (not_isSource_of_head? hhead)
      · rw [Reading.takeToken]
        split
        · next hc =>
          subst hc
          exact .compileOnly
        · next hc =>
          split
          · next v hattached => exact .output (namesOutput_lone_iff.2 hattached)
          · next hnone =>
            have hsource : IsSource token ↔
                token.toList.head? ≠ some '-' ∧ endsAsSource token = true := by
              rw [IsSource, endsAsSource_iff]
            split
            · next htest =>
              simp only [Bool.and_eq_true, decide_eq_true_eq, Option.isNone_iff_eq_none] at htest
              exact .source (hsource.2 ⟨htest.1.1, htest.2⟩) htest.1.2
            · next htest =>
              refine .nothing ?_ (fun _ => not_namesLanguage_lone) (by simpa using hc) ?_
              · simp [namesOutput_lone_iff, hnone]
              · -- It would have been taken, had there been no other source before.
                rintro _ ⟨rfl⟩ hfound
                rw [Option.isSome_iff_ne_none]
                intro hfirst
                rcases hsource.1 hfound with ⟨hhead, hends⟩
                exact htest (by simp [hhead, hends, hfirst])

namespace Does

theorem output_of_names (h : Does r u r') (hv : NamesOutput u v) : r'.output = some v := by
  cases h with
  | output hw => rw [namesOutput_unique u _ _ hv hw]
  | language => exact absurd (namesOutput_paired_iff.1 hv).1 (by decide)
  | compileOnly => cases namesOutput_lone_iff.1 hv
  | source hsource =>
      exact absurd hsource (not_isSource_of_attached? (namesOutput_lone_iff.1 hv))
  | nothing hnot => exact absurd hv (hnot v)

theorem output_of_not_names (h : Does r u r') (hnot : ∀ v, ¬ NamesOutput u v) :
    r'.output = r.output := by
  cases h with
  | output hv => exact absurd hv (hnot _)
  | language | compileOnly | source | nothing => rfl

theorem headerLanguage_of_not_names (h : Does r u r') (hnot : ∀ v, ¬ NamesLanguage u v) :
    r'.headerLanguage = r.headerLanguage := by
  cases h with
  | language v => exact absurd (.paired v) (hnot v)
  | output | compileOnly | source | nothing => rfl

theorem compileOnly_iff (h : Does r u r') :
    r'.compileOnly = true ↔ r.compileOnly = true ∨ u = .lone "-c" := by
  cases h with
  | output hv =>
      have hne : u ≠ .lone "-c" := by
        rintro rfl
        cases namesOutput_lone_iff.1 hv
      simp [hne]
  | language => simp
  | compileOnly => simp
  | @source token hsource =>
      have hne : token ≠ "-c" := by
        rintro rfl
        exact absurd hsource (not_isSource_of_head? rfl)
      simp [hne]
  | nothing _ _ hne => simp [hne]

/-- Once there is a source it stays. -/
theorem source_of_some (h : Does r u r') {source : String} (hr : r.source = some source) :
    r'.source = some source := by
  cases h with
  | source _ hnone => cases hr.symm.trans hnone
  | output | language | compileOnly | nothing => exact hr

theorem source_of_isSource (h : Does r (.lone token) r') (hr : r.source = none)
    (hsource : IsSource token) : r'.source = some token := by
  cases h with
  | output hv => exact absurd hsource (not_isSource_of_attached? (namesOutput_lone_iff.1 hv))
  | compileOnly => exact absurd hsource (not_isSource_of_head? rfl)
  | source => rfl
  | nothing _ _ _ hfound =>
      have hsome := hfound token rfl hsource
      rw [hr] at hsome
      cases hsome

theorem source_of_not_isSource (h : Does r u r') (hr : r.source = none)
    (hnot : ∀ token, u = .lone token → ¬ IsSource token) : r'.source = none := by
  cases h with
  | source hsource => exact absurd hsource (hnot _ rfl)
  | output | language | compileOnly | nothing => exact hr

end Does

theorem headerLanguage_step_of_names (hv : NamesLanguage u v) :
    (r.step u).headerLanguage = "-header".toList.isSuffixOf v.toList := by
  cases hv with
  | paired => rfl

end Steps

/-! ### What all options say -/

variable {flags : List String} {us : List Options.Unit} {r : Reading} {source : String}

theorem output_ofFlags_iff (flags : List String) (value : String) :
    (Reading.ofFlags flags).output = some value ↔ LastNamed NamesOutput (units flags) value := by
  rw [ofFlags_eq_foldl]
  exact foldl_eq_some_iff (fun r u _ => (does_step r u).output_of_names)
    (fun r u => (does_step r u).output_of_not_names) namesOutput_unique rfl _ value

/-- The last language decides whether it is that of a header. -/
theorem headerLanguage_ofFlags_iff (flags : List String) :
    (Reading.ofFlags flags).headerLanguage = true ↔
      ∃ language, LastNamed NamesLanguage (units flags) language ∧
        "-header".toList <:+ language.toList := by
  have hunique : ∀ u v w, NamesLanguage u v → NamesLanguage u w → v = w := by
    intro u v w hv hw
    cases hv
    exact (namesLanguage_paired_iff.1 hw).2
  rw [ofFlags_eq_foldl]
  rcases @foldl_last _ _ NamesLanguage Reading.headerLanguage
    (fun v => "-header".toList.isSuffixOf v.toList) Reading.step
    (fun _ _ _ => headerLanguage_step_of_names)
    (fun r u => (does_step r u).headerLanguage_of_not_names) {} (units flags) with
    ⟨v, hv, hlanguage⟩ | ⟨hnone, hlanguage⟩
  · rw [hlanguage, List.isSuffixOf_iff_suffix]
    constructor
    · intro hheader
      exact ⟨v, hv, hheader⟩
    · rintro ⟨w, hw, hheader⟩
      rwa [hv.unique hunique hw]
  · rw [hlanguage]
    constructor
    · exact nofun
    · rintro ⟨v, ⟨front, u, back, hus, hu, -⟩, -⟩
      exact absurd hu (hnone u (by simp [hus]) v)

theorem compileOnly_ofFlags_iff (flags : List String) :
    (Reading.ofFlags flags).compileOnly = true ↔ .lone "-c" ∈ units flags := by
  rw [ofFlags_eq_foldl]
  induction units flags using List.reverseRecOn with
  | nil => simp
  | append_singleton us u ih =>
      rw [List.foldl_append, List.mem_append, List.mem_singleton, ← ih]
      exact (does_step _ u).compileOnly_iff.trans (or_congr_right eq_comm)

theorem source_foldl_of_some (hr : r.source = some source) (us : List Options.Unit) :
    (us.foldl Reading.step r).source = some source := by
  induction us generalizing r with
  | nil => exact hr
  | cons u us ih => exact ih ((does_step r u).source_of_some hr)

theorem source_foldl_of_not_isSource (hr : r.source = none)
    (h : ∀ token, .lone token ∈ us → ¬ IsSource token) :
    (us.foldl Reading.step r).source = none := by
  induction us generalizing r with
  | nil => exact hr
  | cons u us ih =>
      have hstep : (r.step u).source = none := by
        apply (does_step r u).source_of_not_isSource hr
        rintro token rfl
        exact h token List.mem_cons_self
      exact ih hstep fun token htoken => h token (List.mem_cons_of_mem u htoken)

/-- If there are sources one of them is the first. -/
theorem exists_firstSource (us : List Options.Unit) :
    (∃ source, FirstSource us source) ∨ ∀ token, .lone token ∈ us → ¬ IsSource token := by
  induction us using List.reverseRecOn with
  | nil => exact Or.inr nofun
  | append_singleton us u ih =>
      rcases ih with ⟨source, front, back, rfl, hsource, hfront⟩ | hnone
      · exact Or.inl ⟨source, front, back ++ [u], by simp, hsource, hfront⟩
      · by_cases hu : ∃ token, u = .lone token ∧ IsSource token
        · rcases hu with ⟨token, rfl, hsource⟩
          exact Or.inl ⟨token, us, [], rfl, hsource, hnone⟩
        · refine Or.inr ?_
          intro token htoken hsource
          rcases List.mem_append.1 htoken with htoken | htoken
          · exact hnone token htoken hsource
          · exact hu ⟨token, (List.mem_singleton.1 htoken).symm, hsource⟩

theorem source_ofFlags_of_firstSource (h : FirstSource (units flags) source) :
    (Reading.ofFlags flags).source = some source := by
  rcases h with ⟨front, back, hus, hsource, hfront⟩
  rw [ofFlags_eq_foldl, hus, List.foldl_append]
  -- Nothing in front of the first source is taken, and nothing behind it replaces it.
  have hbefore := source_foldl_of_not_isSource (r := {}) rfl hfront
  exact source_foldl_of_some ((does_step _ _).source_of_isSource hbefore hsource) back

/-- The source is the first token that may be one. -/
theorem source_ofFlags_iff :
    (Reading.ofFlags flags).source = some source ↔ FirstSource (units flags) source := by
  refine ⟨?_, source_ofFlags_of_firstSource⟩
  intro hsource
  rcases exists_firstSource (units flags) with ⟨first, hfirst⟩ | hnone
  · rw [source_ofFlags_of_firstSource hfirst, Option.some.injEq] at hsource
    exact hsource ▸ hfirst
  · rw [ofFlags_eq_foldl, source_foldl_of_not_isSource rfl hnone] at hsource
    cases hsource

/-! ## Commands -/

/-- The command makes a precompiled header: the language named last is that of a header, or the
source has the ending of one. -/
def MakesHeader (flags : List String) (source : String) : Prop :=
  (∃ language, LastNamed NamesLanguage (units flags) language ∧
    "-header".toList <:+ language.toList) ∨ NamesHeader source

theorem kind?_eq_some_iff {kind : ProductKind} :
    (Reading.ofFlags flags).kind? source = some kind ↔
      (MakesHeader flags source ∧ kind = .precompiledHeader) ∨
        (¬ MakesHeader flags source ∧ .lone "-c" ∈ units flags ∧ kind = .compile) := by
  have hheader : ((Reading.ofFlags flags).headerLanguage || endsAsHeader source) = true ↔
      MakesHeader flags source := by
    rw [Bool.or_eq_true, headerLanguage_ofFlags_iff, endsAsHeader_iff, MakesHeader]
  rw [Reading.kind?]
  by_cases hmakes : MakesHeader flags source
  · simp [hheader.2 hmakes, hmakes, eq_comm]
  · rw [if_neg fun h => hmakes (hheader.1 h), ← compileOnly_ofFlags_iff]
    split
    · next hcompile => simp [hmakes, hcompile, eq_comm]
    · next hcompile => simp [hmakes, hcompile]

/-- The line stands for a command: its words are a compiler, in any directory and behind any
launchers, and options, with a first source that is made a precompiled header of or compiled. -/
structure IsCommand (line compiler : String) (flags : List String) (source : String) : Prop where
  words : CommandWords line (compiler :: flags)
  compiler : NamesCompiler compiler
  first : FirstSource (units flags) source
  product : MakesHeader flags source ∨ .lone "-c" ∈ units flags

/-- What is kept of a command: its words as they are, and its files as seen from the directory of
the build. -/
structure Describes (cwd : Path) (line source : String) (i : Invocation) : Prop where
  command : IsCommand line i.compiler i.flags source
  sourceFile : i.sourceFile = cwd.lexicalJoin ⟨source⟩
  output : ∀ p, i.output = some p ↔
    ∃ value, LastNamed NamesOutput (units i.flags) value ∧ p = cwd.lexicalJoin ⟨value⟩
  kind : i.kind = .precompiledHeader ↔ MakesHeader i.flags source
  workingDirectory : i.workingDirectory = cwd
  rawLine : i.rawLine = line

theorem isCommand_iff {line compiler source : String} {flags : List String} :
    IsCommand line compiler flags source ↔
      (Shell.words? (commandText line)).map (·.dropWhile isLauncher) = some (compiler :: flags) ∧
        isCompilerName (baseName compiler.toList) = true ∧
        (Reading.ofFlags flags).source = some source ∧
        ∃ kind, (Reading.ofFlags flags).kind? source = some kind := by
  rw [← commandWords_iff, isCompilerName_baseName_iff, source_ofFlags_iff]
  have hproduct : (∃ kind, (Reading.ofFlags flags).kind? source = some kind) ↔
      MakesHeader flags source ∨ .lone "-c" ∈ units flags := by
    simp only [kind?_eq_some_iff]
    by_cases hmakes : MakesHeader flags source
    · simp [hmakes]
    · simp [hmakes]
  rw [hproduct]
  constructor
  · intro h
    exact ⟨h.words, h.compiler, h.first, h.product⟩
  · rintro ⟨hwords, hcompiler, hfirst, hproduct⟩
    exact ⟨hwords, hcompiler, hfirst, hproduct⟩

end Recognise

open Recognise

/-- The command of a line, with the four readings it is made of. -/
theorem Invocation.ofLine?_eq_some_iff {cwd : Path} {line : String} {i : Invocation} :
    Invocation.ofLine? cwd line = some i ↔ ∃ compiler flags source kind,
      (Shell.words? (commandText line)).map (·.dropWhile isLauncher) = some (compiler :: flags) ∧
      isCompilerName (baseName compiler.toList) = true ∧
      (Reading.ofFlags flags).source = some source ∧
      (Reading.ofFlags flags).kind? source = some kind ∧
      { workingDirectory := cwd
        compiler := compiler
        sourceFile := cwd.lexicalJoin ⟨source⟩
        kind := kind
        flags := flags
        output := (Reading.ofFlags flags).output.map fun o => cwd.lexicalJoin ⟨o⟩
        rawLine := line } = i := by
  unfold Invocation.ofLine?
  cases hwords : (Shell.words? (commandText line)).map (·.dropWhile isLauncher) with
  | none => simp
  | some words =>
      cases words with
      | nil => simp
      | cons compiler flags =>
          by_cases hcompiler : isCompilerName (baseName compiler.toList) = true
          · simp [hcompiler, Option.bind_eq_some_iff, Option.map_eq_some_iff, and_assoc]
          · simp [hcompiler]

/-- **Which lines are commands.** A line stands for a command exactly if its words are one, and then
what is kept of it is just what these words say. -/
theorem Invocation.ofLine?_spec (cwd : Path) (line : String) :
    ((Invocation.ofLine? cwd line).isSome ↔
      ∃ compiler flags source, IsCommand line compiler flags source) ∧
    ∀ i, Invocation.ofLine? cwd line = some i → ∃ source, Describes cwd line source i := by
  refine ⟨?_, ?_⟩
  · simp only [Option.isSome_iff_exists, ofLine?_eq_some_iff, isCommand_iff]
    constructor
    · rintro ⟨i, compiler, flags, source, kind, hwords, hcompiler, hsource, hkind, -⟩
      exact ⟨compiler, flags, source, hwords, hcompiler, hsource, kind, hkind⟩
    · rintro ⟨compiler, flags, source, hwords, hcompiler, hsource, kind, hkind⟩
      exact ⟨_, compiler, flags, source, kind, hwords, hcompiler, hsource, hkind, rfl⟩
  · intro i hi
    rcases ofLine?_eq_some_iff.1 hi with
      ⟨compiler, flags, source, kind, hwords, hcompiler, hsource, hkind, rfl⟩
    have hcommand := isCommand_iff.2 ⟨hwords, hcompiler, hsource, kind, hkind⟩
    refine ⟨source, hcommand, rfl, ?_, ?_, rfl, rfl⟩
    · intro p
      simp only [Option.map_eq_some_iff, output_ofFlags_iff, @eq_comm _ p]
    · rcases kind?_eq_some_iff.1 hkind with ⟨hmakes, rfl⟩ | ⟨hnot, -, rfl⟩
      · exact iff_of_true rfl hmakes
      · exact iff_of_false nofun hnot

/-- The first source decides, and not a header further on. -/
example : Invocation.ofLine? ⟨"/src"⟩ "gcc a.c b.h" = none := by decide +kernel

/-- A compiler for another machine behind a launcher, with both forms of the output, a source and a
header. -/
theorem Invocation.describes_crossCommand : ∃ i source,
    Invocation.ofLine? ⟨"/src"⟩ "ccache /opt/arm-none-gcc-12.2 -o a.o -c x.c y.h -ob.o" = some i ∧
    Describes ⟨"/src"⟩ "ccache /opt/arm-none-gcc-12.2 -o a.o -c x.c y.h -ob.o" source i := by
  have hsome : (Invocation.ofLine? ⟨"/src"⟩
      "ccache /opt/arm-none-gcc-12.2 -o a.o -c x.c y.h -ob.o").isSome = true := by decide +kernel
  rcases Option.isSome_iff_exists.1 hsome with ⟨i, hi⟩
  rcases (Invocation.ofLine?_spec ⟨"/src"⟩ _).2 i hi with ⟨source, hdescribes⟩
  exact ⟨i, source, hi, hdescribes⟩

end BuildTrace
