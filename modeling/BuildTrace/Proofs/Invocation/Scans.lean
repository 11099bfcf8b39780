import BuildTrace.Invocation.Basic

/-!
# Scans — what a flag list names, token by token and option by option

The directories and artifacts that a flag list names are found by going through its tokens. Each
scan takes only those options to have a value that it looks for itself, so it can take the value of
another option for one of its own:

* `Options.cut` — a flag list cut into options, by a table of those that take a value;
* `cut_append`, `cut_append_of_open` — the cut of one flag list behind another: it starts anew,
  unless an option waits for its value (`IsOpen`);
* `Unit.directories`, `Unit.artifacts` — what one option names;
* `searchDirectories_eq_cut`, `pchCandidates_eq_cut` — each scan reads a cut by its own table;
* `flatMap_cut_of_split`, `flatMap_cut` — a cut by a smaller table is read alike as long as no value
  looks like an option;
* `Invocation.scans_read_units` — so the scans read the options of a command;
* `Invocation.scans_ne_units_forwarded` — but not if one option is the value of another.
-/

namespace BuildTrace
namespace Options

/-! ## Cutting by a table -/

/-- The flag list cut into options, if those take a value of which `takes` says so. -/
def cut (takes : String → Bool) : List String → List Unit
  | [] => []
  | [flag] => [.lone flag]
  | flag :: value :: rest =>
    if takes flag then .paired flag value :: cut takes rest
    else .lone flag :: cut takes (value :: rest)

variable {takes : String → Bool} {flag : String} {rest : List String}

/-- A token stands alone if it takes no value, or there is none. -/
theorem cut_cons_lone (h : takes flag = false ∨ rest = []) :
    cut takes (flag :: rest) = .lone flag :: cut takes rest := by
  cases rest with
  | nil => rfl
  | cons value rest =>
      have hlone : takes flag = false := h.resolve_right (List.cons_ne_nil value rest)
      exact if_neg (by simp [hlone])

theorem cut_cons_ne_nil : cut takes (flag :: rest) ≠ [] := by
  cases rest with
  | nil => exact List.cons_ne_nil _ _
  | cons value rest =>
      rw [cut]
      split
      · exact List.cons_ne_nil _ _
      · exact List.cons_ne_nil _ _

/-- No cut loses a token. -/
theorem flatMap_tokens_cut (takes : String → Bool) (flags : List String) :
    (cut takes flags).flatMap Unit.tokens = flags := by
  fun_induction cut takes flags with
  | case1 => rfl
  | case2 flag => rfl
  | case3 flag value rest _ ih => simp [Unit.tokens, ih]
  | case4 flag value rest _ ih => simp [Unit.tokens, ih]

/-- The cut by the table of all options that take a value. -/
theorem units_eq_cut (flags : List String) : units flags = cut wantsValue flags := by
  fun_induction units flags with
  | case1 => rfl
  | case2 flag => rfl
  | case3 flag value rest hwants ih => rw [cut, if_pos hwants, ih]
  | case4 flag value rest hwants ih => rw [cut, if_neg hwants, ih]

/-! ### One flag list behind another -/

variable {front : List String}

variable (takes) in
/-- The last option of a flag list waits for its value. -/
def IsOpen (flags : List String) : Prop :=
  ∃ us option, cut takes flags = us ++ [.lone option] ∧ takes option = true

theorem IsOpen.of_cut_eq_cons {u : Unit} (h : IsOpen takes rest) {flags : List String}
    (hcut : cut takes flags = u :: cut takes rest) : IsOpen takes flags := by
  rcases h with ⟨us, option, hrest, htakes⟩
  exact ⟨u :: us, option, by rw [hcut, hrest, List.cons_append], htakes⟩

/-- Only the last token can wait for a value. -/
theorem IsOpen.exists_getLast? (h : IsOpen takes front) :
    ∃ option ∈ front.getLast?, takes option = true := by
  rcases h with ⟨us, option, hcut, htakes⟩
  have hfront : front = us.flatMap Unit.tokens ++ [option] := by
    rw [← flatMap_tokens_cut takes front, hcut, List.flatMap_append]
    rfl
  exact ⟨option, by simp [hfront], htakes⟩

/-- Behind a flag list in which no option waits for a value the cut starts anew. -/
theorem cut_append (h : ¬ IsOpen takes front) (back : List String) :
    cut takes (front ++ back) = cut takes front ++ cut takes back := by
  fun_induction cut takes front with
  | case1 => rfl
  | case2 flag =>
      have hlone : takes flag = false := by
        cases htakes : takes flag with
        | false => rfl
        | true => exact absurd ⟨[], flag, rfl, htakes⟩ h
      exact cut_cons_lone (Or.inl hlone)
  | case3 flag value rest htakes ih =>
      have hcut : cut takes (flag :: value :: rest) = .paired flag value :: cut takes rest :=
        if_pos htakes
      rw [List.cons_append, List.cons_append, cut, if_pos htakes,
        ih (mt (fun hrest => hrest.of_cut_eq_cons hcut) h), List.cons_append]
  | case4 flag value rest htakes ih =>
      have hcut : cut takes (flag :: value :: rest) = .lone flag :: cut takes (value :: rest) :=
        if_neg htakes
      rw [List.cons_append, List.cons_append, cut, if_neg htakes, ← List.cons_append,
        ih (mt (fun hrest => hrest.of_cut_eq_cons hcut) h), List.cons_append]

/-- An option that waits for its value takes the next token. -/
theorem cut_append_of_open {us : List Unit} {option : String}
    (hcut : cut takes front = us ++ [.lone option]) (htakes : takes option = true)
    (value : String) (back : List String) :
    cut takes (front ++ value :: back) = us ++ .paired option value :: cut takes back := by
  fun_induction cut takes front generalizing us with
  | case1 => exact absurd hcut (by simp)
  | case2 flag =>
      have hlast : us = [] ∧ option = flag := by
        simpa [List.singleton_eq_append_iff] using hcut
      rw [hlast.1, ← hlast.2, List.singleton_append, cut, if_pos htakes, List.nil_append]
  | case3 flag next rest hflag ih =>
      -- The option that waits is not this one, which has its value.
      cases us with
      | nil => exact absurd hcut (by simp)
      | cons u us =>
          rcases List.cons.inj hcut with ⟨rfl, hrest⟩
          rw [List.cons_append, List.cons_append, cut, if_pos hflag, ih hrest, List.cons_append]
  | case4 flag next rest hflag ih =>
      cases us with
      | nil => exact absurd (List.cons.inj hcut).2 cut_cons_ne_nil
      | cons u us =>
          rcases List.cons.inj hcut with ⟨rfl, hrest⟩
          rw [List.cons_append, List.cons_append, cut, if_neg hflag, ← List.cons_append, ih hrest,
            List.cons_append]

/-! ### Two tables -/

/-- A cut by a smaller table is read like the options themselves, if an option that is left out is
read as its two tokens are, and its value is no option of the table. -/
theorem flatMap_cut_of_split {α : Type} {read : Unit → List α} (flags : List String)
    (hsmaller : ∀ o, takes o = true → wantsValue o = true)
    (hsplit : ∀ o v, .paired o v ∈ units flags → wantsValue o = true → takes o = false →
      takes v = false ∧ read (.paired o v) = read (.lone o) ++ read (.lone v)) :
    (cut takes flags).flatMap read = (units flags).flatMap read := by
  fun_induction units flags with
  | case1 => rfl
  | case2 flag => rfl
  | case3 flag value rest hwants ih =>
      have hrest := ih fun o v hmem => hsplit o v (List.mem_cons_of_mem _ hmem)
      cases htakes : takes flag with
      | true =>
          -- Both cuts take the value.
          have hcut : cut takes (flag :: value :: rest) = .paired flag value :: cut takes rest :=
            if_pos htakes
          rw [hcut, List.flatMap_cons, List.flatMap_cons, hrest]
      | false =>
          -- The smaller table leaves the value behind as a token of its own.
          rcases hsplit flag value List.mem_cons_self hwants htakes with ⟨htoken, hread⟩
          calc
            (cut takes (flag :: value :: rest)).flatMap read
                = read (.lone flag) ++ (read (.lone value) ++ (cut takes rest).flatMap read) := by
                  rw [cut_cons_lone (Or.inl htakes), cut_cons_lone (Or.inl htoken),
                    List.flatMap_cons, List.flatMap_cons]
            _ = read (.paired flag value) ++ (units rest).flatMap read := by
                  rw [hread, hrest, List.append_assoc]
            _ = (.paired flag value :: units rest).flatMap read := List.flatMap_cons.symm
  | case4 flag value rest hwants ih =>
      have htakes : takes flag = false := by
        cases h : takes flag with
        | false => rfl
        | true => exact absurd (hsmaller flag h) hwants
      rw [cut_cons_lone (Or.inl htakes), List.flatMap_cons, List.flatMap_cons,
        ih fun o v hmem => hsplit o v (List.mem_cons_of_mem _ hmem)]

/-- A cut by a smaller table is read like the options themselves, if the options that are left out
name nothing, and no value of theirs is taken for an option or read as one. -/
theorem flatMap_cut {α : Type} {read : Unit → List α} (flags : List String)
    (hsmaller : ∀ o, takes o = true → wantsValue o = true)
    (hlone : ∀ o, wantsValue o = true → read (.lone o) = [])
    (hpaired : ∀ o v, takes o = false → read (.paired o v) = [])
    (hvalues : ∀ o v, .paired o v ∈ units flags → takes o = false →
      takes v = false ∧ read (.lone v) = []) :
    (cut takes flags).flatMap read = (units flags).flatMap read := by
  apply flatMap_cut_of_split flags hsmaller
  intro o v hmem hwants htakes
  rcases hvalues o v hmem htakes with ⟨htoken, hnothing⟩
  exact ⟨htoken, by rw [hpaired o v htakes, hlone o hwants, hnothing]; rfl⟩

/-! ## What one option names -/

/-- The directory an option names by `-I`. -/
def Unit.directories (cwd : Path) : Unit → List Path
  | .paired "-I" dir => [cwd.lexicalJoin ⟨dir⟩]
  | .paired _ _ => []
  | .lone flag => ((attached? "-I" flag).map fun dir => cwd.lexicalJoin ⟨dir⟩).toList

/-- The artifacts an option names: itself, or the two beside a header. -/
def Unit.artifacts (cwd : Path) : Unit → List Path
  | .paired "-include-pch" artifact => [cwd.lexicalJoin ⟨artifact⟩]
  | .paired "-include" header =>
    let header := (cwd.lexicalJoin ⟨header⟩).spelling
    [⟨header ++ ".gch"⟩, ⟨header ++ ".pch"⟩]
  | _ => []

/-- The options that name a directory with the token behind them. -/
def directoryOptions : List String :=
  ["-I"]

/-- The options that name artifacts with the token behind them. -/
def artifactOptions : List String :=
  ["-include-pch", "-include"]

variable {cwd : Path}

theorem directories_of_not_mem {option : String} (h : option ∉ directoryOptions) (value : String) :
    Unit.directories cwd (.paired option value) = [] := by
  unfold Unit.directories
  split
  · next heq =>
      cases heq
      exact absurd (by decide) h
  · rfl
  · next heq => cases heq

theorem artifacts_of_not_mem {option : String} (h : option ∉ artifactOptions) (value : String) :
    Unit.artifacts cwd (.paired option value) = [] := by
  unfold Unit.artifacts
  split
  · next heq =>
      cases heq
      exact absurd (by decide) h
  · next heq =>
      cases heq
      exact absurd (by decide) h
  · rfl

/-- An option that takes a value names no directory on its own. -/
theorem directories_lone_of_wantsValue {option : String} (h : wantsValue option = true) :
    Unit.directories cwd (.lone option) = [] := by
  have hall : ∀ o ∈ optionsWithValue, attached? "-I" o = none := by decide +kernel
  have hnone : attached? "-I" option = none := hall option (by simpa [wantsValue] using h)
  simp [Unit.directories, hnone]

/-! ## The scans -/

/-- The search for directories takes `-I` alone to have a value. -/
theorem searchDirectories_eq_cut (cwd : Path) (flags : List String) :
    searchDirectories cwd flags =
      (cut directoryOptions.contains flags).flatMap (Unit.directories cwd) := by
  fun_induction searchDirectories cwd flags with
  | case1 dir rest ih => simp [cut, directoryOptions, Unit.directories, ih]
  | case2 flag rest hnot dir hdir ih =>
      have hself : attached? "-I" "-I" = none := by decide +kernel
      have hne : flag ≠ "-I" := by
        rintro rfl
        cases hself.symm.trans hdir
      rw [cut_cons_lone (Or.inl (by simp [directoryOptions, hne])), List.flatMap_cons, ih]
      simp [Unit.directories, hdir]
  | case3 flag rest hnot hdir ih =>
      -- The flag is not `-I`, unless it is the last.
      have hlone : directoryOptions.contains flag = false ∨ rest = [] := by
        cases rest with
        | nil => exact Or.inr rfl
        | cons dir rest =>
            have hne : flag ≠ "-I" := fun heq => hnot dir rest heq rfl
            exact Or.inl (by simp [directoryOptions, hne])
      rw [cut_cons_lone hlone, List.flatMap_cons, ih]
      simp [Unit.directories, hdir]
  | case4 => rfl

/-- The search for artifacts takes `-include-pch` and `-include` alone to have a value. -/
theorem pchCandidates_eq_cut (cwd : Path) (flags : List String) :
    pchCandidates cwd flags =
      (cut artifactOptions.contains flags).flatMap (Unit.artifacts cwd) := by
  fun_induction pchCandidates cwd flags with
  | case1 artifact rest ih => simp [cut, artifactOptions, Unit.artifacts, ih]
  | case2 header rest spelling ih =>
      simp [cut, artifactOptions, Unit.artifacts, ih, spelling]
  | case3 flag rest hartifact hheader ih =>
      have hlone : artifactOptions.contains flag = false ∨ rest = [] := by
        cases rest with
        | nil => exact Or.inr rfl
        | cons value rest =>
            have hne : flag ≠ "-include-pch" := fun heq => hartifact value rest heq rfl
            have hne' : flag ≠ "-include" := fun heq => hheader value rest heq rfl
            exact Or.inl (by simp [artifactOptions, hne, hne'])
      rw [cut_cons_lone hlone, List.flatMap_cons, ih]
      rfl
  | case4 => rfl

end Options

/-! ## The options of a command -/

namespace Invocation

open Options

/-- **The scans of a command and its options.** The search for directories reads the flags as if
`-I` alone took a value, the search for artifacts as if `-include-pch` and `-include` did. Each
finds what the options name, in their order, if no value of another option looks like one of those
it searches for. -/
theorem scans_read_units (i : Invocation) :
    (i.searchDirectories =
        (cut directoryOptions.contains i.flags).flatMap (Unit.directories i.workingDirectory)) ∧
      (i.pchCandidates =
        (cut artifactOptions.contains i.flags).flatMap (Unit.artifacts i.workingDirectory)) ∧
      ((∀ option value, .paired option value ∈ units i.flags → option ∉ directoryOptions →
          value ∉ directoryOptions ∧ attached? "-I" value = none) →
        i.searchDirectories = (units i.flags).flatMap (Unit.directories i.workingDirectory)) ∧
      ((∀ option value, .paired option value ∈ units i.flags → option ∉ artifactOptions →
          value ∉ artifactOptions) →
        i.pchCandidates = (units i.flags).flatMap (Unit.artifacts i.workingDirectory)) := by
  have hdirectories := searchDirectories_eq_cut i.workingDirectory i.flags
  have hartifacts := pchCandidates_eq_cut i.workingDirectory i.flags
  refine ⟨hdirectories, hartifacts, ?_, ?_⟩
  · intro hvalues
    rw [searchDirectories, hdirectories]
    apply flatMap_cut
    case hsmaller =>
      have hall : ∀ o ∈ directoryOptions, wantsValue o = true := by decide
      exact fun o ho => hall o (by simpa using ho)
    case hlone => exact fun o ho => directories_lone_of_wantsValue ho
    case hpaired => exact fun o v ho => directories_of_not_mem (by simpa using ho) v
    case hvalues =>
      intro o v hmem ho
      rcases hvalues o v hmem (by simpa using ho) with ⟨hnot, hnone⟩
      exact ⟨by simpa using hnot, by simp [Unit.directories, hnone]⟩
  · intro hvalues
    rw [pchCandidates, hartifacts]
    apply flatMap_cut
    case hsmaller =>
      have hall : ∀ o ∈ artifactOptions, wantsValue o = true := by decide
      exact fun o ho => hall o (by simpa using ho)
    case hlone => exact fun o _ => rfl
    case hpaired => exact fun o v ho => artifacts_of_not_mem (by simpa using ho) v
    case hvalues =>
      intro o v hmem ho
      exact ⟨by simpa using hvalues o v hmem (by simpa using ho), rfl⟩

/-- A compile in `/src` whose options name no directory and no artifact: a dependency file is called
`-Iinc`, and another program is passed an option with its value. -/
def forwarding : Invocation :=
  { workingDirectory := ⟨"/src"⟩
    compiler := "gcc"
    sourceFile := ⟨"/src/a.c"⟩
    kind := .compile
    flags := ["-MF", "-Iinc", "-Xclang", "-include-pch", "-Xclang", "f.pch", "-c", "a.c"]
    output := none
    rawLine := "gcc -MF -Iinc -Xclang -include-pch -Xclang f.pch -c a.c" }

/-- The scans read values of other options as options, and options as their values. -/
theorem scans_ne_units_forwarded :
    forwarding.searchDirectories = [⟨"/src/inc"⟩] ∧
      (units forwarding.flags).flatMap (Unit.directories ⟨"/src"⟩) = [] ∧
      forwarding.pchCandidates = [⟨"/src/-Xclang"⟩] ∧
      (units forwarding.flags).flatMap (Unit.artifacts ⟨"/src"⟩) = [] := by
  decide +kernel

end Invocation
end BuildTrace
