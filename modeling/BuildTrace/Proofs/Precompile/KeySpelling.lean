import BuildTrace.Proofs.Precompile.KeyOptions
import Mathlib.Logic.Relation

/-!
# KeySpelling — commands that differ in what a key leaves out

A key leaves out the options that only ask for a product or name one, and has one spelling for every
directory behind `-I`:

* `HeaderKey.IsProductOption` — an option that a key leaves out, in any of its forms;
* `HeaderKey.Respells` — a flag list with one such option more, or with the directory of one `-I`
  attached to it, where no option waits for a value;
* `relevantFlags_of_respells` — the flags of a key do not show the difference;
* `relevantFlags_relevantFlags` — the flags of a key are all that it leaves of themselves;
* `ofCommand_spelling` — so a key is the key of its own flags, and commands that are respelled in
  any number of places have one key; `ofCommand_searchInc` is such a case.
-/

namespace BuildTrace

/-- A folded path has one spelling. -/
theorem Path.eq_of_same_lexicalJoin {base base' p q : Path}
    (h : (base.lexicalJoin p).Same (base'.lexicalJoin q)) :
    base.lexicalJoin p = base'.lexicalJoin q := by
  calc
    base.lexicalJoin p = (base.lexicalJoin p).fold := (fold_fold _).symm
    _ = (base'.lexicalJoin q).fold := by rw [fold, h, fold]
    _ = base'.lexicalJoin q := fold_fold _

namespace HeaderKey

open Options (cut_append cut_cons_lone attached? IsOpen)

variable {cwd source : Path} {flag : String} {front tokens flags flags' : List String}

/-! ## Reading on -/

/-- A token whose value a key does not look for is read on its own. -/
theorem relevantFlags_cons (h : flag ∉ valueOptions) (rest : List String) :
    relevantFlags cwd source (flag :: rest) =
      relevantFlags.lone cwd source flag ++ relevantFlags cwd source rest := by
  rw [relevantFlags_eq_cut, cut_cons_lone (Or.inl (by simpa using h)), List.flatMap_cons,
    wholeOption_lone_of_not_mem h, ← relevantFlags_eq_cut]

/-- Behind such a token a key reads on as if it began there. -/
theorem relevantFlags_append (h : ∀ token ∈ front.getLast?, token ∉ valueOptions)
    (back : List String) :
    relevantFlags cwd source (front ++ back) =
      relevantFlags cwd source front ++ relevantFlags cwd source back := by
  have hclosed : ¬ IsOpen valueOptions.contains front := by
    intro hopen
    rcases hopen.exists_getLast? with ⟨option, hlast, hoption⟩
    exact h option hlast (by simpa using hoption)
  rw [relevantFlags_eq_cut, cut_append hclosed, List.flatMap_append, ← relevantFlags_eq_cut,
    ← relevantFlags_eq_cut]

/-! ## Options that a key leaves out -/

/-- The tokens of an option that asks for a product or a dependency file, or names one. -/
inductive IsProductOption : List String → Prop where
  | asking {flag : String} : flag ∈ productOptions → IsProductOption [flag]
  | attached {file : String} : file ≠ "" → IsProductOption ["-o" ++ file]
  | naming {option : String} (file : String) : option ∈ namingOptions →
      IsProductOption [option, file]

theorem not_mem_valueOptions_of_attached? {file : String} (h : attached? "-o" flag = some file) :
    flag ∉ valueOptions := by
  have hall : ∀ o ∈ valueOptions, attached? "-o" o = none := by decide +kernel
  intro hmem
  exact absurd ((hall flag hmem).symm.trans h) nofun

theorem IsProductOption.relevantFlags_append (h : IsProductOption tokens) (back : List String) :
    relevantFlags cwd source (tokens ++ back) = relevantFlags cwd source back := by
  cases h with
  | @asking flag hflag =>
      have hall : ∀ o ∈ productOptions, o ∉ valueOptions := by decide
      have hnothing : relevantFlags.lone cwd source flag = [] := by
        simp [relevantFlags.lone, hflag]
      rw [List.singleton_append, relevantFlags_cons (hall flag hflag), hnothing, List.nil_append]
  | @attached file hfile =>
      have hproduct : attached? "-o" ("-o" ++ file) = some file :=
        Options.attached?_append hfile "-o"
      have hnothing : relevantFlags.lone cwd source ("-o" ++ file) = [] := by
        simp [relevantFlags.lone, hproduct]
      rw [List.singleton_append, relevantFlags_cons (not_mem_valueOptions_of_attached? hproduct),
        hnothing, List.nil_append]
  | @naming option file hoption =>
      rw [List.cons_append, List.singleton_append, relevantFlags, if_pos (by simpa using hoption)]

/-! ## Spellings -/

variable (cwd) in
/-- A flag list and another spelling of it. Both changes are made where no option waits for a value:
an option is put in that a key leaves out, or the directory behind `-I` is attached to it, perhaps
by another name of the same directory. -/
inductive Respells : List String → List String → Prop where
  | product {front tokens : List String} (back : List String) :
      (∀ token ∈ front.getLast?, token ∉ valueOptions) → IsProductOption tokens →
        Respells (front ++ back) (front ++ tokens ++ back)
  | directory {front : List String} {dir dir' : String} (back : List String) :
      (∀ token ∈ front.getLast?, token ∉ valueOptions) → dir' ≠ "" →
        (cwd.lexicalJoin ⟨dir⟩).Same (cwd.lexicalJoin ⟨dir'⟩) →
          Respells (front ++ "-I" :: dir :: back) (front ++ ("-I" ++ dir') :: back)

/-- The flags of a key do not show the difference. -/
theorem relevantFlags_of_respells (h : Respells cwd flags flags') :
    relevantFlags cwd source flags = relevantFlags cwd source flags' := by
  cases h with
  | product back hfront htokens =>
      rw [List.append_assoc, relevantFlags_append hfront, relevantFlags_append hfront,
        htokens.relevantFlags_append]
  | @directory front dir dir' back hfront hne hsame =>
      have hattached : attached? "-I" ("-I" ++ dir') = some dir' :=
        Options.attached?_append hne "-I"
      have hflag : includeFlag cwd dir = includeFlag cwd dir' := by
        rw [includeFlag, Path.eq_of_same_lexicalJoin hsame, includeFlag]
      have hmem : "-I" ++ dir' ∉ valueOptions := not_mem_valueOptions_of_directory hattached
      have hnaming : "-I" ∉ namingOptions := by decide
      calc
        relevantFlags cwd source (front ++ "-I" :: dir :: back)
            = relevantFlags cwd source front ++
                includeFlag cwd dir :: relevantFlags cwd source back := by
              rw [relevantFlags_append hfront, relevantFlags, if_neg (by simpa using hnaming),
                if_pos rfl]
        _ = relevantFlags cwd source front ++
              (relevantFlags.lone cwd source ("-I" ++ dir') ++ relevantFlags cwd source back) := by
              rw [lone_of_directory hattached, hflag, List.singleton_append]
        _ = relevantFlags cwd source (front ++ ("-I" ++ dir') :: back) := by
              rw [relevantFlags_append hfront, relevantFlags_cons hmem]

/-- In any number of places. -/
theorem relevantFlags_of_eqvGen (h : Relation.EqvGen (Respells cwd) flags flags') :
    relevantFlags cwd source flags = relevantFlags cwd source flags' := by
  induction h with
  | rel _ _ hstep => exact relevantFlags_of_respells hstep
  | refl _ => rfl
  | symm _ _ _ ih => exact ih.symm
  | trans _ _ _ _ _ ih ih' => exact ih.trans ih'

/-! ## The flags of a key -/

/-- Nothing is left out of tokens that stay as they are. -/
theorem relevantFlags_of_isFixed (h : ∀ token ∈ flags, IsFixed cwd source token) :
    relevantFlags cwd source flags = flags := by
  induction flags with
  | nil => rfl
  | cons token rest ih =>
      rcases List.forall_mem_cons.1 h with ⟨htoken, hrest⟩
      have hmem : token ∉ valueOptions := htoken.not_mem_valueOptions
      have hstays : relevantFlags.lone cwd source token = [token] := by
        rw [← wholeOption_lone_of_not_mem hmem, htoken]
      rw [relevantFlags_cons hmem, hstays, ih hrest, List.singleton_append]

/-- The flags of a key are all that it leaves of themselves. -/
theorem relevantFlags_relevantFlags (hcwd : cwd.isAbsolute = true) (flags : List String) :
    relevantFlags cwd source (relevantFlags cwd source flags) =
      relevantFlags cwd source flags :=
  relevantFlags_of_isFixed fun _ htoken => isFixed_of_mem_relevantFlags hcwd htoken

/-- **The spelling of a command in its key.** For a command run in an absolute directory, a key is
the key of its own flags and header. Commands that are respelled, in any number of places, have one
key: wherever no option waits for a value a key shows no option that only asks for a product or
names one, nor how the directory behind `-I` is written. -/
theorem ofCommand_spelling (i : Invocation) (header : Path)
    (hcwd : i.workingDirectory.isAbsolute = true) :
    let k := ofCommand i header
    ofCommand { i with flags := k.flags } k.header = k ∧
      ∀ flags, Relation.EqvGen (Respells i.workingDirectory) i.flags flags →
        ofCommand { i with flags := flags } header = k := by
  intro k
  constructor
  · have hheader : i.workingDirectory.lexicalJoin k.header = k.header :=
      Path.lexicalJoin_lexicalJoin hcwd header
    have hflags : relevantFlags i.workingDirectory i.sourceFile k.flags = k.flags :=
      relevantFlags_relevantFlags hcwd i.flags
    calc
      ofCommand { i with flags := k.flags } k.header
          = ofParts (i.workingDirectory.lexicalJoin k.header)
              (relevantFlags i.workingDirectory i.sourceFile k.flags) := rfl
      _ = ofParts k.header k.flags := by rw [hheader, hflags]
      _ = k := rfl
  · intro flags hrespelled
    calc
      ofCommand { i with flags := flags } header
          = ofParts (i.workingDirectory.lexicalJoin header)
              (relevantFlags i.workingDirectory i.sourceFile flags) := rfl
      _ = k := by
            rw [← relevantFlags_of_eqvGen hrespelled]
            rfl

/-- A compile that searches a directory behind a dot. -/
def searchInc : Invocation :=
  { workingDirectory := ⟨"/src"⟩
    compiler := "gcc"
    sourceFile := ⟨"/src/a.c"⟩
    kind := .compile
    flags := ["-DX=1", "-I", "./inc", "-c", "a.c"]
    output := none
    rawLine := "gcc -DX=1 -I ./inc -c a.c" }

/-- The same with a dependency file and a product named, and the directory attached. -/
theorem ofCommand_searchInc :
    let key := ofCommand searchInc ⟨"a.h"⟩
    let respelled := ["-DX=1", "-MF", "a.d", "-Iinc", "-c", "a.c", "-oa.o"]
    searchInc.workingDirectory.isAbsolute = true ∧
      Relation.EqvGen (Respells searchInc.workingDirectory) searchInc.flags respelled ∧
      ofCommand { searchInc with flags := key.flags } key.header = key ∧
      ofCommand { searchInc with flags := respelled } ⟨"a.h"⟩ = key := by
  intro key respelled
  have hcwd : searchInc.workingDirectory.isAbsolute = true := by decide
  have hattached : Respells searchInc.workingDirectory
      (["-DX=1"] ++ "-I" :: "./inc" :: ["-c", "a.c"])
      (["-DX=1"] ++ ("-I" ++ "inc") :: ["-c", "a.c"]) :=
    .directory _ (by decide) (by decide) (by decide +kernel)
  have hdependency : Respells searchInc.workingDirectory (["-DX=1"] ++ ["-Iinc", "-c", "a.c"])
      (["-DX=1"] ++ ["-MF", "a.d"] ++ ["-Iinc", "-c", "a.c"]) :=
    .product _ (by decide) (.naming "a.d" (by decide))
  have hproduct : Respells searchInc.workingDirectory
      (["-DX=1", "-MF", "a.d", "-Iinc", "-c", "a.c"] ++ [])
      (["-DX=1", "-MF", "a.d", "-Iinc", "-c", "a.c"] ++ ["-o" ++ "a.o"] ++ []) :=
    .product _ (by decide) (.attached (by decide))
  have hrespelled :
      Relation.EqvGen (Respells searchInc.workingDirectory) searchInc.flags respelled :=
    .trans _ _ _ (.rel _ _ hattached) (.trans _ _ _ (.rel _ _ hdependency) (.rel _ _ hproduct))
  rcases ofCommand_spelling searchInc ⟨"a.h"⟩ hcwd with ⟨hself, hall⟩
  exact ⟨hcwd, hrespelled, hself, hall respelled hrespelled⟩

end HeaderKey
end BuildTrace
