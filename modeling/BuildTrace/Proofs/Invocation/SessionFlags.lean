import BuildTrace.Invocation.Recognise
import BuildTrace.Proofs.Invocation.Scans

/-!
# SessionFlags — flags that are added to a command

The flags of a session go behind those of a command, as far as the command does not have them. Both
lists mean options, some of which have a value:

* `Options.missing` — the options that are added;
* `Options.IsCut` — options that are cut again when their tokens are put in a row;
* `units_withExtra`, `withExtra_withExtra` — the options of both lists, and nothing more the second
  time, if no option of the command waits for its value; `units_withExtra_iff` — and only then;
* `Invocation.units_withSessionFlags` — what the flags of a session make of any command;
* `Invocation.units_ne_emptyDirectory` — an option that waits for its value takes the first token
  that is added.
-/

namespace BuildTrace
namespace Options

variable {flags extra : List String}

/-- The options of `extra` that a flag list does not have. -/
def missing (flags extra : List String) : List Unit :=
  (units extra).filter fun u => !(units flags).contains u

theorem mem_missing {u : Unit} : u ∈ missing flags extra ↔ u ∈ units extra ∧ u ∉ units flags := by
  simp [missing]

/-! ## Options in a row -/

/-- Options that are cut again when their tokens are put in a row: only the last one may lack the
value it takes. -/
inductive IsCut : List Unit → Prop where
  | nil : IsCut []
  | last (flag : String) : IsCut [.lone flag]
  | lone {flag : String} {us : List Unit} : wantsValue flag = false → IsCut us →
      IsCut (.lone flag :: us)
  | paired {option : String} {us : List Unit} (value : String) : wantsValue option = true →
      IsCut us → IsCut (.paired option value :: us)

variable {us vs : List Unit}

theorem isCut_units (flags : List String) : IsCut (units flags) := by
  fun_induction units flags with
  | case1 => exact .nil
  | case2 flag => exact .last flag
  | case3 flag value rest hwants ih => exact .paired value hwants ih
  | case4 flag value rest hwants ih => exact .lone (by simpa using hwants) ih

/-- Options that are left out leave no value behind that another one could take. -/
theorem IsCut.sublist (h : IsCut us) (hsub : vs.Sublist us) : IsCut vs := by
  induction h generalizing vs with
  | nil =>
      rw [List.sublist_nil.1 hsub]
      exact .nil
  | last flag =>
      rcases List.sublist_cons_iff.1 hsub with hrest | ⟨vs, rfl, hrest⟩
      · rw [List.sublist_nil.1 hrest]
        exact .nil
      · rw [List.sublist_nil.1 hrest]
        exact .last flag
  | lone hlone _ ih =>
      rcases List.sublist_cons_iff.1 hsub with hrest | ⟨vs, rfl, hrest⟩
      · exact ih hrest
      · exact .lone hlone (ih hrest)
  | paired value hwants _ ih =>
      rcases List.sublist_cons_iff.1 hsub with hrest | ⟨vs, rfl, hrest⟩
      -- The value goes with its option.
      · exact ih hrest
      · exact .paired value hwants (ih hrest)

theorem IsCut.units_flatMap_tokens (h : IsCut us) : units (us.flatMap Unit.tokens) = us := by
  induction h with
  | nil => rfl
  | last flag => rfl
  | @lone flag us hlone _ ih =>
      calc
        units ((.lone flag :: us).flatMap Unit.tokens)
            = cut wantsValue (flag :: us.flatMap Unit.tokens) := units_eq_cut _
        _ = .lone flag :: units (us.flatMap Unit.tokens) := by
              rw [cut_cons_lone (Or.inl hlone), units_eq_cut]
        _ = .lone flag :: us := by rw [ih]
  | @paired option us value hwants _ ih =>
      calc
        units ((.paired option value :: us).flatMap Unit.tokens)
            = units (option :: value :: us.flatMap Unit.tokens) := rfl
        _ = .paired option value :: us := by rw [units, if_pos hwants, ih]

theorem units_missing (flags extra : List String) :
    units ((missing flags extra).flatMap Unit.tokens) = missing flags extra :=
  ((isCut_units extra).sublist List.filter_sublist).units_flatMap_tokens

/-! ## One list behind the other -/

theorem withExtra_of_missing_eq_nil (h : missing flags extra = []) :
    withExtra flags extra = flags := by
  have hadded : withExtra flags extra = flags ++ (missing flags extra).flatMap Unit.tokens := rfl
  rw [hadded, h, List.flatMap_nil, List.append_nil]

/-- The options of a flag list stay, and those it lacks stand behind them, if no option waits for a
value or nothing is added. -/
theorem units_withExtra (h : IsOpen wantsValue flags → missing flags extra = []) :
    units (withExtra flags extra) = units flags ++ missing flags extra := by
  by_cases hopen : IsOpen wantsValue flags
  · rw [withExtra_of_missing_eq_nil (h hopen), h hopen, List.append_nil]
  · calc
      units (withExtra flags extra)
          = cut wantsValue (flags ++ (missing flags extra).flatMap Unit.tokens) := units_eq_cut _
      _ = units flags ++ units ((missing flags extra).flatMap Unit.tokens) := by
            rw [cut_append hopen, units_eq_cut, units_eq_cut]
      _ = units flags ++ missing flags extra := by rw [units_missing]

theorem mem_units_withExtra (h : IsOpen wantsValue flags → missing flags extra = []) {u : Unit}
    (hu : u ∈ units extra) : u ∈ units (withExtra flags extra) := by
  rw [units_withExtra h, List.mem_append, mem_missing]
  by_cases hflags : u ∈ units flags
  · exact Or.inl hflags
  · exact Or.inr ⟨hu, hflags⟩

/-- The second time nothing is added. -/
theorem withExtra_withExtra (h : IsOpen wantsValue flags → missing flags extra = []) :
    withExtra (withExtra flags extra) extra = withExtra flags extra := by
  refine withExtra_of_missing_eq_nil (List.eq_nil_iff_forall_not_mem.2 fun u hu => ?_)
  rcases mem_missing.1 hu with ⟨hextra, hnot⟩
  exact hnot (mem_units_withExtra h hextra)

/-- An option that waits for its value takes the first token that is added. -/
theorem units_withExtra_of_open {option first : String} {later : List String}
    (hlast : units flags = us ++ [.lone option]) (hwants : wantsValue option = true)
    (hadded : (missing flags extra).flatMap Unit.tokens = first :: later) :
    units (withExtra flags extra) = us ++ .paired option first :: units later := by
  have hcut : cut wantsValue flags = us ++ [.lone option] := by rw [← units_eq_cut, hlast]
  calc
    units (withExtra flags extra)
        = cut wantsValue (flags ++ (missing flags extra).flatMap Unit.tokens) := units_eq_cut _
    _ = us ++ .paired option first :: units later := by
          rw [hadded, cut_append_of_open hcut hwants, units_eq_cut]

/-- And only then. -/
theorem units_withExtra_iff :
    units (withExtra flags extra) = units flags ++ missing flags extra ↔
      (IsOpen wantsValue flags → missing flags extra = []) := by
  refine ⟨?_, units_withExtra⟩
  intro hboth hopen
  rcases hopen with ⟨us, option, hcut, hwants⟩
  have hlast : units flags = us ++ [.lone option] := by rw [units_eq_cut, hcut]
  cases hadded : (missing flags extra).flatMap Unit.tokens with
  | nil => rw [← units_missing flags extra, hadded, units]
  | cons first later =>
      -- The option that waits would have the first of these tokens as its value.
      rw [units_withExtra_of_open hlast hwants hadded, hlast, List.append_assoc] at hboth
      have hheads := List.append_cancel_left hboth
      cases hheads

end Options

/-! ## The flags of a session -/

namespace Invocation

open Options

/-- **The flags of a session.** The flags of a command stay in front. Its options stay, and those of
the session that it lacks stand behind them, in their order, just if no option of the command waits
for its value, or nothing is added; then the command has every option of the session with its value,
and the same flags add nothing the second time. An option that waits takes the first token that is
added for its value, and what follows is cut anew. -/
theorem units_withSessionFlags (i : Invocation) (extra : List String) :
    let j := i.withSessionFlags extra
    i.flags <+: j.flags ∧
      (units j.flags = units i.flags ++ missing i.flags extra ↔
        (IsOpen wantsValue i.flags → missing i.flags extra = [])) ∧
      ((IsOpen wantsValue i.flags → missing i.flags extra = []) →
        (∀ u ∈ units extra, u ∈ units j.flags) ∧ j.withSessionFlags extra = j) ∧
      ∀ us option first later, units i.flags = us ++ [.lone option] → wantsValue option = true →
        (missing i.flags extra).flatMap Unit.tokens = first :: later →
          units j.flags = us ++ .paired option first :: units later := by
  intro j
  refine ⟨List.prefix_append _ _, units_withExtra_iff, ?_, ?_⟩
  · intro h
    refine ⟨fun u hu => mem_units_withExtra h hu, ?_⟩
    calc
      j.withSessionFlags extra
          = { j with flags := withExtra (withExtra i.flags extra) extra } := rfl
      _ = { j with flags := withExtra i.flags extra } := by rw [withExtra_withExtra h]
      _ = j := rfl
  · intro us option first later hlast hwants hadded
    exact units_withExtra_of_open hlast hwants hadded

/-- A command whose last option names no directory. -/
def emptyDirectory : Invocation :=
  { workingDirectory := ⟨"/src"⟩
    compiler := "gcc"
    sourceFile := ⟨"/src/a.c"⟩
    kind := .compile
    flags := ["-c", "a.c", "-I"]
    output := none
    rawLine := "gcc -c a.c -I" }

/-- The flag of the session becomes the directory, and is not found there the second time. -/
theorem units_ne_emptyDirectory :
    let j := emptyDirectory.withSessionFlags ["-DX"]
    ofLine? ⟨"/src"⟩ "gcc -c a.c -I" = some emptyDirectory ∧
      units emptyDirectory.flags ++ missing emptyDirectory.flags ["-DX"] =
        [.lone "-c", .lone "a.c", .lone "-I", .lone "-DX"] ∧
      units j.flags = [.lone "-c", .lone "a.c", .paired "-I" "-DX"] ∧
      j.searchDirectories = [⟨"/src/-DX"⟩] ∧ j.withSessionFlags ["-DX"] ≠ j := by
  decide +kernel

end Invocation
end BuildTrace
