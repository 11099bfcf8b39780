import BuildTrace.CommandLine.Outcome
import BuildTrace.Proofs.Build.Calls
import BuildTrace.Proofs.FileSystem.Places
import BuildTrace.Proofs.Json.Records
import BuildTrace.Proofs.Text.Cut

/-!
# Stream — what a build writes can be read again

* `IsLines` — a text that is a row of lines, each with a line break behind it and none inside;
* `IsLines.unique` — a text is at most one such row;
* `output_showBuild` — with the form `json`, each invocation that was delivered is one line;
* `json_is_kept` — data are read back from their text, and so are the lines of a build.
-/

namespace BuildTrace
namespace CommandLine

/-! ## Lines -/

/-- A row of lines, each with a line break behind it and none inside. -/
structure IsLines (text : String) (lines : List String) : Prop where
  eq_join : text = String.join (lines.map (· ++ "\n"))
  unbroken : ∀ line ∈ lines, '\n' ∉ line.toList

namespace IsLines

variable {text : String} {lines others : List String}

theorem toList_eq (h : IsLines text lines) :
    text.toList = (lines.map String.toList).flatMap (· ++ ['\n']) := by
  rw [h.eq_join, String.toList_join, List.flatMap_map, List.flatMap_map]
  simp

/-- A text is a row of lines in one way only. -/
theorem unique (h : IsLines text lines) (h' : IsLines text others) : others = lines := by
  have hlines : others.map String.toList = lines.map String.toList := by
    refine Text.flatMap_ended_inj (x := '\n') ?_ ?_ ?_
    · simpa using h'.unbroken
    · simpa using h.unbroken
    · rw [← h'.toList_eq, h.toList_eq]
  exact List.map_injective_iff.2 (fun _ _ => String.toList_inj.1) hlines

end IsLines

/-! ## Builds -/

section Builds

variable (around : Surroundings) (settings : Settings) (verbose : Bool) {o : RunOptions}

/-- The report of the build that a request runs. -/
def buildReport (o : RunOptions) : RunReport :=
  (({ settings := o.settings settings } : Builder).run around.files around.refusal? o.makefile
    o.arguments around.script).1

theorem output_showBuild (h : o.format = "json") :
    (showBuild around settings verbose o).output =
      String.join ((buildReport around settings o).invocations.map fun i =>
        i.toJson.render ++ "\n") := by
  simp only [showBuild, h, invocationLine?]
  split <;> rfl

/-- However the build ends, each invocation that was delivered is one line. -/
theorem isLines_showBuild (h : o.format = "json") :
    IsLines (showBuild around settings verbose o).output
      ((buildReport around settings o).invocations.map fun i => i.toJson.render) := by
  constructor
  · simpa [Function.comp_def] using output_showBuild around settings verbose h
  · intro line hline
    rcases List.mem_map.1 hline with ⟨i, -, rfl⟩
    exact i.keeps.exact.not_mem_render

end Builds

/-- **What is written as data can be read again.** Commands, outcomes, keys, stamps and tables of
stamps are read back from their text. What a build writes is cut into lines in one way, and the
lines stand for the invocations that were delivered, in their order, however the build ended. -/
theorem json_is_kept :
    (∀ i : Invocation, (Json.parse? i.toJson.render).bind Invocation.ofJson? = some i) ∧
    (∀ s : BuildOutcome, s.Fits →
      (Json.parse? s.toJson.render).bind BuildOutcome.ofJson? = some s) ∧
    (∀ k : HeaderKey, (Json.parse? k.toJson.render).bind HeaderKey.ofJson? = some k) ∧
    (∀ stamp : FileStamp, stamp.Fits →
      (Json.parse? stamp.toJson.render).bind FileStamp.ofJson? = some stamp) ∧
    (∀ t : StampTable, StampTable.Sorted t.entries → (∀ e ∈ t.entries, e.2.Fits) →
      (Json.parse? t.toJson.render).bind StampTable.ofJson? = some t ∧
        (Json.parse? t.toJson.pretty).bind StampTable.ofJson? = some t) ∧
    ∀ (around : Surroundings) (settings : Settings) (verbose : Bool) (o : RunOptions),
      o.format = "json" → ∃ lines,
        IsLines (showBuild around settings verbose o).output lines ∧
        (∀ others, IsLines (showBuild around settings verbose o).output others → others = lines) ∧
        (lines.map fun line => (Json.parse? line).bind Invocation.ofJson?) =
          (buildReport around settings o).invocations.map some := by
  refine ⟨fun i => i.keeps.parse?_render, fun s hs => (s.keeps hs).parse?_render,
    fun k => k.keeps.parse?_render, fun stamp hs => (stamp.keeps hs).parse?_render, ?_, ?_⟩
  · intro t hsorted hfits
    have hkeeps := StampTable.keeps hsorted hfits
    exact ⟨hkeeps.parse?_render, hkeeps.parse?_pretty⟩
  · intro around settings verbose o hformat
    have hlines := isLines_showBuild around settings verbose hformat
    refine ⟨_, hlines, fun others hothers => hlines.unique hothers, ?_⟩
    simp [Function.comp_def, (Invocation.keeps _).parse?_render]

/-! ### The largest numbers, and a build of one source -/

/-- A build file, and a build that compiles one source. -/
def oneSource : Surroundings :=
  { files :=
      { nodes := [(["src"], ⟨.directory, 0⟩), (["src", "Makefile"], ⟨.file [] false, 0⟩)] }
    refusal? := fun _ _ => none
    script := { chunks := [.output (Text.bytes "gcc -c a.c\n")] } }

theorem length_invocations_oneSource :
    (buildReport oneSource {} { makefile := ⟨"/src/Makefile"⟩ }).invocations.length = 1 := by
  have hfile : oneSource.files.realPath ⟨"/src/Makefile"⟩ = .ok ⟨"/src/Makefile"⟩ :=
    @FileSystem.realPath_toPath oneSource.files ["src", "Makefile"] ⟨.file [] false, 0⟩
      (by decide) (by decide) (by decide) (by decide)
  have hfound : Builder.findMakefile oneSource.files ⟨"/src/Makefile"⟩ =
      .ok (⟨"/src/Makefile"⟩, ⟨"/src"⟩) := by
    simp only [Builder.findMakefile, hfile]
    decide
  have hran := @Builder.ran_of_starts Invocation.ofLine? { settings := {} }
    { files := oneSource.files
      refusal? := oneSource.refusal?
      makefile := ⟨"/src/Makefile"⟩
      args := []
      script := oneSource.script }
    ⟨"/src/Makefile"⟩ ⟨"/src"⟩ ⟨rfl, hfound, rfl⟩
  exact (congrArg List.length hran.delivers).trans (by decide +kernel)

theorem json_is_kept_oneSource :
    let outcome : BuildOutcome :=
      { exitCode := some (-2147483648)
        success := false
        sourceCount := 18446744073709551615
        pchCount := 0
        stderr := "a \"b\"\n" }
    let stamp : FileStamp := .modified 18446744073709551615
    let table : StampTable := { entries := [(⟨"a.h"⟩, .content "0"), (⟨"b.h"⟩, stamp)] }
    let request : RunOptions := { makefile := ⟨"/src/Makefile"⟩ }
    (outcome.Fits ∧ (Json.parse? outcome.toJson.render).bind BuildOutcome.ofJson? = some outcome) ∧
    (stamp.Fits ∧ (Json.parse? stamp.toJson.render).bind FileStamp.ofJson? = some stamp) ∧
    ((StampTable.Sorted table.entries ∧ ∀ e ∈ table.entries, e.2.Fits) ∧
      (Json.parse? table.toJson.render).bind StampTable.ofJson? = some table) ∧
    request.format = "json" ∧ ∃ lines,
      IsLines (showBuild oneSource {} false request).output lines ∧ lines.length = 1 := by
  intro outcome stamp table request
  rcases json_is_kept with ⟨-, houtcomes, -, hstamps, htables, hbuilds⟩
  have houtcome : outcome.Fits := ⟨by decide, by decide, by decide⟩
  have hstamp : stamp.Fits := by
    show (18446744073709551615 : Nat) < Number.limit 64
    decide
  have hsorted : StampTable.Sorted table.entries := by
    have hbefore : Path.precedes ⟨"a.h"⟩ ⟨"b.h"⟩ = true := by decide
    simp [StampTable.Sorted, table, hbefore]
  have hfits : ∀ e ∈ table.entries, e.2.Fits := by
    intro e he
    rcases List.mem_pair.1 he with rfl | rfl
    · trivial
    · exact hstamp
  rcases hbuilds oneSource {} false request rfl with ⟨lines, hlines, -, hread⟩
  have hlength := congrArg List.length hread
  rw [List.length_map, List.length_map, length_invocations_oneSource] at hlength
  exact ⟨⟨houtcome, houtcomes outcome houtcome⟩, ⟨hstamp, hstamps stamp hstamp⟩,
    ⟨⟨hsorted, hfits⟩, (htables table hsorted hfits).1⟩, rfl, lines, hlines, hlength⟩

end CommandLine
end BuildTrace
