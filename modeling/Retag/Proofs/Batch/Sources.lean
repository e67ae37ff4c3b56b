import Mathlib.Data.List.Basic
import Retag.Proofs.Batch.Turns

/-! What becomes of the sources. A batch never opens a source for writing, yet an output may land where a
source stands: the output directory may be the source directory, or a link or the suffix may lead
there. A source keeps its bytes unless that happens, and then it depends on the last such output.
-/

set_option autoImplicit false

namespace Retag.Batch

def lastChangeAt (location : Location) (changes : List Change) : Option Change :=
  (changes.filter fun change => change.location = location).getLast?

/-- A selected source holds its bytes behind the run just if the last change that the turns make at its
location, if they make any, puts those bytes there. -/
theorem run_keeps_source_iff (settings : Settings) (disk : Disk) (report : Report)
    (finished : (run settings false watch () disk).outcome = .ok report) :
    ∃ conversion candidates world, settings.conversion false = .ok conversion ∧
      settings.source = some conversion.sourceDirectory ∧
      (Selection.select conversion.sourceDirectory settings.markers settings.suffix).perform { disk } =
        (.ok candidates, world) ∧
      ∀ candidate ∈ candidates, ∃ source content,
        disk.resolve (Bytes.ofText (conversion.sourcePath candidate)) = .ok source ∧
        disk.files.get? source = some (.file content) ∧
        ((run settings false watch () disk).disk.files.get? source = some (.file content) ↔
          ∀ change, lastChangeAt source (changes conversion (ready conversion world.disk) candidates) =
            some change → change.entry? = some (.file content)) := by
  obtain ⟨conversion, candidates, world, converts, given, writes, selected, ⟨faults, -, same⟩, final, -, -⟩ :=
    run_watch finished
  refine ⟨conversion, candidates, world, converts, given, selected, fun candidate chosen => ?_⟩
  obtain ⟨-, content, -, -, -, found⟩ := Selection.mem_select selected chosen
  obtain ⟨source, resolved, read⟩ := Disk.content?_eq_some_iff.1 found
  refine ⟨source, content, resolved, read, ?_⟩
  have stood : world.disk.files.get? source = some (.file content) := by rw [same]; exact read
  -- Preparing the output directory takes nothing away, so the source still stands when the turns begin.
  have begins := (ready_gains conversion world.disk).kept stood
  have settled : Settled (ready conversion world.disk) source := .inr (by rw [begins]; simp)
  rw [final, get?_afterTurns writes settled, changed_apply, lastChangeAt]
  cases ((changes conversion (ready conversion world.disk) candidates).filter fun change =>
      change.location = source).getLast? with
  | none => exact iff_of_true begins (fun _ same => nomatch same)
  | some change => simp

/-- A source directory in which one candidate's output has the name of another candidate. -/
def sharedDirectory : Disk where
  files := ((FileSystem.empty.put [.plain (Bytes.ofText "S")] .directory).put
    [.plain (Bytes.ofText "Foo.cs"), .plain (Bytes.ofText "S")] (.file (Bytes.ofText "File: a\n"))).put
    [.plain (Bytes.ofText "Foo_doxy.cs"), .plain (Bytes.ofText "S")] (.file (Bytes.ofText "b\n"))
  workingDirectory := []

def sharedSettings : Settings := { source := some "S", output := "S" }

theorem run_keeps_source_iff_shared :
    ∃ report, (run sharedSettings false watch () sharedDirectory).outcome = .ok report ∧
      ∃ conversion candidates disk change,
        lastChangeAt [.plain (Bytes.ofText "Foo_doxy.cs"), .plain (Bytes.ofText "S")]
          (changes conversion disk candidates) = some change ∧
        change.entry? ≠ some (.file (Bytes.ofText "b\n")) := by
  obtain ⟨report, finished⟩ : ∃ report,
      (run sharedSettings false watch () sharedDirectory).outcome = .ok report :=
    ⟨⟨[⟨"Foo.cs", "S/Foo_doxy.cs", 1, 1⟩, ⟨"Foo_doxy.cs", "S/Foo_doxy_doxy.cs", 1, 0⟩], []⟩,
      by decide +kernel⟩
  obtain ⟨conversion, candidates, world, -, given, selected, each⟩ :=
    run_keeps_source_iff sharedSettings sharedDirectory report finished
  have same : conversion.sourceDirectory = "S" := (Option.some.inj given).symm
  have listed : ((Selection.select "S" sharedSettings.markers sharedSettings.suffix).perform
      { disk := sharedDirectory }).1 =
      .ok [Candidate.ofName "Foo.cs" "_doxy", Candidate.ofName "Foo_doxy.cs" "_doxy"] := by
    decide +kernel
  rw [← same, selected] at listed
  have chosen : Candidate.ofName "Foo_doxy.cs" "_doxy" ∈ candidates := by
    rw [Except.ok.inj listed]
    exact List.mem_cons_of_mem _ List.mem_cons_self
  obtain ⟨source, content, resolved, read, kept⟩ := each _ chosen
  have path : conversion.sourcePath (Candidate.ofName "Foo_doxy.cs" "_doxy") = "S/Foo_doxy.cs" := by
    rw [Conversion.sourcePath, same]
    decide +kernel
  have located : sharedDirectory.resolve (Bytes.ofText "S/Foo_doxy.cs") =
      .ok [.plain (Bytes.ofText "Foo_doxy.cs"), .plain (Bytes.ofText "S")] := by
    decide +kernel
  rw [path, located] at resolved
  cases resolved
  have stood : sharedDirectory.files.get? [.plain (Bytes.ofText "Foo_doxy.cs"), .plain (Bytes.ofText "S")] =
      some (.file (Bytes.ofText "b\n")) := by
    decide +kernel
  cases stood.symm.trans read
  have lost : (run sharedSettings false watch () sharedDirectory).disk.files.get?
      [.plain (Bytes.ofText "Foo_doxy.cs"), .plain (Bytes.ofText "S")] ≠
        some (.file (Bytes.ofText "b\n")) := by
    decide +kernel
  have differs := mt kept.2 lost
  simp only [not_forall, exists_prop] at differs
  obtain ⟨change, last, other⟩ := differs
  exact ⟨report, finished, conversion, candidates, _, change, last, other⟩

theorem run_overwrites_source :
    sharedSettings.validate = .ok () ∧
      (run sharedSettings false watch () sharedDirectory).outcome.isOk = true ∧
      ((Selection.select "S" sharedSettings.markers sharedSettings.suffix).perform
        { disk := sharedDirectory }).1 =
        .ok [Candidate.ofName "Foo.cs" "_doxy", Candidate.ofName "Foo_doxy.cs" "_doxy"] ∧
      sharedDirectory.content? (Bytes.ofText "S/Foo_doxy.cs") = some (Bytes.ofText "b\n") ∧
      (run sharedSettings false watch () sharedDirectory).disk.content? (Bytes.ofText "S/Foo_doxy.cs") =
        some (Bytes.ofText "\\file a\n") := by
  decide +kernel

end Retag.Batch
