import Retag.Proofs.Batch.Records
import Retag.Proofs.Conversion.Preview

/-! Dry runs of a batch. They only read: the disk behind one is the disk it began on, unless the observer
changes it, and what they skip they could not read. What a dry run says of a candidate is what the run
would say on the same disk.
-/

set_option autoImplicit false

namespace Retag.Batch

variable {State : Type}

def Observer.Watches (observe : Observer State) : Prop :=
  ∀ event state disk, (observe event state disk).2 = disk

variable {conversion : Conversion} {observe : Observer State}

theorem convertAll_keeps (dry : conversion.dryRun = true) (watches : observe.Watches) (state : State)
    (disk : Disk) (index : Nat) (candidates : List Candidate) :
    ∃ faults, (convertAll conversion observe state disk index candidates).disk = { disk with faults } := by
  induction candidates generalizing state disk index with
  | nil => exact ⟨disk.faults, rfl⟩
  | cons candidate rest ih =>
    have reads : Action.ReadsOnly (conversion.run candidate) := Conversion.run_readsOnly dry
    rcases convertAll_cons conversion observe state disk index candidate rest with
      ⟨file, world, performed, -, turn⟩ | ⟨failure, file, record, world, performed, -, -, turn⟩
    · obtain ⟨faults, -, same⟩ := reads.disk_eq performed
      rw [turn, Run.after, Run.adding]
      obtain ⟨faults', onward⟩ := ih (observe (.fileWritten index file) state world.disk).1
        (observe (.fileWritten index file) state world.disk).2 (index + 1)
      exact ⟨faults', by rw [onward, watches, same]⟩
    · obtain ⟨faults, -, same⟩ := reads.disk_eq performed
      rw [turn, Run.after, Run.adding]
      obtain ⟨faults', onward⟩ := ih (observe (.fileSkipped index file) state world.disk).1
        (observe (.fileSkipped index file) state world.disk).2 (index + 1)
      exact ⟨faults', by rw [onward, watches, same]⟩

theorem runSelected_keeps (dry : conversion.dryRun = true) (watches : observe.Watches) (state : State)
    (disk : Disk) (candidates : List Candidate) :
    ∃ faults, (runSelected conversion observe state disk candidates).disk = { disk with faults } := by
  obtain ⟨report, -, -, -, -, -, final⟩ := runSelected_spec conversion observe state disk candidates
  obtain ⟨faults, kept⟩ := convertAll_keeps dry watches
    (observe (.started candidates.length) state disk).1 disk 0 candidates
  have begins : ready conversion disk = disk := by rw [ready, dry, if_pos rfl]
  refine ⟨faults, ?_⟩
  rw [final, watches, convertSelected, begins, watches, kept]

theorem reason_of_stems (dry : conversion.dryRun = true) {candidate : Candidate} {event : Event}
    {file : Skipped} (stems : event.Stems conversion candidate) (skipped : event.skipped? = some file) :
    file.reason = .unreadable := by
  obtain ⟨world, records⟩ := stems
  cases event with
  | fileSkipped index told =>
    cases skipped
    obtain ⟨failure, record, failed, skips⟩ := records
    obtain ⟨cause, rfl⟩ := Conversion.run_blamesSource dry world failure _ (Prod.ext failed rfl)
    cases skips
    rfl
  | started total => cases skipped
  | fileWritten index told => cases skipped
  | finished processed skipped => cases skipped

theorem run_dry (settings : Settings) (watches : observe.Watches) (state : State) (disk : Disk) :
    (∃ faults, (run settings true observe state disk).disk = { disk with faults }) ∧
      ∀ report, (run settings true observe state disk).outcome = .ok report →
        ∀ file ∈ report.skipped, file.reason = .unreadable := by
  rcases run_cases settings true observe state disk with
    ⟨problem, -, ran⟩ | ⟨-, source, cause, world, -, selected, ran⟩ |
      ⟨-, conversion, candidates, world, -, converts, selected, ran⟩
  · rw [ran]
    exact ⟨⟨disk.faults, rfl⟩, fun report reported => nomatch reported⟩
  · obtain ⟨faults, -, same⟩ := Selection.select_readsOnly.disk_eq selected
    rw [ran]
    exact ⟨⟨faults, same⟩, fun report reported => nomatch reported⟩
  · have dry := dryRun_of_conversion converts
    obtain ⟨faults, -, same⟩ := Selection.select_readsOnly.disk_eq selected
    obtain ⟨faults', kept⟩ := runSelected_keeps dry watches state world.disk candidates
    rw [ran]
    refine ⟨⟨faults', ?_⟩, fun report reported file member => ?_⟩
    · rw [Run.after, kept, same]
    · obtain ⟨other, -, told, finished, -⟩ :=
        runSelected_spec conversion observe state world.disk candidates
      cases finished.symm.trans reported
      rw [told.skipped_eq] at member
      obtain ⟨event, listed, skipped⟩ := List.mem_filterMap.1 member
      obtain ⟨candidate, -, stems⟩ := stems_of_mem (convertAll_stems _ _ _ _ _ _) listed
      exact reason_of_stems dry stems skipped

/-- A dry run of a batch leaves the files as they are and never skips a file because it could not be
written. Of a single candidate, on any disk without faults, it reports just what the conversion would
report if it succeeds; and where it fails the conversion fails too, for the same cause unless the
temporary copy could not be made. -/
theorem dry_run_previews (settings : Settings) (disk : Disk) (conversion : Conversion)
    (candidate : Candidate) (world : World) (noFaults : world.disk.faults = []) :
    ((run settings true watch () disk).disk.files = disk.files ∧
      (run settings true watch () disk).disk.workingDirectory = disk.workingDirectory ∧
      ∀ report, (run settings true watch () disk).outcome = .ok report →
        (∀ file ∈ report.skipped, file.reason = .unreadable) ∧ report.writeFailures = 0) ∧
    ((conversion.preview.run candidate).perform world).2.disk.files = world.disk.files ∧
    (∀ file, ((conversion.enacted.run candidate).perform world).1 = .ok file →
      ((conversion.preview.run candidate).perform world).1 = .ok file) ∧
    ∀ failure, ((conversion.preview.run candidate).perform world).1 = .error failure →
      ∃ other, ((conversion.enacted.run candidate).perform world).1 = .error other ∧
        (other = failure ∨ conversion.BlamesCopy candidate other) := by
  have watches : Observer.Watches watch := fun _ _ _ => rfl
  obtain ⟨⟨faults, kept⟩, skips⟩ := run_dry settings watches () disk
  refine ⟨⟨by rw [kept], by rw [kept], fun report reported => ?_⟩, ?_, ?_, ?_⟩
  · have unreadable := skips report reported
    refine ⟨unreadable, ?_⟩
    rw [Report.writeFailures, List.length_eq_zero_iff, List.filter_eq_nil_iff]
    intro file member
    simp [unreadable file member]
  · have reads : Action.ReadsOnly (conversion.preview.run candidate) := Conversion.run_readsOnly rfl
    obtain ⟨faults, log, -, same⟩ := reads world
    rw [same]
  · exact fun file => Conversion.preview_of_enacted noFaults
  · exact fun failure => Conversion.enacted_of_preview noFaults

/-- A source directory whose one file is a link to the output that it was converted to before. -/
def linkedSource : Disk where
  files := (((FileSystem.empty.put [.plain (Bytes.ofText "S")] .directory).put
    [.plain (Bytes.ofText "o")] .directory).put
    [.plain (Bytes.ofText "A_doxy.cs"), .plain (Bytes.ofText "o")] (.file (Bytes.ofText "File: a\n\nb"))).put
    [.plain (Bytes.ofText "A.cs"), .plain (Bytes.ofText "S")] (.link (Bytes.ofText "/o/A_doxy.cs"))
  workingDirectory := []

def linkedConversion : Conversion :=
  { sourceDirectory := "S", outputDirectory := "o", table := Table.builtin }

theorem dry_run_previews_linked :
    linkedSource.faults = [] ∧
      ((linkedConversion.enacted.run (Candidate.ofName "A.cs" "_doxy")).perform { disk := linkedSource }).1 =
        .ok ⟨"A.cs", "o/A_doxy.cs", 3, 1⟩ ∧
      ((linkedConversion.preview.run (Candidate.ofName "A.cs" "_doxy")).perform { disk := linkedSource }).1 =
        .ok ⟨"A.cs", "o/A_doxy.cs", 3, 1⟩ ∧
      (run { source := some "S", output := "o" } true watch () linkedSource).disk.files =
        linkedSource.files := by
  have noFaults : linkedSource.faults = [] := rfl
  have enacted : ((linkedConversion.enacted.run (Candidate.ofName "A.cs" "_doxy")).perform
      { disk := linkedSource }).1 = .ok ⟨"A.cs", "o/A_doxy.cs", 3, 1⟩ := by decide +kernel
  obtain ⟨⟨kept, -⟩, -, previewed, -⟩ := dry_run_previews { source := some "S", output := "o" } linkedSource
    linkedConversion (Candidate.ofName "A.cs" "_doxy") { disk := linkedSource } noFaults
  exact ⟨noFaults, enacted, previewed _ enacted, kept⟩

end Retag.Batch
