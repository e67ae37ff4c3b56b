import Retag.Proofs.Batch.Records
import Retag.Proofs.Command.Printed

/-! Listing candidates beside running the batch, from the same disk. Both make the same checks and the
same selection before anything else, and what a run does behind that neither adds a failure nor changes
the plan, whatever its observer does to the disk.
-/

set_option autoImplicit false

namespace Retag

namespace Batch

theorem listCandidates_refused {settings : Settings} {failure : Failure}
    (invalid : settings.validate = .error failure) (world : World) :
    (listCandidates settings).perform world = (.error failure, world) := by
  rw [listCandidates, invalid]
  rfl

theorem listCandidates_selects {settings : Settings} {source : String}
    (valid : settings.validate = .ok ()) (given : settings.source = some source) (world : World) :
    (listCandidates settings).perform world =
      (Selection.select source settings.markers settings.suffix).perform world := by
  rw [listCandidates, valid, Settings.sourceDirectory, given]
  rfl

theorem outputDirectory_of_conversion {settings : Settings} {dryRun : Bool} {conversion : Conversion}
    (converts : settings.conversion dryRun = .ok conversion) :
    conversion.outputDirectory = settings.output := by
  obtain ⟨source, -, made⟩ := bind_eq_ok_iff.1 converts
  cases made
  rfl

variable {State : Type}

/-- Listing fails where the run does and with the same failure; else it gives the candidates that the run
converts. -/
theorem listing_cases (settings : Settings) (dryRun : Bool) (observe : Observer State) (state : State)
    (disk : Disk) :
    (∃ failure, ((listCandidates settings).perform { disk }).1 = .error failure ∧
      (run settings dryRun observe state disk).outcome = .error failure) ∨
    ∃ (conversion : Conversion) (candidates : List Candidate) (world : World),
      settings.conversion dryRun = .ok conversion ∧
      ((listCandidates settings).perform { disk }).1 = .ok candidates ∧
      run settings dryRun observe state disk =
        (runSelected conversion observe state world.disk candidates).after (world.log.map Notice.record) := by
  rcases run_cases settings dryRun observe state disk with
    ⟨problem, invalid, ran⟩ | ⟨valid, source, cause, world, given, selected, ran⟩ |
      ⟨valid, conversion, candidates, world, given, converts, selected, ran⟩
  · exact .inl ⟨_, by rw [listCandidates_refused invalid], by rw [ran]⟩
  · exact .inl ⟨_, by rw [listCandidates_selects valid given, selected], by rw [ran]⟩
  · exact .inr ⟨conversion, candidates, world, converts,
      by rw [listCandidates_selects valid given, selected], ran⟩

theorem runSelected_follows (conversion : Conversion) (observe : Observer State) (state : State)
    (disk : Disk) (candidates : List Candidate) :
    ∃ report files, (runSelected conversion observe state disk candidates).outcome = .ok report ∧
      (runSelected conversion observe state disk candidates).events = .started candidates.length :: files ++
        [.finished report.processed.length report.skipped.length] ∧
      files.length = candidates.length ∧
      ∀ (index : Nat) (candidate : Candidate), candidates[index]? = some candidate →
        ∃ event, files[index]? = some event ∧ event.TellsOf index candidate ∧
          ∀ file, event.written? = some file → file.output = conversion.outputPath candidate := by
  obtain ⟨report, -, told, finished, events, -⟩ := runSelected_spec conversion observe state disk candidates
  refine ⟨report, _, finished, events, told.length_eq, ?_⟩
  intro index candidate chosen
  obtain ⟨event, found, tells⟩ := told.tellsOf index candidate chosen
  rw [Nat.zero_add] at tells
  have stems := stems_of_get (convertAll_stems _ _ _ _ _ _) chosen found
  exact ⟨event, found, tells, fun file written => stems.output written⟩

end Batch

namespace Command

open Batch (Observer listCandidates)

theorem printed_list {settings : Settings} {disk : Disk} {candidates : List Candidate}
    (listed : ((listCandidates settings).perform { disk }).1 = .ok candidates) (json : Bool)
    (filter : Log.Filter) :
    (list settings json filter disk).printed .output = shown (candidateLines settings json candidates) := by
  have performed : (listCandidates settings).perform { disk } =
      (.ok candidates, ((listCandidates settings).perform { disk }).2) := Prod.ext listed rfl
  rw [list, performed, printed_output, shown_append, shown_logLines, List.nil_append]

theorem printed_list_json {settings : Settings} {disk : Disk} {candidates : List Candidate}
    (listed : ((listCandidates settings).perform { disk }).1 = .ok candidates) (filter : Log.Filter) :
    (list settings true filter disk).printed .output = candidates.map fun candidate =>
      (Message.candidate candidate.name (plannedOutput settings candidate)).json.text := by
  rw [printed_list listed, candidateLines, if_pos rfl, shown_map_message]

theorem printed_list_text {settings : Settings} {disk : Disk} {candidates : List Candidate}
    (listed : ((listCandidates settings).perform { disk }).1 = .ok candidates) (filter : Log.Filter) :
    (list settings false filter disk).printed .output =
      ("🔍 Candidates in " ++ settings.source.getD "") :: "" ::
        (candidates.map (fun candidate => "  " ++ candidate.name ++ " -> " ++ plannedOutput settings candidate) ++
          ["", "Found " ++ toString candidates.length ++ " candidate files"]) := by
  rw [printed_list listed, candidateLines, if_neg Bool.false_ne_true, shown_append, shown_append,
    shown_map_out]
  simp

/-- Listing the candidates fails just when running the batch from the same disk does, with the same
failure. Otherwise the run, dry or not and whatever its observer does to the disk, tells their number and
then of each in its turn, and every file that it reports as written is at the path that the listing prints
for it. -/
theorem list_agrees_with_run {State : Type} (settings : Settings) (dryRun : Bool)
    (observe : Observer State) (state : State) (disk : Disk) (filter : Log.Filter) :
    (∀ failure, ((listCandidates settings).perform { disk }).1 = .error failure ↔
      (Batch.run settings dryRun observe state disk).outcome = .error failure) ∧
    ∀ candidates, ((listCandidates settings).perform { disk }).1 = .ok candidates →
      ∃ report files, (Batch.run settings dryRun observe state disk).outcome = .ok report ∧
        (Batch.run settings dryRun observe state disk).events = .started candidates.length :: files ++
          [.finished report.processed.length report.skipped.length] ∧
        files.length = candidates.length ∧
        ∀ (index : Nat) (candidate : Candidate), candidates[index]? = some candidate →
          (∃ event, files[index]? = some event ∧ event.TellsOf index candidate ∧
            ∀ file, event.written? = some file →
              file.output = Path.join settings.output candidate.outputName) ∧
          ((list settings true filter disk).printed .output)[index]? =
            some (Json.object [("event", .string "candidate"), ("name", .string candidate.name),
              ("output", .string (Path.join settings.output candidate.outputName))]).text ∧
          ((list settings false filter disk).printed .output)[index + 2]? =
            some ("  " ++ candidate.name ++ " -> " ++ Path.join settings.output candidate.outputName) := by
  rcases Batch.listing_cases settings dryRun observe state disk with
    ⟨failure, refused, failed⟩ | ⟨conversion, candidates, world, converts, listed, ran⟩
  · refine ⟨fun other => ?_, fun candidates listed => ?_⟩
    · rw [refused, failed]
      simp
    · cases refused.symm.trans listed
  · obtain ⟨report, files, finished, events, length, each⟩ :=
      Batch.runSelected_follows conversion observe state world.disk candidates
    refine ⟨fun failure => ?_, fun other same => ?_⟩
    · rw [listed, ran]
      exact iff_of_false (by simp) (fun failed => nomatch finished.symm.trans failed)
    · cases listed.symm.trans same
      refine ⟨report, files, by rw [ran]; exact finished, ?_, length, fun index candidate chosen => ?_⟩
      · rw [ran, Batch.events_after, Batch.filterMap_record, List.nil_append, events]
      · obtain ⟨event, found, tells, outputs⟩ := each index candidate chosen
        refine ⟨⟨event, found, tells, fun file written => ?_⟩, ?_, ?_⟩
        · rw [outputs file written, Conversion.outputPath, Batch.outputDirectory_of_conversion converts]
        · rw [printed_list_json listed, List.getElem?_map, chosen]
          rfl
        · have inside : index < candidates.length := (List.getElem?_eq_some_iff.1 chosen).1
          rw [printed_list_text listed, List.getElem?_cons_succ, List.getElem?_cons_succ,
            List.getElem?_append_left (by simpa using inside), List.getElem?_map, chosen]
          rfl

end Command

end Retag
