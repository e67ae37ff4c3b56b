import Retag.Proofs.Command.Listing
import Retag.Proofs.Json.Unambiguity

/-! What a conversion prints for other programs, read as they read it: by the fields of its lines. The
counts of the last two lines, the status named there and the exit status are those of the lines before.
-/

set_option autoImplicit false

namespace Retag

/-! ## Reading a line -/

namespace Json

def field? (name : String) : Json → Option Json
  | .object fields => fields.lookup name
  | _ => none

def string? : Json → Option String
  | .string value => some value
  | _ => none

def textField? (name : String) (line : Json) : Option String := (line.field? name).bind string?

end Json

namespace Command

def kind? (line : Json) : Option String := line.textField? "event"

def reason? (line : Json) : Option String := (line.field? "file").bind (Json.textField? "reason")

/-- A line on its own that holds one object and can be read as nothing else. -/
structure ObjectLine (line : Json) : Prop where
  is_object : ∃ fields, line = .object fields
  spelled : line.Spells line.text.toList
  read_once : ∀ other : Json, other.Spells line.text.toList → other = line
  unbroken : '\n' ∉ line.text.toList

structure WarnsOf (warning : Settings.Warning) (line : Json) : Prop where
  kind : kind? line = some "config_warning"
  file : line.textField? "file" = some warning.file
  key : line.textField? "key" = some warning.key

/-- A conversion of `total` candidates told line by line, and its exit status. -/
structure Agree (total : Nat) (started : Json) (files : List Json) (finished summary : Json)
    (status : Nat) : Prop where
  started_kind : kind? started = some "started"
  started_total : started.field? "total" = some (.number total)
  one_line_each : files.length = total
  in_order : ∀ (index : Nat) (line : Json), files[index]? = some line →
    (kind? line = some "file_written" ∨ kind? line = some "file_skipped") ∧
      line.field? "index" = some (.number index)
  finished_kind : kind? finished = some "finished"
  summary_kind : kind? summary = some "convert"
  processed : ∀ line ∈ [finished, summary], line.field? "processed" =
    some (.number (files.countP fun file => kind? file = some "file_written"))
  skipped : ∀ line ∈ [finished, summary], line.field? "skipped" =
    some (.number (files.countP fun file => kind? file = some "file_skipped"))
  write_failures : summary.field? "write_failures" =
    some (.number (files.countP fun file =>
      kind? file = some "file_skipped" && reason? file = some "write_failed"))
  success : (∀ file ∈ files, kind? file ≠ some "file_skipped") →
    summary.textField? "status" = some "success" ∧ status = 0
  shortfall : (∃ file ∈ files, kind? file = some "file_skipped") →
    summary.textField? "status" = some "partial" ∧ status = 2

/-- What a conversion tells behind the warnings: nothing, and the status is one, where the listing of
candidates is refused; else of each of the listed ones. -/
def Follows (settings : Settings) (disk : Disk) (lines : List Json) (status : Nat) : Prop :=
  match ((Batch.listCandidates settings).perform { disk }).1 with
  | .error _ => lines = [] ∧ status = 1
  | .ok candidates => ∃ started files finished summary, lines = started :: files ++ [finished, summary] ∧
      Agree candidates.length started files finished summary status

theorem message_objectLine (message : Message) : ObjectLine message.json := by
  have spells := Json.spells_text message.json
  refine ⟨?_, spells, fun other read => read.unique spells, spells.one_line⟩
  cases message with
  | batch event => cases event <;> exact ⟨_, rfl⟩
  | _ => exact ⟨_, rfl⟩

theorem message_warnsOf (warning : Settings.Warning) : WarnsOf warning (Message.warning warning).json :=
  ⟨rfl, rfl, rfl⟩

/-! ## Lines of events -/

open Batch (Event Told Report)

def eventLines (events : List Event) : List Json := events.map fun event => (Message.batch event).json

@[simp] theorem kind_fileWritten (index : Nat) (file : Converted) :
    kind? (Message.batch (.fileWritten index file)).json = some "file_written" := rfl

@[simp] theorem kind_fileSkipped (index : Nat) (file : Batch.Skipped) :
    kind? (Message.batch (.fileSkipped index file)).json = some "file_skipped" := rfl

@[simp] theorem reason_fileSkipped (index : Nat) (file : Batch.Skipped) :
    reason? (Message.batch (.fileSkipped index file)).json = some (Message.reasonName file.reason) := rfl

theorem kind_of_tells {event : Event} {index : Nat} {candidate : Candidate}
    (tells : event.TellsOf index candidate) :
    (kind? (Message.batch event).json = some "file_written" ∨
      kind? (Message.batch event).json = some "file_skipped") ∧
      (Message.batch event).json.field? "index" = some (.number index) := by
  cases event with
  | fileWritten position file => exact ⟨.inl rfl, congrArg (some ∘ Json.number) tells.1⟩
  | fileSkipped position file => exact ⟨.inr rfl, congrArg (some ∘ Json.number) tells.1⟩
  | _ => exact tells.elim

variable {index : Nat} {candidates : List Candidate} {events : List Event} {report : Report}

theorem written_count (told : Told index candidates events report) :
    (eventLines events).countP (fun line => kind? line = some "file_written") =
      report.processed.length := by
  induction told with
  | done => rfl
  | written _ _ ih => simpa [eventLines] using ih
  | skipped _ _ ih => simpa [eventLines] using ih

theorem skipped_count (told : Told index candidates events report) :
    (eventLines events).countP (fun line => kind? line = some "file_skipped") =
      report.skipped.length := by
  induction told with
  | done => rfl
  | written _ _ ih => simpa [eventLines] using ih
  | skipped _ _ ih => simpa [eventLines] using ih

theorem writeFailures_count (told : Told index candidates events report) :
    (eventLines events).countP (fun line =>
      kind? line = some "file_skipped" && reason? line = some "write_failed") = report.writeFailures := by
  induction told with
  | done => rfl
  | written _ _ ih => simpa [eventLines, Report.writeFailures] using ih
  | @skipped _ _ _ _ _ file _ _ ih =>
    cases reason : file.reason with
    | unreadable => simpa [eventLines, Report.writeFailures, Message.reasonName, reason] using ih
    | writeFailed => simpa [eventLines, Report.writeFailures, Message.reasonName, reason] using ih

theorem isSuccess_iff_lines (told : Told index candidates events report) :
    report.isSuccess = true ↔ ∀ line ∈ eventLines events, kind? line ≠ some "file_skipped" := by
  rw [Report.isSuccess, List.isEmpty_iff, ← List.length_eq_zero_iff, ← skipped_count told, List.countP_eq_zero]
  simp only [decide_eq_true_eq]

theorem agree_of_told (told : Told 0 candidates events report) (dryRun : Bool) :
    Agree candidates.length (Message.batch (.started candidates.length)).json (eventLines events)
      (Message.batch (.finished report.processed.length report.skipped.length)).json
      (Message.converted dryRun report).json (if report.isSuccess then 0 else partialStatus) where
  started_kind := rfl
  started_total := rfl
  one_line_each := by rw [eventLines, List.length_map, told.length_eq]
  in_order := by
    intro index line found
    rw [eventLines, List.getElem?_map, Option.map_eq_some_iff] at found
    obtain ⟨event, found, rfl⟩ := found
    -- The candidate at this position is told of here, and only here.
    have inside : index < candidates.length := told.length_eq ▸ (List.getElem?_eq_some_iff.1 found).1
    obtain ⟨other, same, tells⟩ := told.tellsOf index _ (List.getElem?_eq_getElem inside)
    cases found.symm.trans same
    rw [Nat.zero_add] at tells
    exact kind_of_tells tells
  finished_kind := rfl
  summary_kind := rfl
  processed := by
    rw [written_count told]
    exact List.forall_mem_cons.2 ⟨rfl, List.forall_mem_singleton.2 rfl⟩
  skipped := by
    rw [skipped_count told]
    exact List.forall_mem_cons.2 ⟨rfl, List.forall_mem_singleton.2 rfl⟩
  write_failures := by
    rw [writeFailures_count told]
    rfl
  success := by
    intro none
    have success := (isSuccess_iff_lines told).2 none
    rw [Message.json, success]
    exact ⟨rfl, rfl⟩
  shortfall := by
    rintro ⟨line, among, skipped⟩
    have failed : ¬ report.isSuccess = true := fun success =>
      (isSuccess_iff_lines told).1 success line among skipped
    rw [Message.json, if_neg failed, if_neg failed]
    exact ⟨rfl, rfl⟩

/-! ## What a conversion prints -/

section Printing

variable {settings : Settings} {dryRun : Bool} {disk : Disk}

theorem convert_invalid {failure : Failure} (invalid : settings.validate = .error failure)
    (dryRun : Bool) (filter : Log.Filter) (disk : Disk) :
    (convert settings true dryRun filter disk).printed .output = [] ∧
      (convert settings true dryRun filter disk).status = failedStatus := by
  have refused : convert settings true dryRun filter disk =
      ⟨Trouble.ofFailure failure, failedStatus, disk⟩ := by
    simp only [convert, invalid]
  rw [refused]
  exact ⟨shown_ofFailure _, rfl⟩

theorem convert_failed {failure : Failure} (valid : settings.validate = .ok ())
    (failed : (Batch.run settings dryRun Batch.watch () disk).outcome = .error failure)
    (filter : Log.Filter) :
    (convert settings true dryRun filter disk).printed .output =
        (eventLines (Batch.run settings dryRun Batch.watch () disk).events).map Json.text ∧
      (convert settings true dryRun filter disk).status = failedStatus := by
  simp only [convert, valid, failed, printed_output, if_true, shown_append, shown_notices, shown_ofFailure,
    List.nil_append, List.append_nil, eventLines, List.map_map]
  exact ⟨rfl, trivial⟩

theorem convert_finished (valid : settings.validate = .ok ())
    (finished : (Batch.run settings dryRun Batch.watch () disk).outcome = .ok report)
    (filter : Log.Filter) :
    (convert settings true dryRun filter disk).printed .output =
        (eventLines (Batch.run settings dryRun Batch.watch () disk).events ++
          [(Message.converted dryRun report).json]).map Json.text ∧
      (convert settings true dryRun filter disk).status =
        if report.isSuccess then 0 else partialStatus := by
  simp only [convert, valid, finished, printed_output, if_true, shown_append, shown_nil, shown_notices,
    closing, shown_cons_message, List.nil_append, eventLines, List.map_append, List.map_map]
  exact ⟨rfl, trivial⟩

theorem eventLines_objectLine (events : List Event) : ∀ line ∈ eventLines events, ObjectLine line := by
  intro line among
  obtain ⟨event, -, rfl⟩ := List.mem_map.1 among
  exact message_objectLine _

theorem convert_follows (settings : Settings) (dryRun : Bool) (filter : Log.Filter) (disk : Disk) :
    ∃ lines : List Json,
      (convert settings true dryRun filter disk).printed .output = lines.map Json.text ∧
      (∀ line ∈ lines, ObjectLine line) ∧
      Follows settings disk lines (convert settings true dryRun filter disk).status := by
  unfold Follows
  rcases Batch.run_cases settings dryRun Batch.watch () disk with
    ⟨problem, invalid, -⟩ | ⟨valid, source, cause, world, given, selected, ran⟩ |
      ⟨valid, conversion, candidates, world, given, -, selected, ran⟩
  · obtain ⟨printed, status⟩ := convert_invalid invalid dryRun filter disk
    rw [Batch.listCandidates_refused invalid]
    exact ⟨[], printed, List.forall_mem_nil _, rfl, status⟩
  · obtain ⟨printed, status⟩ := convert_failed valid (by rw [ran]) filter
    have quiet : (Batch.run settings dryRun Batch.watch () disk).events = [] := by
      rw [ran]
      exact Batch.filterMap_record _
    rw [Batch.listCandidates_selects valid given, selected]
    exact ⟨[], by rw [printed, quiet]; rfl, List.forall_mem_nil _, rfl, status⟩
  · obtain ⟨report, -, told, finished, events, -⟩ :=
      Batch.runSelected_spec conversion Batch.watch () world.disk candidates
    obtain ⟨printed, status⟩ := convert_finished valid (by rw [ran]; exact finished) filter
    rw [Batch.listCandidates_selects valid given, selected]
    rw [ran, Batch.events_after, Batch.filterMap_record, List.nil_append, events] at printed
    refine ⟨_, printed, ?_, _, _, _, _, ?_, status ▸ agree_of_told told dryRun⟩
    · intro line among
      rcases List.mem_append.1 among with among | among
      · exact eventLines_objectLine _ line among
      · rw [List.mem_singleton.1 among]
        exact message_objectLine _
    · simp [eventLines]

end Printing

/-- What a conversion prints for other programs: a line for each warning about its settings, then nothing
where loading, checking or listing failed, else the start, a line for each candidate in order, the end and
a summary. Each line is one JSON object, and counts, status and exit status agree with the lines of the
candidates. -/
theorem convert_stream {words : List String} {request : Request} {overrides : Overrides} {dryRun : Bool}
    (accepted : Arguments.read words = .ok request) (asked : request.order = .convert overrides dryRun)
    (json : request.json = true) (environment : Environment) (disk : Disk) :
    ∃ lines : List Json, (run words environment disk).printed .output = lines.map Json.text ∧
      (∀ line ∈ lines, ObjectLine line) ∧
      match (request.settings environment).perform { disk } with
      | (.error _, _) => lines = [] ∧ (run words environment disk).status = 1
      | (.ok (settings, warnings), loaded) => ∃ told rest, lines = told ++ rest ∧
          List.Forall₂ WarnsOf warnings told ∧
          Follows settings loaded.disk rest (run words environment disk).status := by
  have ran : run words environment disk = fulfil request environment disk := by rw [run, accepted]
  rw [ran]
  unfold fulfil
  cases performed : (request.settings environment).perform { disk } with
  | mk loading loaded =>
    cases loading with
    | error failure =>
      refine ⟨[], ?_, List.forall_mem_nil _, rfl, rfl⟩
      simp only [printed_output, shown_append, shown_logLines, shown_ofLoading]
      rfl
    | ok found =>
      obtain ⟨settings, warnings⟩ := found
      obtain ⟨lines, printed, objects, follows⟩ :=
        convert_follows settings dryRun (Log.Filter.choose environment request.verbosity) loaded.disk
      have performs : perform request settings (.choose environment request.verbosity) loaded.disk =
          convert settings true dryRun (.choose environment request.verbosity) loaded.disk := by
        rw [perform, asked, json]
      simp only [performs, printed_after, shown_append, shown_logLines, List.nil_append, json,
        shown_warningLines, printed]
      refine ⟨warnings.map (fun warning => (Message.warning warning).json) ++ lines, ?_, ?_, _, lines, rfl,
        ?_, follows⟩
      · rw [List.map_append, List.map_map]
        rfl
      · intro line among
        rcases List.mem_append.1 among with among | among
        · obtain ⟨warning, -, rfl⟩ := List.mem_map.1 among
          exact message_objectLine _
        · exact objects line among
      · rw [List.forall₂_map_right_iff, List.forall₂_same]
        intro warning _
        exact message_warnsOf warning

/-- Two sources, a directory in the place of the second one's output, and a misspelt key. -/
def blockedOutput : Disk where
  files := (((((FileSystem.empty.put [.plain (Bytes.ofText "S")] .directory).put
    [.plain (Bytes.ofText "o")] .directory).put
    [.plain (Bytes.ofText "A.cs"), .plain (Bytes.ofText "S")] (.file (Bytes.ofText "File: a"))).put
    [.plain (Bytes.ofText "B.cs"), .plain (Bytes.ofText "S")] (.file (Bytes.ofText "b"))).put
    [.plain (Bytes.ofText "B_doxy.cs"), .plain (Bytes.ofText "o")] .directory).put
    [.plain (Bytes.ofText "doxytag.toml")] (.file (Bytes.ofText "sufix = 1"))
  workingDirectory := []

def blockedWords : List String := ["convert", "--json", "-s", "S", "-o", "o"]

def blockedOverrides : Overrides := { source := some "S", output := some "o" }

theorem convert_stream_blocked :
    Arguments.read blockedWords = .ok { order := .convert blockedOverrides false, json := true } ∧
      (run blockedWords ⟨[], none⟩ blockedOutput).status = 2 ∧
      ∃ lines : List Json, lines.length = 6 ∧
        (run blockedWords ⟨[], none⟩ blockedOutput).printed .output = lines.map Json.text ∧
        ∀ line ∈ lines, ObjectLine line := by
  have accepted : Arguments.read blockedWords =
      .ok { order := .convert blockedOverrides false, json := true } := by decide +kernel
  have counted : ((run blockedWords ⟨[], none⟩ blockedOutput).printed .output).length = 6 := by
    decide +kernel
  obtain ⟨lines, printed, objects, -⟩ := convert_stream accepted rfl rfl ⟨[], none⟩ blockedOutput
  rw [printed, List.length_map] at counted
  exact ⟨accepted, by decide +kernel, lines, counted, printed, objects⟩

end Command

end Retag
