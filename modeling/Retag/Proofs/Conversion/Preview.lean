import Retag.Proofs.Conversion.Quiet

/-! A dry run of a conversion beside the conversion itself, from the same disk. The one reads its source
in place, the other reads a copy after the previous output is gone; both retag the same bytes. What
keeps the dry run from reading its source keeps the conversion from copying it.
-/

set_option autoImplicit false

namespace Retag.Conversion

open Retag.Action (FailsOnly ReadsOnly)

def preview (conversion : Conversion) : Conversion := { conversion with dryRun := true }

def enacted (conversion : Conversion) : Conversion := { conversion with dryRun := false }

variable {conversion : Conversion} {candidate : Candidate}

/-! ## What a dry run leaves alone, and how it fails -/

theorem transfer_readsOnly (tally : Document.Tally) (parts : List Bytes) :
    ReadsOnly (conversion.transfer candidate none tally parts) := by
  induction parts generalizing tally with
  | nil => exact .bind (.attempt Disk.proceed_reads) fun _ => .pure tally
  | cons part parts ih =>
    exact .bind (.attempt Disk.proceed_reads) fun _ => .bind (.pure ()) fun _ => ih _

theorem notes_readsOnly (records : List Log.Record) : ReadsOnly (records.forM Action.note) := by
  intro world
  refine ⟨world.disk.faults, world.log ++ records, List.suffix_rfl, ?_⟩
  rw [Action.perform_notes]

theorem run_readsOnly (dry : conversion.dryRun = true) : ReadsOnly (conversion.run candidate) := by
  refine .bind (.attempt (Disk.openEntry_reads _)) fun source => .bind ?_ fun tally => ?_
  · rw [convert, dry, if_pos rfl]
    exact .bind (.attempt (Disk.read_reads source)) fun _ => transfer_readsOnly _ _
  · exact .bind (notes_readsOnly _) fun _ => .pure _

def BlamesSource (conversion : Conversion) (candidate : Candidate) (failure : Failure) : Prop :=
  ∃ cause, failure = .unreadable (conversion.sourcePath candidate) cause

theorem transfer_blamesSource (tally : Document.Tally) (parts : List Bytes) :
    FailsOnly (conversion.BlamesSource candidate) (conversion.transfer candidate none tally parts) := by
  induction parts generalizing tally with
  | nil => exact .bind (.attempt fun cause => ⟨cause, rfl⟩) fun _ => .pure tally
  | cons part parts ih =>
    exact .bind (.attempt fun cause => ⟨cause, rfl⟩) fun _ => .bind (.pure ()) fun _ => ih _

theorem run_blamesSource (dry : conversion.dryRun = true) :
    FailsOnly (conversion.BlamesSource candidate) (conversion.run candidate) := by
  refine .bind (.attempt fun cause => ⟨cause, rfl⟩) fun source => .bind ?_ fun tally => ?_
  · rw [convert, dry, if_pos rfl]
    exact .bind (.attempt fun cause => ⟨cause, rfl⟩) fun _ => transfer_blamesSource _ _
  · exact .bind (.notes _) fun _ => .pure _

/-! ## Side by side -/

variable {world final : World} {source : Location} {content : Bytes}

theorem run_of_readable (dry : conversion.dryRun = true) (noFaults : world.disk.faults = [])
    (resolved : world.disk.resolve (Bytes.ofText (conversion.sourcePath candidate)) = .ok source)
    (read : world.disk.files.get? source = some (.file content)) :
    ((conversion.run candidate).perform world).1 = .ok ⟨candidate.name, conversion.outputPath candidate,
      (Document.retag conversion.table conversion.lineEnding content).2.lines,
      (Document.retag conversion.table conversion.lineEnding content).2.changedLines⟩ := by
  have shown : world.disk.files.get? = showing world.disk.files.get? none [] := rfl
  obtain ⟨tally, later, performed⟩ := transform_quiet conversion candidate noFaults shown read
  obtain ⟨written, -, result⟩ := transform_becomes shown performed
  obtain ⟨other, stands, same⟩ := result tally rfl
  cases read.symm.trans stands
  have counted : tally = (Document.retag conversion.table conversion.lineEnding content).2 :=
    congrArg Prod.snd same
  obtain ⟨log, described⟩ := perform_describe conversion candidate tally later
  rw [run, Action.perform_bind_of_ok (openSource_quiet noFaults resolved read), convert, dry, if_pos rfl,
    Action.perform_bind_of_ok performed, Action.perform_bind_of_ok described, counted]
  rfl

theorem preview_of_enacted {file : Converted} (noFaults : world.disk.faults = [])
    (performed : ((conversion.enacted.run candidate).perform world).1 = .ok file) :
    ((conversion.preview.run candidate).perform world).1 = .ok file := by
  rcases run_effect rfl (Prod.ext performed rfl) with ⟨failure, view, same, -⟩ |
    ⟨source, content, place, resolved, read, -, -, same, -⟩
  · cases same
  · cases same
    exact run_of_readable rfl noFaults resolved read

theorem read_congr {first second : Disk} (noFaults : first.faults = []) (noFaults' : second.faults = [])
    (same : first.files.get? source = second.files.get? source) :
    (Disk.read source first).1 = (Disk.read source second).1 := by
  rw [Disk.read, Disk.call_quiet noFaults, Disk.call_quiet noFaults', same]
  cases second.files.get? source with
  | none => rfl
  | some entry => cases entry <;> rfl

def BlamesCopy (conversion : Conversion) (candidate : Candidate) (failure : Failure) : Prop :=
  ∃ cause, failure = .unwritable (Path.join conversion.outputDirectory candidate.tempName) cause

theorem write_of_unreadable (conversion : Conversion) (candidate : Candidate) {cause : IoError}
    (noFaults : world.disk.faults = []) (opened : world.disk.files.get? source ≠ none)
    (unread : (Disk.read source world.disk).1 = .error cause) :
    ∃ failure, ((conversion.write candidate source).perform world).1 = .error failure ∧
      (failure = .unreadable (conversion.sourcePath candidate) cause ∨
        conversion.BlamesCopy candidate failure) := by
  cases creates : conversion.copyCall candidate world.disk with
  | mk made disk =>
    cases made with
    | error error =>
      have created : (conversion.createCopy candidate).perform world =
          (.error (.unwritable (Path.join conversion.outputDirectory candidate.tempName) error),
            { world with disk }) :=
        Action.perform_attempt_of_error creates _
      refine ⟨_, ?_, .inr ⟨error, rfl⟩⟩
      rw [write, Action.withTemporary, Action.perform_bind_of_error created]
    | ok copy =>
      obtain ⟨-, absent, -, -, becomes⟩ := Disk.createTemporary_ok creates
      have created : (conversion.createCopy candidate).perform world = (.ok copy, { world with disk }) :=
        Action.perform_attempt_of_ok creates _
      -- The copy is an entry of its own, so the source is as unreadable behind it as it was before.
      have stands : disk.files.get? source = world.disk.files.get? source := by
        rw [becomes.files, Function.update_of_ne (by rintro rfl; exact opened absent)]
      have unread' : (Disk.read source disk).1 = .error cause := by
        rw [read_congr (becomes.quiet noFaults) noFaults stands, unread]
      have failed : Disk.read source disk = (.error cause, (Disk.read source disk).2) := Prod.ext unread' rfl
      have stopped : (Action.attempt (.unreadable (conversion.sourcePath candidate))
          (Disk.read source)).perform { world with disk } =
            (.error (.unreadable (conversion.sourcePath candidate) cause),
              { world with disk := (Disk.read source disk).2 }) :=
        Action.perform_attempt_of_error failed _
      refine ⟨_, ?_, .inl rfl⟩
      rw [write, Action.perform_withTemporary_of_ok created, copyContent,
        Action.perform_bind_of_error (Action.perform_bind_of_error stopped)]

/-- A conversion whose dry run fails fails too: for the same cause, unless not even its temporary copy
could be made. -/
theorem enacted_of_preview {failure : Failure} (noFaults : world.disk.faults = [])
    (performed : ((conversion.preview.run candidate).perform world).1 = .error failure) :
    ∃ other, ((conversion.enacted.run candidate).perform world).1 = .error other ∧
      (other = failure ∨ conversion.BlamesCopy candidate other) := by
  have opening : (conversion.preview.run candidate).perform world =
      (.error failure, ((conversion.preview.run candidate).perform world).2) := Prod.ext performed rfl
  rcases Action.perform_bind_cases opening with ⟨reached, stopped, same⟩ | ⟨source, opened, begun, rest⟩
  · cases same
    refine ⟨failure, ?_, .inl rfl⟩
    have stopped' : (Action.attempt (.unreadable (conversion.enacted.sourcePath candidate))
        (Disk.openEntry (Bytes.ofText (conversion.enacted.sourcePath candidate)))).perform world =
          (.error failure, ((conversion.preview.run candidate).perform world).2) := stopped
    rw [run, Action.perform_bind_of_error stopped']
  obtain ⟨resolved, present, same⟩ := Disk.openEntry_ok (Action.perform_attempt_ok begun)
  have noFaults' : opened.disk.faults = [] := by rw [same]; simp [noFaults]
  have present' : opened.disk.files.get? source ≠ none := by rw [same]; exact present
  -- A source that can be read is counted to its end, so the dry run failed at the first reading.
  cases unread : (Disk.read source opened.disk).1 with
  | ok content =>
    obtain ⟨stands, -⟩ := Disk.read_ok (Prod.ext unread rfl)
    rw [same] at stands
    have dry : conversion.preview.dryRun = true := rfl
    have counted := run_of_readable dry noFaults resolved stands
    cases performed.symm.trans counted
  | error cause =>
    have first : (conversion.preview.convert candidate source).perform opened =
        (.error (.unreadable (conversion.sourcePath candidate) cause),
          { opened with disk := (Disk.read source opened.disk).2 }) :=
      Action.perform_bind_of_error (Action.perform_attempt_of_error (Prod.ext unread rfl) _)
    have same : failure = .unreadable (conversion.sourcePath candidate) cause := by
      rw [Action.perform_bind_of_error first] at rest
      exact (Except.error.inj (congrArg Prod.fst rest)).symm
    obtain ⟨other, written, blames⟩ :=
      write_of_unreadable conversion.enacted candidate noFaults' present' unread
    refine ⟨other, ?_, ?_⟩
    · have begun' : (Action.attempt (.unreadable (conversion.enacted.sourcePath candidate))
          (Disk.openEntry (Bytes.ofText (conversion.enacted.sourcePath candidate)))).perform world =
            (.ok source, opened) := begun
      have converted : (conversion.enacted.convert candidate source).perform opened =
          (.error other, ((conversion.enacted.write candidate source).perform opened).2) :=
        Prod.ext written rfl
      rw [run, Action.perform_bind_of_ok begun', Action.perform_bind_of_error converted]
    · rw [same]
      exact blames

end Retag.Conversion
