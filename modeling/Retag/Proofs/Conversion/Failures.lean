import Retag.Conversion.Basic
import Retag.Proofs.Action.Perform

/-! How a conversion can fail: its source cannot be read, or its output or the temporary copy cannot
be written. Each failure names the path of that side, and none of them ends a batch.
-/

set_option autoImplicit false

namespace Retag.Conversion

open Retag.Action (FailsOnly)

def Blames (conversion : Conversion) (candidate : Candidate) (failure : Failure) : Prop :=
  ∃ cause, failure = .unreadable (conversion.sourcePath candidate) cause ∨
    failure = .unwritable (conversion.outputPath candidate) cause ∨
    failure = .unwritable (Path.join conversion.outputDirectory candidate.tempName) cause

variable {conversion : Conversion} {candidate : Candidate}

theorem Blames.isFatal_eq_false {failure : Failure} (blames : conversion.Blames candidate failure) :
    failure.isFatal = false := by
  obtain ⟨cause, rfl | rfl | rfl⟩ := blames <;> rfl

private theorem blames_source (cause : IoError) :
    conversion.Blames candidate (.unreadable (conversion.sourcePath candidate) cause) :=
  ⟨cause, .inl rfl⟩

private theorem blames_output (cause : IoError) :
    conversion.Blames candidate (.unwritable (conversion.outputPath candidate) cause) :=
  ⟨cause, .inr (.inl rfl)⟩

private theorem blames_copy (cause : IoError) :
    conversion.Blames candidate
      (.unwritable (Path.join conversion.outputDirectory candidate.tempName) cause) :=
  ⟨cause, .inr (.inr rfl)⟩

theorem emit_failsOnly (target? : Option Location) (bytes : Bytes) :
    FailsOnly (conversion.Blames candidate) (conversion.emit candidate target? bytes) := by
  cases target? with
  | none => exact .pure ()
  | some target =>
    rw [emit]
    exact .attempt blames_output

theorem transfer_failsOnly (target? : Option Location) (tally : Document.Tally) (parts : List Bytes) :
    FailsOnly (conversion.Blames candidate) (conversion.transfer candidate target? tally parts) := by
  induction parts generalizing tally with
  | nil => exact .bind (.attempt blames_source) fun _ => .pure tally
  | cons part parts ih =>
    exact .bind (.attempt blames_source) fun _ => .bind (emit_failsOnly target? _) fun _ => ih _

theorem transform_failsOnly (source : Location) (target? : Option Location) :
    FailsOnly (conversion.Blames candidate) (conversion.transform candidate source target?) :=
  .bind (.attempt blames_source) fun _ => transfer_failsOnly target? _ _

theorem copyContent_failsOnly (source copy : Location) :
    FailsOnly (conversion.Blames candidate) (conversion.copyContent candidate source copy) :=
  .bind (.attempt blames_source) fun _ => .attempt blames_source

theorem removePrevious_failsOnly :
    FailsOnly (conversion.Blames candidate) (conversion.removePrevious candidate) := by
  intro world failure final performed
  simp only [removePrevious, Action.perform_ofOutcome] at performed
  split at performed
  · cases performed
  · cases performed
  · cases performed
    exact blames_output _

theorem stage_failsOnly (copy : Location) :
    FailsOnly (conversion.Blames candidate) (conversion.stage candidate copy) := by
  refine .withTemporary (.attempt blames_output) fun staging => ?_
  refine .bind (transform_failsOnly copy staging) fun tally => ?_
  exact .bind (.attempt blames_output) fun _ => .bind (.attempt blames_output) fun _ => .pure tally

theorem write_failsOnly (source : Location) :
    FailsOnly (conversion.Blames candidate) (conversion.write candidate source) := by
  refine .withTemporary (.attempt blames_copy) fun copy => ?_
  refine .bind (copyContent_failsOnly source copy) fun _ => ?_
  refine .bind (.attempt blames_source) fun _ => ?_
  exact .bind removePrevious_failsOnly fun _ => stage_failsOnly copy

/-- A conversion fails only in ways that name one side of this candidate. -/
theorem run_failsOnly (conversion : Conversion) (candidate : Candidate) :
    FailsOnly (conversion.Blames candidate) (conversion.run candidate) := by
  refine .bind (.attempt blames_source) fun source => .bind ?_ fun tally => ?_
  · rw [convert]
    split
    · exact transform_failsOnly source none
    · exact write_failsOnly source
  · exact .bind (.notes _) fun _ => .pure _

end Retag.Conversion
