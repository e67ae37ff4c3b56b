import Retag.Conversion.Basic
import Retag.Proofs.Action.Perform
import Retag.Proofs.Document.Lines
import Retag.Proofs.FileSystem.Calls

/-! Retagging on a disk. What a target holds grows by one written line after another; as long as no
call fails it ends as the retagged document, which is stated through the lines found by cutting.
-/

set_option autoImplicit false

namespace Retag.Conversion

open Function (update)

def showing (view : Location → Option Entry) (target? : Option Location) (written : Bytes) :
    Location → Option Entry :=
  match target? with
  | none => view
  | some target => update view target (some (.file written))

variable {conversion : Conversion} {candidate : Candidate} {target? : Option Location}
  {view : Location → Option Entry} {world final : World} {tally : Document.Tally}

theorem emit_ok {written bytes : Bytes} (shown : world.disk.files.get? = showing view target? written)
    (performed : (conversion.emit candidate target? bytes).perform world = (.ok (), final)) :
    world.disk.Becomes (showing view target? (written ++ bytes)) final.disk := by
  cases target? with
  | none =>
    cases performed
    exact (Disk.Becomes.refl _).congr shown
  | some target =>
    rw [emit] at performed
    have stands : world.disk.files.get? target = some (.file written) := by
      rw [shown, showing, Function.update_self]
    refine (Disk.append_ok stands (Action.perform_attempt_ok performed)).congr ?_
    rw [shown, showing, showing, Function.update_idem]

theorem emit_error {bytes : Bytes} {failure : Failure}
    (performed : (conversion.emit candidate target? bytes).perform world = (.error failure, final)) :
    world.disk.Becomes world.disk.files.get? final.disk := by
  cases target? with
  | none => cases performed
  | some target =>
    rw [emit] at performed
    obtain ⟨error, called, -⟩ := Action.perform_attempt_error performed
    exact Disk.becomes_of_error called

theorem emit_quiet {written : Bytes} (noFaults : world.disk.faults = [])
    (shown : world.disk.files.get? = showing view target? written) (bytes : Bytes) :
    ∃ final, (conversion.emit candidate target? bytes).perform world = (.ok (), final) := by
  cases target? with
  | none => exact ⟨world, rfl⟩
  | some target =>
    have stands : world.disk.files.get? target = some (.file written) := by
      rw [shown, showing, Function.update_self]
    have called : Disk.append target bytes world.disk =
        (.ok (), { world.disk with files := world.disk.files.put target (.file (written ++ bytes)) }) := by
      rw [Disk.append, Disk.call_quiet noFaults, stands]
    exact ⟨_, Action.perform_attempt_of_ok called _⟩

theorem proceed_becomes {failure : IoError → Failure} {outcome : Except Failure Unit}
    (performed : (Action.attempt failure Disk.proceed).perform world = (outcome, final)) :
    world.disk.Becomes world.disk.files.get? final.disk := by
  rw [Action.perform_attempt] at performed
  cases performed
  exact Disk.proceed_becomes world.disk

/-- Whatever happens, only the target changes; on success it holds all written lines. -/
theorem transfer_becomes {parts : List Bytes} {written : Bytes} {outcome : Except Failure Document.Tally}
    (shown : world.disk.files.get? = showing view target? written)
    (performed : (conversion.transfer candidate target? tally parts).perform world = (outcome, final)) :
    ∃ later, world.disk.Becomes (showing view target? later) final.disk ∧
      ∀ result, outcome = .ok result → (later, result) =
        (written ++ (Document.retagPieces conversion.table conversion.lineEnding tally parts).1,
          (Document.retagPieces conversion.table conversion.lineEnding tally parts).2) := by
  induction parts generalizing world tally written with
  | nil =>
    rw [transfer] at performed
    rcases Action.perform_bind_cases performed with
      ⟨failure, stopped, rfl⟩ | ⟨⟨⟩, middle, proceeded, finished⟩
    · exact ⟨written, (proceed_becomes stopped).congr shown, fun _ same => nomatch same⟩
    · cases finished
      refine ⟨written, (proceed_becomes proceeded).congr shown, fun result same => ?_⟩
      cases same
      simp [Document.retagPieces]
  | cons part parts ih =>
    rw [transfer] at performed
    rcases Action.perform_bind_cases performed with
      ⟨failure, stopped, rfl⟩ | ⟨⟨⟩, middle, proceeded, performed⟩
    · exact ⟨written, (proceed_becomes stopped).congr shown, fun _ same => nomatch same⟩
    have first := (proceed_becomes proceeded).congr shown
    rcases Action.perform_bind_cases performed with
      ⟨failure, stopped, rfl⟩ | ⟨⟨⟩, next, emitted, performed⟩
    · exact ⟨written, first.trans ((emit_error stopped).congr first.files), fun _ same => nomatch same⟩
    have second := emit_ok first.files emitted
    -- The rest appends to what is written by now, which the induction hypothesis is stated for.
    obtain ⟨later, rest, result⟩ := ih second.files performed
    refine ⟨later, (first.trans second).trans rest, fun tally same => ?_⟩
    rw [result tally same, Document.retagPieces, List.append_assoc]
    rfl

theorem proceed_quiet (noFaults : world.disk.faults = []) (failure : IoError → Failure) :
    (Action.attempt failure Disk.proceed).perform world = (.ok (), world) := by
  exact Action.perform_attempt_of_ok (Disk.call_quiet noFaults _) failure

theorem transfer_quiet {written : Bytes} (noFaults : world.disk.faults = [])
    (shown : world.disk.files.get? = showing view target? written) (tally : Document.Tally)
    (parts : List Bytes) :
    ∃ result final,
      (conversion.transfer candidate target? tally parts).perform world = (.ok result, final) := by
  induction parts generalizing world tally written with
  | nil => exact ⟨tally, world, by rw [transfer, Action.perform_bind_of_ok (proceed_quiet noFaults _)]; rfl⟩
  | cons part parts ih =>
    rw [transfer, Action.perform_bind_of_ok (proceed_quiet noFaults _)]
    obtain ⟨next, emitted⟩ := emit_quiet noFaults shown
      (Document.retagPiece conversion.table conversion.lineEnding tally part).1
    have onward := emit_ok shown emitted
    obtain ⟨result, final, rest⟩ := ih (onward.quiet noFaults) onward.files
      (Document.retagPiece conversion.table conversion.lineEnding tally part).2
    exact ⟨result, final, (Action.perform_bind_of_ok emitted).trans rest⟩

variable {source : Location}

theorem transform_becomes {outcome : Except Failure Document.Tally}
    (shown : world.disk.files.get? = showing view target? [])
    (performed : (conversion.transform candidate source target?).perform world = (outcome, final)) :
    ∃ later, world.disk.Becomes (showing view target? later) final.disk ∧
      ∀ result, outcome = .ok result → ∃ content, world.disk.files.get? source = some (.file content) ∧
        (later, result) = Document.retag conversion.table conversion.lineEnding content := by
  rw [transform] at performed
  rcases Action.perform_bind_cases performed with
    ⟨failure, stopped, rfl⟩ | ⟨content, middle, begun, performed⟩
  · obtain ⟨error, called, -⟩ := Action.perform_attempt_error stopped
    exact ⟨[], (Disk.becomes_of_error called).congr shown, fun _ same => nomatch same⟩
  obtain ⟨stands, becomes⟩ := Disk.read_ok (Action.perform_attempt_ok begun)
  have first := becomes.congr shown
  obtain ⟨later, rest, result⟩ := transfer_becomes first.files performed
  refine ⟨later, first.trans rest, fun tally same => ⟨content, stands, ?_⟩⟩
  rw [result tally same, List.nil_append, Document.retag]

theorem read_quiet {content : Bytes} (noFaults : world.disk.faults = [])
    (stands : world.disk.files.get? source = some (.file content)) (failure : IoError → Failure) :
    (Action.attempt failure (Disk.read source)).perform world = (.ok content, world) := by
  refine Action.perform_attempt_of_ok ?_ failure
  rw [Disk.read, Disk.call_quiet noFaults, stands]

theorem transform_quiet (conversion : Conversion) (candidate : Candidate) {content : Bytes}
    (noFaults : world.disk.faults = [])
    (shown : world.disk.files.get? = showing view target? [])
    (stands : world.disk.files.get? source = some (.file content)) :
    ∃ result final, (conversion.transform candidate source target?).perform world = (.ok result, final) := by
  rw [transform, Action.perform_bind_of_ok (read_quiet noFaults stands _)]
  exact transfer_quiet noFaults shown _ _

theorem showing_nil (emptied : ∀ target ∈ target?, view target = some (.file [])) :
    view = showing view target? [] := by
  cases target? with
  | none => rfl
  | some target => rw [showing, ← emptied target rfl, Function.update_eq_self]

/-- On a disk without faults, retagging an open file into an empty one writes every line of the
source as the table makes it, each with one terminator, and counts them. The target is `none` when
nothing is to be written. -/
theorem transform_writes_cutLines (conversion : Conversion) (candidate : Candidate) (world : World)
    (source : Location) (target? : Option Location) (content : Bytes)
    (noFaults : world.disk.faults = [])
    (readable : world.disk.files.get? source = some (.file content))
    (emptied : ∀ target ∈ target?, world.disk.files.get? target = some (.file [])) :
    ∃ tally final, (conversion.transform candidate source target?).perform world = (.ok tally, final) ∧
      final.disk.files.get? = showing world.disk.files.get? target?
        ((Document.cutLines content).flatMap fun line =>
          (conversion.table.retag line).bytes ++ conversion.lineEnding.bytes) ∧
      tally.lines = (Document.cutLines content).length ∧
      tally.changedLines = (Document.cutLines content).countP
        (fun line => (conversion.table.retag line).bytes ≠ line) ∧
      tally.nonUtf8Lines = (Document.cutLines content).countP (fun line => ¬ line.IsUtf8) ∧
      (content = [] → final.disk.files.get? = world.disk.files.get? ∧ tally.lines = 0) := by
  have shown := showing_nil emptied
  obtain ⟨tally, final, performed⟩ := transform_quiet conversion candidate noFaults shown readable
  obtain ⟨written, becomes, result⟩ := transform_becomes shown performed
  obtain ⟨other, stands, same⟩ := result tally rfl
  cases Option.some.inj (readable.symm.trans stands)
  rw [Document.retag_eq, Prod.mk.injEq] at same
  obtain ⟨rfl, rfl⟩ := same
  refine ⟨_, final, performed, becomes.files, ?_, ?_, ?_, ?_⟩
  · rw [Document.Tally.lines_addLines, Document.Tally.start, Nat.zero_add]
  · rw [Document.Tally.changedLines_addLines, Document.Tally.start, Nat.zero_add]
  · rw [Document.Tally.nonUtf8Lines_addLines, Document.Tally.start, Nat.zero_add]
  · rintro rfl
    exact ⟨becomes.files.trans shown.symm, rfl⟩

def twoFiles (content : Bytes) : FileSystem :=
  (FileSystem.empty.put [.plain [115]] (.file content)).put [.plain [116]] (.file [])

/-- A blank line that is a carriage return, a line that is not UTF-8, and a last line that keeps its
carriage return. -/
theorem transform_writes_cutLines_mixed :
    ∃ tally final,
      (transform ⟨"", "", [⟨"F", "FF"⟩], .lf, false⟩ (Candidate.ofName "s" "t") [.plain [115]]
        (some [.plain [116]])).perform
        { disk := ⟨twoFiles [70, 13, 10, 13, 13, 10, 255, 10, 98, 13], [], []⟩ } = (.ok tally, final) ∧
      final.disk.files.get? [.plain [116]] = some (.file [70, 70, 10, 13, 10, 255, 10, 98, 13, 10]) ∧
      tally.lines = 4 ∧ tally.changedLines = 1 ∧ tally.nonUtf8Lines = 1 := by
  obtain ⟨tally, final, performed, shown, lines, changed, broken, -⟩ :=
    transform_writes_cutLines ⟨"", "", [⟨"F", "FF"⟩], .lf, false⟩ (Candidate.ofName "s" "t")
      { disk := ⟨twoFiles [70, 13, 10, 13, 13, 10, 255, 10, 98, 13], [], []⟩ } [.plain [115]]
      (some [.plain [116]]) [70, 13, 10, 13, 13, 10, 255, 10, 98, 13] rfl (by decide)
      (by rintro _ ⟨⟩; decide)
  refine ⟨tally, final, performed, ?_, ?_, ?_, ?_⟩
  · rw [shown, showing, Function.update_self]
    decide +kernel
  · rw [lines]; decide +kernel
  · rw [changed]; decide +kernel
  · rw [broken]; decide +kernel

end Retag.Conversion
