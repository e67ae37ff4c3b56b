import Retag.Proofs.Conversion.Effect
import Retag.Proofs.Document.Count
import Retag.Settings.Basic

/-! Lines reported and lines written. A conversion reports the lines that it read. The output has that
many lines unless the table puts a line feed into one of them: a replacement may hold one, and the
settings are accepted with it.
-/

set_option autoImplicit false

namespace Retag.Conversion

/-- The output of a conversion has the reported number of lines just if no line of the source is
retagged to more than one line; the reported number is that of the source in any case. -/
theorem run_keeps_lines_iff (conversion : Conversion) (candidate : Candidate) (world final : World)
    (file : Converted) (writes : conversion.dryRun = false)
    (performed : (conversion.run candidate).perform world = (.ok file, final)) :
    ∃ source content place output,
      world.disk.resolve (Bytes.ofText (conversion.sourcePath candidate)) = .ok source ∧
      world.disk.files.get? source = some (.file content) ∧
      world.disk.place? (Bytes.ofText file.output) = some place ∧
      final.disk.files.get? place = some (.file output) ∧
      file.lines = (Document.lines content).length ∧
      ((Document.lines output).length = file.lines ↔
        ∀ line ∈ Document.lines content, 10 ∉ (conversion.table.retag line).bytes) ∧
      ((∀ rule ∈ conversion.table, '\n' ∉ rule.replacement.toList) →
        (Document.lines output).length = file.lines) := by
  rcases run_effect writes performed with ⟨failure, view, same, -⟩ |
    ⟨source, content, place, resolved, read, named, -, same, drops⟩
  · cases same
  cases same
  refine ⟨source, content, place, (Document.retag conversion.table conversion.lineEnding content).1,
    resolved, read, named, ?_, Document.lines_retag _ _ _, ?_, ?_⟩
  · obtain ⟨name, directory, rfl, -⟩ := Disk.exists_of_place? named
    rw [drops.get?_plain, Function.update_self]
  · rw [Document.lines_retag, Document.length_lines_retag_eq_iff]
  · intro single
    rw [Document.lines_retag, Document.length_lines_retag_of_forall single]

def oneLine : Disk where
  files := ((FileSystem.empty.put [.plain (Bytes.ofText "S")] .directory).put
    [.plain (Bytes.ofText "A.cs"), .plain (Bytes.ofText "S")] (.file (Bytes.ofText "a\n"))).put
    [.plain (Bytes.ofText "o")] .directory
  workingDirectory := []

/-- A line feed that one rule puts into the line and the next one takes out again. -/
def mending : Conversion := ⟨"S", "o", [⟨"a", "x\ny"⟩, ⟨"\n", "-"⟩], .lf, false⟩

theorem run_keeps_lines_mending :
    ∃ file final, (mending.run (Candidate.ofName "A.cs" "_doxy")).perform { disk := oneLine } =
        (.ok file, final) ∧
      ∃ place output, oneLine.place? (Bytes.ofText file.output) = some place ∧
        final.disk.files.get? place = some (.file output) ∧
        file.lines = 1 ∧ (Document.lines output).length = file.lines := by
  have finished : ((mending.run (Candidate.ofName "A.cs" "_doxy")).perform { disk := oneLine }).1 =
      .ok ⟨"A.cs", "o/A_doxy.cs", 1, 1⟩ := by
    decide +kernel
  obtain ⟨source, content, place, output, resolved, read, named, stands, lines, kept, -⟩ :=
    run_keeps_lines_iff mending _ _ _ _ rfl (Prod.ext finished rfl)
  refine ⟨_, _, Prod.ext finished rfl, place, output, named, stands, rfl, kept.2 ?_⟩
  have located : oneLine.resolve (Bytes.ofText (mending.sourcePath (Candidate.ofName "A.cs" "_doxy"))) =
      .ok [.plain (Bytes.ofText "A.cs"), .plain (Bytes.ofText "S")] := by
    decide +kernel
  cases located.symm.trans resolved
  have stood : oneLine.files.get? [.plain (Bytes.ofText "A.cs"), .plain (Bytes.ofText "S")] =
      some (.file (Bytes.ofText "a\n")) := by
    decide +kernel
  cases stood.symm.trans read
  decide +kernel

def breaking : Settings := { source := some "S", output := "o", rules := [⟨"a", "x\ny"⟩] }

theorem run_writes_more_lines :
    breaking.validate = .ok () ∧
      ∃ conversion content output file final,
        breaking.conversion false = .ok conversion ∧
        (conversion.run (Candidate.ofName "A.cs" breaking.suffix)).perform { disk := oneLine } =
          (.ok file, final) ∧
        oneLine.content? (Bytes.ofText (conversion.sourcePath (Candidate.ofName "A.cs" breaking.suffix))) =
          some content ∧
        final.disk.content? (Bytes.ofText file.output) = some output ∧
        (Document.lines content).length = 1 ∧ file.lines = 1 ∧ (Document.lines output).length = 2 := by
  have finished : ((Conversion.run ⟨"S", "o", [⟨"a", "x\ny"⟩], .lf, false⟩
      (Candidate.ofName "A.cs" "_doxy")).perform { disk := oneLine }).1 =
      .ok ⟨"A.cs", "o/A_doxy.cs", 1, 1⟩ := by
    decide +kernel
  refine ⟨by decide, _, Bytes.ofText "a\n", Bytes.ofText "x\ny\n", _, _, rfl, Prod.ext finished rfl,
    ?_, ?_, ?_, rfl, ?_⟩
  all_goals decide +kernel

end Retag.Conversion
