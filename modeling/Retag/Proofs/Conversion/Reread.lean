import Retag.Proofs.Conversion.Transfer
import Retag.Proofs.Document.Reread

/-! Retagging an output once more, with no rules. On a disk without faults the second pass finds the lines of
the first one and changes none of them; whether it writes the same bytes hangs on carriage returns at the
ends of lines alone.
-/

set_option autoImplicit false

namespace Retag.Conversion

/-- On every disk without faults, retagging a file with the content into an empty one leaves these bytes
there and counts like this. -/
def Yields (table : Table) (ending : LineEnding) (content : Bytes) (result : Bytes × Document.Tally) : Prop :=
  ∀ (conversion : Conversion) (candidate : Candidate) (world : World) (source target : Location),
    conversion.table = table → conversion.lineEnding = ending → world.disk.faults = [] →
    world.disk.files.get? source = some (.file content) →
    world.disk.files.get? target = some (.file []) →
    ∃ final, (conversion.transform candidate source (some target)).perform world = (.ok result.2, final) ∧
      final.disk.files.get? target = some (.file result.1)

theorem yields_retag (table : Table) (ending : LineEnding) (content : Bytes) :
    Yields table ending content (Document.retag table ending content) := by
  rintro conversion candidate world source target rfl rfl noFaults readable emptied
  have shown : world.disk.files.get? = showing world.disk.files.get? (some target) [] :=
    showing_nil (by simpa using emptied)
  obtain ⟨tally, final, performed⟩ := transform_quiet conversion candidate noFaults shown readable
  obtain ⟨written, becomes, result⟩ := transform_becomes shown performed
  obtain ⟨content', stands, same⟩ := result tally rfl
  cases readable.symm.trans stands
  refine ⟨final, ?_, ?_⟩
  · rw [performed, ← same]
  · rw [becomes.files, showing, Function.update_self, ← same]

/-- A second pass without rules over what the first one wrote. -/
theorem transform_again (table : Table) (ending : LineEnding) (content : Bytes)
    (single : ∀ rule ∈ table, '\n' ∉ rule.replacement.toList) :
    let output := Document.retag table ending content
    let again := Document.retag [] ending output.1
    Yields table ending content output ∧ Yields [] ending output.1 again ∧
      again.2.lines = output.2.lines ∧ again.2.changedLines = 0 ∧
      (again.1 = output.1 ↔
        ending = .crlf ∨ ∀ line ∈ Document.cutLines content, (table.retag line).bytes.getLast? ≠ some 13) := by
  intro output again
  refine ⟨yields_retag table ending content, yields_retag [] ending output.1, ?_, ?_, ?_⟩
  · exact Document.retag_again_lines single
  · exact Document.changedLines_retag_nil ending output.1
  · exact Document.retag_again_bytes single

/-- A replacement that ends a line with a carriage return, and a last line that comes with one. -/
theorem transform_again_returns :
    let table : Table := [⟨"x", "\r"⟩]
    let content : Bytes := Bytes.ofText "ax\r\n\nb\r"
    (∀ rule ∈ table, '\n' ∉ rule.replacement.toList) ∧
      Yields table .lf content (Document.retag table .lf content) ∧
      (Document.retag table .lf content).1 = Bytes.ofText "a\r\n\nb\r\n" ∧
      (Document.retag [] .lf (Document.retag table .lf content).1).1 ≠ (Document.retag table .lf content).1 ∧
      (Document.retag [] .lf (Document.retag table .lf content).1).2.lines = 3 ∧
      (Document.retag [] .crlf (Document.retag table .crlf content).1).1 =
        (Document.retag table .crlf content).1 := by
  intro table content
  have single : ∀ rule ∈ table, '\n' ∉ rule.replacement.toList := by decide +kernel
  obtain ⟨yields, -, lines, -, stable⟩ := transform_again table .lf content single
  obtain ⟨-, -, -, -, stable'⟩ := transform_again table .crlf content single
  refine ⟨single, yields, by decide +kernel, ?_, lines.trans (by decide +kernel), stable'.2 (.inl rfl)⟩
  rw [ne_eq, stable]
  decide +kernel

end Retag.Conversion
