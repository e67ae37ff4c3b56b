import Retag.Proofs.Document.Lines
import Retag.Proofs.Text.Occurrence
import Retag.Rule.Table

/-! Rules on texts and on their bytes. A text is retagged to the same result whether its characters or
its bytes are searched, so bytes that are UTF-8 stay UTF-8 through every rule of a table.
-/

set_option autoImplicit false

namespace Retag

namespace Rule

theorem splitFirst_ofText (rule : Rule) (line : String) :
    Occurrence.splitFirst (Bytes.ofText rule.pattern) (Bytes.ofText line) =
      (Occurrence.splitFirst rule.pattern.toList line.toList).map (Prod.map Bytes.ofChars Bytes.ofChars) :=
  Occurrence.splitFirst_ofChars rule.pattern.toList line.toList

theorem replaceBytes?_ofText (rule : Rule) (line : String) :
    rule.replaceBytes? (Bytes.ofText line) = (rule.replaceText? line).map Bytes.ofText := by
  rw [replaceBytes?, replaceText?, Occurrence.replaceFirst?, Occurrence.replaceFirst?, splitFirst_ofText,
    Option.map_map, Option.map_map, Option.map_map]
  congr 1
  funext parts
  cases parts
  simp [Bytes.ofChars_append, Bytes.ofText]

theorem isValid_of_splitFirst {rule : Rule} {line : String} {before rest : Bytes}
    (split : Occurrence.splitFirst (Bytes.ofText rule.pattern) (Bytes.ofText line) = some (before, rest)) :
    String.Pos.Raw.IsValid line ⟨before.length⟩ ∧
      String.Pos.Raw.IsValid line ⟨before.length + (Bytes.ofText rule.pattern).length⟩ := by
  rw [splitFirst_ofText, Option.map_eq_some_iff] at split
  obtain ⟨⟨front, back⟩, found, same⟩ := split
  cases same
  have whole : line = String.ofList front ++ rule.pattern ++ String.ofList back := by
    rw [← String.toList_inj, Occurrence.eq_of_splitFirst found]
    simp
  rw [String.Pos.Raw.isValid_iff_exists_append, String.Pos.Raw.isValid_iff_exists_append]
  refine ⟨⟨String.ofList front, rule.pattern ++ String.ofList back, ?_, ?_⟩,
    ⟨String.ofList front ++ rule.pattern, String.ofList back, whole, ?_⟩⟩
  · rw [whole, String.append_assoc]
  · rw [← Bytes.ofText_ofList, Bytes.length_ofText]
    rfl
  · rw [← Bytes.ofText_ofList, ← List.length_append, ← Bytes.ofText_append, Bytes.length_ofText]
    rfl

end Rule

namespace Table

theorem bytes_retagFrom_ofText (table : Table) (index : Nat) (line : String) :
    (retagFrom index table (Bytes.ofText line)).bytes = Bytes.ofText (table.retagText line) := by
  induction table generalizing index line with
  | nil => rfl
  | cons rule table ih =>
    rw [retagFrom, rule.replaceBytes?_ofText, retagText, List.foldl_cons, ← retagText]
    cases rule.replaceText? line with
    | none => exact ih (index + 1) line
    | some next => exact ih (index + 1) next

/-- Searching characters and searching bytes agree: for a whole table, for each of its rules, and in where
the first match stands. -/
theorem retag_ofText (table : Table) (line : String) :
    (table.retag (Bytes.ofText line)).bytes = Bytes.ofText (table.retagText line) ∧
      (table.retag (Bytes.ofText line)).bytes.IsUtf8 ∧
      ∀ rule : Rule,
        (rule.replaceText? line = none ↔ rule.replaceBytes? (Bytes.ofText line) = none) ∧
        (∀ next, rule.replaceText? line = some next →
          rule.replaceBytes? (Bytes.ofText line) = some (Bytes.ofText next)) ∧
        ∀ before rest,
          Occurrence.splitFirst (Bytes.ofText rule.pattern) (Bytes.ofText line) = some (before, rest) →
          String.Pos.Raw.IsValid line ⟨before.length⟩ ∧
            String.Pos.Raw.IsValid line ⟨before.length + (Bytes.ofText rule.pattern).length⟩ := by
  have whole := table.bytes_retagFrom_ofText 0 line
  refine ⟨whole, ⟨table.retagText line, whole⟩, fun rule => ⟨?_, fun next replaced => ?_, ?_⟩⟩
  · rw [rule.replaceBytes?_ofText, Option.map_eq_none_iff]
  · rw [rule.replaceBytes?_ofText, replaced, Option.map_some]
  · intro before rest split
    exact Rule.isValid_of_splitFirst split

end Table

end Retag
