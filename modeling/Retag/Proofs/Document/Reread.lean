import Retag.Proofs.Document.Count

/-! Reading a retagged document again. What was written with carriage return and line feed is read as it was,
but a line written with a line feed alone loses a carriage return at its end. So a second pass that changes
nothing by rules finds as many lines, and it gives the document back if and only if no line loses anything.
-/

set_option autoImplicit false

namespace Retag

namespace Document

theorem withoutReturn_eq_iff {part : Bytes} : withoutReturn part = part ↔ part.getLast? ≠ some 13 := by
  rw [withoutReturn]
  by_cases ends : part.getLast? = some 13
  · rw [if_pos ends]
    refine iff_of_false (fun same => ?_) (by simp [ends])
    have shorter := congrArg List.length same
    have positive := List.length_pos_of_mem (List.mem_of_getLast? ends)
    rw [List.length_dropLast] at shorter
    omega
  · simp [ends]

theorem length_withoutReturn_le (part : Bytes) : (withoutReturn part).length ≤ part.length := by
  rw [withoutReturn]
  split
  · simp
  · simp

end Document

/-- What is read of a line that was written with this ending. -/
def LineEnding.readBack : LineEnding → Bytes → Bytes
  | .lf, line => Document.withoutReturn line
  | .crlf, line => line

theorem LineEnding.readBack_eq_iff {ending : LineEnding} {line : Bytes} :
    ending.readBack line = line ↔ ending = .crlf ∨ line.getLast? ≠ some 13 := by
  cases ending with
  | lf => simp [readBack, Document.withoutReturn_eq_iff]
  | crlf => simp [readBack]

theorem LineEnding.length_readBack_le (ending : LineEnding) (line : Bytes) :
    (ending.readBack line).length ≤ line.length := by
  cases ending with
  | lf => exact Document.length_withoutReturn_le line
  | crlf => exact Nat.le_refl _

namespace Document

theorem pieces_append_feed {part : Bytes} (noFeed : 10 ∉ part) (rest : Bytes) :
    pieces (part ++ 10 :: rest) = (part ++ [10]) :: pieces rest := by
  induction part with
  | nil => simp [pieces]
  | cons byte part ih =>
    rw [List.mem_cons, not_or] at noFeed
    rw [List.cons_append, pieces, if_neg (Ne.symm noFeed.1), ih noFeed.2]
    rfl

theorem lines_append_ending {part : Bytes} (noFeed : 10 ∉ part) (ending : LineEnding) (rest : Bytes) :
    lines (part ++ ending.bytes ++ rest) = ending.readBack part :: lines rest := by
  cases ending with
  | lf =>
    have shape : part ++ LineEnding.lf.bytes ++ rest = part ++ 10 :: rest := by
      simp [LineEnding.bytes]
    rw [lines, shape, pieces_append_feed noFeed, List.map_cons, stripTerminator_append_feed]
    rfl
  | crlf =>
    have shape : part ++ LineEnding.crlf.bytes ++ rest = (part ++ [13]) ++ 10 :: rest := by
      simp [LineEnding.bytes]
    have noFeed' : 10 ∉ part ++ [13] := by
      simpa using noFeed
    rw [lines, shape, pieces_append_feed noFeed', List.map_cons, stripTerminator_append_feed]
    simp [withoutReturn, LineEnding.readBack, lines]

theorem lines_flatMap {parts : List Bytes} (noFeed : ∀ part ∈ parts, 10 ∉ part) (ending : LineEnding) :
    lines (parts.flatMap fun part => part ++ ending.bytes) = parts.map ending.readBack := by
  induction parts with
  | nil => rfl
  | cons part parts ih =>
    rw [List.forall_mem_cons] at noFeed
    rw [List.flatMap_cons, lines_append_ending noFeed.1, ih noFeed.2, List.map_cons]

theorem length_readBack_flatMap_le (ending : LineEnding) (parts : List Bytes) :
    (parts.flatMap fun part => ending.readBack part ++ ending.bytes).length ≤
      (parts.flatMap fun part => part ++ ending.bytes).length := by
  induction parts with
  | nil => simp
  | cons part parts ih =>
    have shorter := ending.length_readBack_le part
    simp only [List.flatMap_cons, List.length_append]
    omega

/-- Lines read back are written as they were only if none of them lost anything. -/
theorem readBack_flatMap_eq_iff (ending : LineEnding) (parts : List Bytes) :
    (parts.flatMap fun part => ending.readBack part ++ ending.bytes) =
        (parts.flatMap fun part => part ++ ending.bytes) ↔
      ∀ part ∈ parts, ending.readBack part = part := by
  induction parts with
  | nil => simp
  | cons part parts ih =>
    rw [List.flatMap_cons, List.flatMap_cons, List.forall_mem_cons, ← ih]
    constructor
    · intro same
      -- Neither the first line nor the others get longer, so both keep their lengths.
      have lengths := congrArg List.length same
      have first := ending.length_readBack_le part
      have others := length_readBack_flatMap_le ending parts
      simp only [List.length_append] at lengths
      obtain ⟨front, back⟩ := List.append_inj same (by simp only [List.length_append]; omega)
      exact ⟨List.append_cancel_right front, back⟩
    · rintro ⟨first, others⟩
      rw [first, others]

variable {table : Table} {ending : LineEnding} {content : Bytes}

theorem cutLines_retag (single : ∀ rule ∈ table, '\n' ∉ rule.replacement.toList) (ending : LineEnding)
    (content : Bytes) : cutLines (retag table ending content).1 =
      (cutLines content).map fun line => ending.readBack (table.retag line).bytes := by
  have noFeed : ∀ part ∈ (cutLines content).map fun line => (table.retag line).bytes, 10 ∉ part := by
    rw [List.forall_mem_map, ← lines_eq_cutLines]
    intro line member
    exact feed_notMem_retag single member
  have read := lines_flatMap noFeed ending
  rw [List.flatMap_map, List.map_map] at read
  rw [← lines_eq_cutLines, retag_eq, read]
  rfl

theorem retag_again_bytes (single : ∀ rule ∈ table, '\n' ∉ rule.replacement.toList) :
    (retag [] ending (retag table ending content).1).1 = (retag table ending content).1 ↔
      ending = .crlf ∨ ∀ line ∈ cutLines content, (table.retag line).bytes.getLast? ≠ some 13 := by
  have kept := readBack_flatMap_eq_iff ending ((cutLines content).map fun line => (table.retag line).bytes)
  rw [List.flatMap_map, List.flatMap_map, List.forall_mem_map] at kept
  rw [retag_eq [], cutLines_retag single, List.flatMap_map, retag_eq table]
  refine kept.trans ?_
  simp only [LineEnding.readBack_eq_iff]
  cases ending with
  | lf => simp
  | crlf => simp

theorem retag_again_lines (single : ∀ rule ∈ table, '\n' ∉ rule.replacement.toList) :
    (retag [] ending (retag table ending content).1).2.lines = (retag table ending content).2.lines := by
  rw [lines_retag, lines_retag, lines_eq_cutLines, lines_eq_cutLines, cutLines_retag single, List.length_map]

theorem changedLines_retag_nil (ending : LineEnding) (content : Bytes) :
    (retag [] ending content).2.changedLines = 0 := by
  rw [retag_eq, Tally.changedLines_addLines]
  simp [Tally.start, Table.retag, Table.retagFrom]

end Document

end Retag
