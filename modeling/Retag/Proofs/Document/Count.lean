import Mathlib.Algebra.BigOperators.Group.List.Basic
import Mathlib.Algebra.GroupWithZero.Nat
import Mathlib.Algebra.Order.BigOperators.Group.List
import Retag.Proofs.Document.Lines
import Retag.Proofs.Text.Occurrence

/-! How many lines a retagged document has. Every line of the source is written with one terminator, and
each line feed that the table put into it makes one line more. So the number of lines is kept if and
only if no retagged line holds a line feed, and only a replacement can bring one in.
-/

set_option autoImplicit false

namespace Retag

namespace Document

theorem length_pieces_append_feed (part rest : Bytes) :
    (pieces (part ++ 10 :: rest)).length = part.count 10 + 1 + (pieces rest).length := by
  induction part with
  | nil => simp [pieces, Nat.add_comm]
  | cons byte part ih =>
    rw [List.cons_append, pieces]
    by_cases feed : byte = 10
    · subst feed
      rw [if_pos rfl, List.length_cons, ih, List.count_cons_self]
      omega
    · rw [if_neg feed, List.count_cons_of_ne feed]
      cases cut : pieces (part ++ 10 :: rest) with
      | nil => simp [cut] at ih; omega
      | cons piece more => rwa [cut] at ih

theorem length_lines_append_ending (ending : LineEnding) (part rest : Bytes) :
    (lines (part ++ ending.bytes ++ rest)).length = part.count 10 + 1 + (lines rest).length := by
  rw [lines, lines, List.length_map, List.length_map]
  cases ending with
  | lf => exact (congrArg _ (by simp [LineEnding.bytes])).trans (length_pieces_append_feed part rest)
  | crlf =>
    have shape : part ++ LineEnding.crlf.bytes ++ rest = (part ++ [13]) ++ 10 :: rest := by
      simp [LineEnding.bytes]
    rw [shape, length_pieces_append_feed]
    simp

theorem length_lines_flatMap (ending : LineEnding) (parts : List Bytes) :
    (lines (parts.flatMap fun part => part ++ ending.bytes)).length =
      (parts.map fun part => part.count 10 + 1).sum := by
  induction parts with
  | nil => rfl
  | cons part parts ih =>
    rw [List.flatMap_cons, length_lines_append_ending, ih, List.map_cons, List.sum_cons]

variable (table : Table) (ending : LineEnding) (content : Bytes)

theorem length_lines_retag : (lines (retag table ending content).1).length =
    ((lines content).map fun line => (table.retag line).bytes.count 10 + 1).sum := by
  have written : (retag table ending content).1 =
      ((lines content).map fun line => (table.retag line).bytes).flatMap fun part => part ++ ending.bytes := by
    rw [retag_eq, ← lines_eq_cutLines, List.flatMap_map]
  rw [written, length_lines_flatMap, List.map_map]
  rfl

theorem lines_retag : (retag table ending content).2.lines = (lines content).length := by
  rw [retag_eq, ← lines_eq_cutLines, Tally.lines_addLines, Tally.start, Nat.zero_add]

theorem length_lines_retag_eq_iff : (lines (retag table ending content).1).length = (lines content).length ↔
    ∀ line ∈ lines content, 10 ∉ (table.retag line).bytes := by
  rw [length_lines_retag]
  induction lines content with
  | nil => simp
  | cons line rest ih =>
    have least : rest.length ≤ (rest.map fun line => (table.retag line).bytes.count 10 + 1).sum := by
      rw [← rest.length_map fun line => (table.retag line).bytes.count 10 + 1]
      exact List.length_le_sum_of_one_le _ (by simp)
    rw [List.map_cons, List.sum_cons, List.length_cons, List.forall_mem_cons, ← ih, ← List.count_eq_zero]
    omega

theorem feed_notMem_lines {line : Bytes} (member : line ∈ lines content) : 10 ∉ line := by
  rw [lines_eq_cutLines, cutLines, List.mem_append, List.mem_map, Option.mem_toList,
    Option.filter_eq_some_iff] at member
  rcases member with ⟨part, inside, rfl⟩ | ⟨last, -⟩
  · have noFeed := notMem_of_mem_splitOn (List.dropLast_subset _ inside)
    rw [withoutReturn]
    split
    · exact fun feed => noFeed (List.dropLast_subset _ feed)
    · exact noFeed
  · exact notMem_of_mem_splitOn (List.mem_of_getLast? last)

end Document

namespace Table

theorem mem_bytes_retagFrom {table : Table} {index : Nat} {line : Bytes} {byte : UInt8}
    (member : byte ∈ (retagFrom index table line).bytes) :
    byte ∈ line ∨ ∃ rule ∈ table, byte ∈ Bytes.ofText rule.replacement := by
  induction table generalizing index line with
  | nil => exact .inl member
  | cons rule table ih =>
    rw [retagFrom] at member
    cases replaced : rule.replaceBytes? line with
    | none =>
      simp only [replaced] at member
      refine (ih member).imp_right fun ⟨other, listed, inside⟩ => ?_
      exact ⟨other, List.mem_cons_of_mem _ listed, inside⟩
    | some next =>
      simp only [replaced] at member
      rcases ih member with inNext | ⟨other, listed, inside⟩
      · rcases List.mem_append.1 (Occurrence.replaceFirst?_subset replaced inNext) with inLine | inReplacement
        · exact .inl inLine
        · exact .inr ⟨rule, List.mem_cons_self, inReplacement⟩
      · exact .inr ⟨other, List.mem_cons_of_mem _ listed, inside⟩

end Table

namespace Document

theorem feed_notMem_retag {table : Table} (single : ∀ rule ∈ table, '\n' ∉ rule.replacement.toList)
    {content line : Bytes} (member : line ∈ lines content) : 10 ∉ (table.retag line).bytes := by
  intro feed
  rcases Table.mem_bytes_retagFrom feed with inLine | ⟨rule, listed, inside⟩
  · exact feed_notMem_lines content member inLine
  · exact single rule listed (Bytes.feed_mem_ofText.1 inside)

/-- A table whose replacements are single lines keeps the number of lines of every document. -/
theorem length_lines_retag_of_forall {table : Table}
    (single : ∀ rule ∈ table, '\n' ∉ rule.replacement.toList) (ending : LineEnding) (content : Bytes) :
    (lines (retag table ending content).1).length = (lines content).length := by
  rw [length_lines_retag_eq_iff]
  intro line member
  exact feed_notMem_retag single member

theorem length_lines_retag_builtin (ending : LineEnding) (content : Bytes) :
    (lines (retag Table.builtin ending content).1).length = (lines content).length :=
  length_lines_retag_of_forall (by decide +kernel) ending content

end Document

end Retag
