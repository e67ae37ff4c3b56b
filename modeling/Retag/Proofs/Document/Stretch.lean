import Retag.Proofs.Text.Encoding
import Retag.Document.Line

/-! Which line a stretch of a document stands on. A stretch without line feeds stands on the line that comes
after as many lines as there are line feeds in front of it.
-/

set_option autoImplicit false

namespace Retag

namespace Document

variable {before part after : Bytes}

theorem pieces_append (written : part ≠ []) (noFeed : 10 ∉ part) :
    ∃ tail more, pieces (part ++ after) = (part ++ tail) :: more := by
  induction part with
  | nil => exact absurd rfl written
  | cons byte part ih =>
    obtain ⟨differs, noFeed⟩ := List.ne_and_not_mem_of_not_mem_cons noFeed
    rw [List.cons_append, pieces, if_neg (Ne.symm differs)]
    by_cases last : part = []
    · subst last
      cases pieces ([] ++ after) with
      | nil => exact ⟨[], [], rfl⟩
      | cons piece more => exact ⟨piece, more, rfl⟩
    · obtain ⟨tail, more, same⟩ := ih last noFeed
      rw [same]
      exact ⟨tail, more, rfl⟩

theorem getElem?_pieces (written : part ≠ []) (noFeed : 10 ∉ part) :
    ∃ piece, (pieces (before ++ part ++ after))[before.count 10]? = some piece ∧ part <:+: piece := by
  induction before with
  | nil =>
    obtain ⟨tail, more, same⟩ := @pieces_append part after written noFeed
    exact ⟨part ++ tail, by rw [List.nil_append, same]; rfl, [], tail, rfl⟩
  | cons byte before ih =>
    obtain ⟨piece, found, inside⟩ := ih
    rw [List.cons_append, List.cons_append, pieces]
    by_cases feed : byte = 10
    · subst feed
      rw [if_pos rfl, List.count_cons_self, List.getElem?_cons_succ]
      exact ⟨piece, found, inside⟩
    · rw [if_neg feed, List.count_cons_of_ne feed]
      cases cut : pieces (before ++ part ++ after) with
      | nil =>
        rw [cut] at found
        cases found
      | cons first more =>
        rw [cut] at found
        -- The byte only makes the first piece longer.
        cases position : before.count 10 with
        | zero =>
          rw [position] at found
          cases found
          exact ⟨_, rfl, inside.trans (List.suffix_cons _ _).isInfix⟩
        | succ position' =>
          rw [position] at found
          exact ⟨piece, found, inside⟩

theorem exists_stripTerminator (piece : Bytes) :
    ∃ tail, piece = stripTerminator piece ++ tail ∧ ∀ byte ∈ tail, byte = 10 ∨ byte = 13 := by
  unfold stripTerminator
  split
  · next feed =>
    obtain ⟨body, rfl⟩ := List.getLast?_eq_some_iff.1 feed
    rw [List.dropLast_concat]
    dsimp only
    split
    · next ret =>
      obtain ⟨body, rfl⟩ := List.getLast?_eq_some_iff.1 ret
      rw [List.dropLast_concat]
      exact ⟨[13, 10], by simp, by simp⟩
    · exact ⟨[10], rfl, by simp⟩
  · exact ⟨[], (List.append_nil _).symm, List.forall_mem_nil _⟩

theorem infix_stripTerminator {piece : Bytes} (noFeed : 10 ∉ part) (noReturn : 13 ∉ part)
    (inside : part <:+: piece) : part <:+: stripTerminator piece := by
  obtain ⟨front, back, rfl⟩ := inside
  obtain ⟨tail, shape, ends⟩ := exists_stripTerminator (front ++ part ++ back)
  have apart (byte : UInt8) (member : byte ∈ part) : byte ∉ tail := by
    intro stripped
    rcases ends byte stripped with rfl | rfl
    · exact noFeed member
    · exact noReturn member
  rcases List.append_eq_append_iff.1 shape with ⟨middle, kept, -⟩ | ⟨middle, split, rfl⟩
  · exact ⟨front, middle, kept.symm⟩
  -- What is stripped would have to reach into the stretch.
  rcases List.append_eq_append_iff.1 split with ⟨rest, kept, rfl⟩ | ⟨rest, -, rfl⟩
  · have nothing : middle = [] := List.eq_nil_iff_forall_not_mem.2 fun byte member =>
      apart byte (List.mem_append_right _ member) (List.mem_append_left _ member)
    subst nothing
    exact ⟨front, [], by rw [kept, List.append_nil, List.append_nil]⟩
  · have nothing : part = [] := List.eq_nil_iff_forall_not_mem.2 fun byte member =>
      apart byte member (List.mem_append_left _ (List.mem_append_right _ member))
    rw [nothing]
    exact List.nil_infix

/-- A stretch without line ends stands on the line behind as many as line feeds come before it. -/
theorem getElem?_lines (written : part ≠ []) (noFeed : 10 ∉ part) (noReturn : 13 ∉ part) :
    ∃ line, (lines (before ++ part ++ after))[before.count 10]? = some line ∧ part <:+: line := by
  obtain ⟨piece, found, inside⟩ := @getElem?_pieces before part after written noFeed
  refine ⟨stripTerminator piece, ?_, infix_stripTerminator noFeed noReturn inside⟩
  rw [lines, List.getElem?_map, found, Option.map_some]

end Document

end Retag
