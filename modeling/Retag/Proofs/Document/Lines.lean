import Retag.Document.Retagging

/-! Lines found by cutting a document at every line feed, independently of how it is read. The
part behind the last line feed is a line only if it is not empty, and it keeps its carriage return:
only a part that a line feed ended loses one. Main statement: these are the lines that reading
piece by piece finds, and retagging writes each of them with one terminator.
-/

set_option autoImplicit false

namespace Retag

def Bytes.IsUtf8 (bytes : Bytes) : Prop := ∃ text, bytes = Bytes.ofText text

theorem Bytes.isUtf8_iff (bytes : Bytes) : bytes.IsUtf8 ↔ bytes.chars?.isSome = true := by
  rw [Option.isSome_iff_exists]
  constructor
  · rintro ⟨text, same⟩
    exact ⟨text.toList, Bytes.chars?_eq_some_iff.2 same⟩
  · rintro ⟨chars, decoded⟩
    refine ⟨String.ofList chars, ?_⟩
    rw [Bytes.ofText, String.toList_ofList]
    exact Bytes.chars?_eq_some_iff.1 decoded

instance (bytes : Bytes) : Decidable bytes.IsUtf8 :=
  decidable_of_iff _ (Bytes.isUtf8_iff bytes).symm

namespace Document

def withoutReturn (part : Bytes) : Bytes :=
  if part.getLast? = some 13 then part.dropLast else part

/-- The lines between line feeds, and the rest behind the last one unless it is empty. -/
def cutLines (content : Bytes) : List Bytes :=
  (content.splitOn 10).dropLast.map withoutReturn ++
    ((content.splitOn 10).getLast?.filter (· ≠ [])).toList

theorem notMem_of_mem_splitOn {content part : Bytes} (member : part ∈ content.splitOn 10) :
    (10 : UInt8) ∉ part := by
  induction content generalizing part with
  | nil =>
    rw [List.splitOn_nil, List.mem_singleton] at member
    simp [member]
  | cons byte rest ih =>
    rw [List.splitOn_cons_eq_if_modifyHead] at member
    by_cases feed : byte = 10
    · rw [if_pos (beq_iff_eq.2 feed), List.mem_cons] at member
      rcases member with rfl | member
      · simp
      · exact ih member
    · rw [if_neg (by simpa using feed)] at member
      cases cut : rest.splitOn 10 with
      | nil => exact absurd cut (List.splitOn_ne_nil 10 rest)
      | cons first more =>
        rw [cut] at ih member
        rcases List.mem_cons.1 member with rfl | member
        · simpa [Ne.symm feed] using ih List.mem_cons_self
        · exact ih (List.mem_cons_of_mem first member)

/-- Reading up to each line feed gives the parts between line feeds, each with its line feed. -/
theorem pieces_eq_splitOn (content : Bytes) :
    pieces content = (content.splitOn 10).dropLast.map (· ++ [10]) ++
      ((content.splitOn 10).getLast?.filter (· ≠ [])).toList := by
  induction content with
  | nil => simp [pieces]
  | cons byte rest ih =>
    rw [pieces, List.splitOn_cons_eq_if_modifyHead, ih]
    cases cut : rest.splitOn 10 with
    | nil => exact absurd cut (List.splitOn_ne_nil 10 rest)
    | cons first more =>
      by_cases feed : byte = 10
      · simp [feed]
      · cases more with
        | nil => by_cases empty : first = [] <;> simp [feed, empty, Option.filter]
        | cons second more => simp [feed]

theorem stripTerminator_append_feed (part : Bytes) :
    stripTerminator (part ++ [10]) = withoutReturn part := by
  simp [stripTerminator, withoutReturn]

theorem stripTerminator_of_notMem {part : Bytes} (noFeed : (10 : UInt8) ∉ part) :
    stripTerminator part = part := by
  have open_ : part.getLast? ≠ some 10 := fun last => noFeed (List.mem_of_getLast? last)
  rw [stripTerminator, if_neg open_]

theorem lines_eq_cutLines (content : Bytes) : lines content = cutLines content := by
  -- What stands behind the last line feed has none, so there is nothing to strip.
  have rest : ((content.splitOn 10).getLast?.filter (· ≠ [])).toList.map stripTerminator =
      ((content.splitOn 10).getLast?.filter (· ≠ [])).toList := by
    refine (List.map_congr_left fun part member => ?_).trans (List.map_id _)
    rw [Option.mem_toList, Option.filter_eq_some_iff] at member
    exact stripTerminator_of_notMem (notMem_of_mem_splitOn (List.mem_of_getLast? member.1))
  rw [lines, pieces_eq_splitOn, List.map_append, List.map_map, rest, cutLines]
  congr 1
  exact List.map_congr_left fun part _ => stripTerminator_append_feed part

def Tally.addLines (table : Table) (tally : Tally) (lines : List Bytes) : Tally :=
  lines.foldl (fun tally line => tally.add line (table.retag line)) tally

theorem retagPieces_eq (table : Table) (ending : LineEnding) (tally : Tally) (parts : List Bytes) :
    retagPieces table ending tally parts =
      ((parts.map stripTerminator).flatMap fun line => (table.retag line).bytes ++ ending.bytes,
        tally.addLines table (parts.map stripTerminator)) := by
  induction parts generalizing tally with
  | nil => rfl
  | cons part parts ih => simp [retagPieces, retagPiece, ih, Tally.addLines]

theorem retag_eq (table : Table) (ending : LineEnding) (content : Bytes) :
    retag table ending content =
      ((cutLines content).flatMap fun line => (table.retag line).bytes ++ ending.bytes,
        (Tally.start table).addLines table (cutLines content)) := by
  rw [retag, retagPieces_eq, ← lines_eq_cutLines, lines]

namespace Tally

variable (table : Table) (tally : Tally) (lines : List Bytes)

theorem lines_addLines : (tally.addLines table lines).lines = tally.lines + lines.length := by
  induction lines generalizing tally with
  | nil => rfl
  | cons line lines ih =>
    have step := ih (tally.add line (table.retag line))
    simp only [addLines, List.foldl_cons, List.length_cons] at step ⊢
    rw [step]
    simp only [add]
    omega

theorem changedLines_addLines : (tally.addLines table lines).changedLines =
    tally.changedLines + lines.countP fun line => (table.retag line).bytes ≠ line := by
  induction lines generalizing tally with
  | nil => rfl
  | cons line lines ih =>
    have step := ih (tally.add line (table.retag line))
    simp only [addLines, List.foldl_cons, List.countP_cons] at step ⊢
    rw [step, add]
    by_cases same : (table.retag line).bytes = line
    · simp [same]
    · simp [same]
      omega

theorem nonUtf8Lines_addLines : (tally.addLines table lines).nonUtf8Lines =
    tally.nonUtf8Lines + lines.countP fun line => ¬ line.IsUtf8 := by
  induction lines generalizing tally with
  | nil => rfl
  | cons line lines ih =>
    have step := ih (tally.add line (table.retag line))
    simp only [addLines, List.foldl_cons, List.countP_cons] at step ⊢
    rw [step, add]
    by_cases valid : line.IsUtf8
    · simp [valid, (Bytes.isUtf8_iff line).1 valid]
    · have broken : line.chars?.isSome = false := by
        simpa using fun decoded => valid ((Bytes.isUtf8_iff line).2 decoded)
      simp [valid, broken]
      omega

end Tally

end Document

end Retag
