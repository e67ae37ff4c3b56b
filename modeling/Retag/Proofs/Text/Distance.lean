import Mathlib.Data.List.Infix
import Retag.Proofs.Text.Edits

/-! The table of the edit distance, row by row. A row holds how far one part of the source is from every front part
of the target; the rule that makes the next row is the recursion on last elements, so the last cell of the last row
is the distance. Main statement: one row that is overwritten cell by cell gives the same, and no cell that it
reads or writes is outside the row.
-/

set_option autoImplicit false

namespace Retag.Edit

variable {Item : Type}

theorem inits_eq_cons (target : List Item) : target.inits = [] :: target.inits.tail := by
  cases target <;> simp

variable [DecidableEq Item]

/-! ## Rows of the table -/

def row (source target : List Item) : List Nat := target.inits.map (levenshtein source)

theorem row_eq_cons (source target : List Item) :
    row source target = source.length :: target.inits.tail.map (levenshtein source) := by
  rw [row, inits_eq_cons, List.map_cons, levenshtein_nil_right, List.tail_cons]

@[simp] theorem length_row (source target : List Item) : (row source target).length = target.length + 1 := by
  rw [row, List.length_map, List.length_inits]

theorem row_nil (target : List Item) : row [] target = List.range (target.length + 1) := by
  apply List.ext_getElem
  · rw [length_row, List.length_range]
  · intro column inRow inRange
    simp [row] at inRow ⊢
    omega

theorem getElem?_row (source target : List Item) :
    (row source target)[target.length]? = some (levenshtein source target) := by
  simp [row]

theorem nextCells_inits (source seen target : List Item) (item : Item) :
    nextCells item (levenshtein source seen) (levenshtein (source ++ [item]) seen) target
        (target.inits.tail.map fun front => levenshtein source (seen ++ front)) =
      target.inits.tail.map fun front => levenshtein (source ++ [item]) (seen ++ front) := by
  induction target generalizing seen with
  | nil => rfl
  | cons other target ih =>
    -- Diagonal, left and upper cell are the three cases of the recursion on last elements.
    have cell : levenshtein (source ++ [item]) (seen ++ [other]) =
        min (levenshtein source seen + if item = other then 0 else 1)
          (min (levenshtein (source ++ [item]) seen + 1) (levenshtein source (seen ++ [other]) + 1)) := by
      rw [levenshtein_append_singleton, Nat.add_min_add_right, Nat.min_comm (levenshtein source _)]
    have onward := ih (seen ++ [other])
    rw [List.inits_cons, List.tail_cons, inits_eq_cons target]
    simp only [List.append_assoc, List.singleton_append] at onward
    simp only [List.map_cons, List.map_map, nextCells, Function.comp_def, ← cell, onward]

theorem nextRow_row (source target : List Item) (item : Item) :
    nextRow target item (row source target) = row (source ++ [item]) target := by
  have cells := nextCells_inits source [] target item
  simp only [levenshtein_nil_right, List.nil_append, List.length_append, List.length_singleton] at cells
  rw [row_eq_cons, row_eq_cons, nextRow, cells, List.length_append, List.length_singleton]

theorem foldl_nextRow (done source target : List Item) :
    source.foldl (fun row item => nextRow target item row) (row done target) = row (done ++ source) target := by
  induction source generalizing done with
  | nil => rw [List.foldl_nil, List.append_nil]
  | cons item source ih => rw [List.foldl_cons, nextRow_row, ih, List.append_assoc, List.singleton_append]

theorem foldl_nextRow_range (source target : List Item) :
    source.foldl (fun row item => nextRow target item row) (List.range (target.length + 1)) = row source target := by
  rw [← row_nil, foldl_nextRow, List.nil_append]

theorem distance_eq_levenshtein (source target : List Item) : distance source target = levenshtein source target := by
  rw [distance, foldl_nextRow_range, List.getLastD_eq_getLast?, List.getLast?_eq_getElem?, length_row,
    Nat.add_sub_cancel, getElem?_row, Option.getD_some]

/-! ## One row in place -/

/-- Overwrites the cells behind this column from left to right; what stood in a cell is the diagonal of the next one.
Without a result when a cell is outside the row. -/
def sweep? (item : Item) : (column diagonal : Nat) → (target : List Item) → (row : List Nat) → Option (List Nat)
  | _, _, [], row => some row
  | column, diagonal, other :: target, row => do
      let left ← row[column]?
      let above ← row[column + 1]?
      let substituted := diagonal + if item = other then 0 else 1
      sweep? item (column + 1) above target (row.set (column + 1) (min (min substituted (left + 1)) (above + 1)))

def overwrite? (target : List Item) (row : List Nat) (numbered : Item × Nat) : Option (List Nat) := do
  let diagonal ← row[0]?
  sweep? numbered.1 0 diagonal target (row.set 0 (numbered.2 + 1))

def inPlace? (source target : List Item) : Option Nat := do
  let row ← source.zipIdx.foldlM (overwrite? target) (List.range (target.length + 1))
  row[target.length]?

/-- What is in front of the column is new, what is behind it belongs to the row above. -/
theorem sweep?_eq (item : Item) (front : List Nat) (left diagonal : Nat) (target : List Item) (above : List Nat)
    (wide : above.length = target.length) :
    sweep? item front.length diagonal target (front ++ left :: above) =
      some (front ++ left :: nextCells item diagonal left target above) := by
  induction target generalizing front left diagonal above with
  | nil =>
    rw [List.length_nil, List.length_eq_zero_iff] at wide
    subst wide
    rfl
  | cons other target ih =>
    cases above with
    | nil => simp at wide
    | cons cell above =>
      -- The new cell joins the front, and the one that it replaces is the next diagonal.
      have onward := ih (front ++ [left]) (min (min (diagonal + if item = other then 0 else 1) (left + 1)) (cell + 1))
        cell above (Nat.succ.inj wide)
      have atColumn : (front ++ left :: cell :: above)[front.length]? = some left := by simp
      have behind : (front ++ left :: cell :: above)[front.length + 1]? = some cell := by simp
      simp only [sweep?, atColumn, behind, Option.bind_eq_bind, Option.bind_some, nextCells]
      simpa [Nat.min_assoc] using onward

theorem overwrite?_row (source target : List Item) (item : Item) :
    overwrite? target (row source target) (item, source.length) = some (row (source ++ [item]) target) := by
  have swept := sweep?_eq item [] (source.length + 1) source.length target
    (target.inits.tail.map (levenshtein source)) (by simp)
  rw [← nextRow_row, row_eq_cons, nextRow]
  exact swept

theorem foldlM_overwrite? (done source target : List Item) :
    (source.zipIdx done.length).foldlM (overwrite? target) (row done target) = some (row (done ++ source) target) := by
  induction source generalizing done with
  | nil => rw [List.append_nil]; rfl
  | cons item source ih =>
    have onward := ih (done ++ [item])
    rw [List.length_append, List.length_singleton, List.append_assoc, List.singleton_append] at onward
    rw [List.zipIdx_cons, List.foldlM_cons, overwrite?_row]
    exact onward

/-- No cell is missing, whatever the two sequences are. -/
theorem inPlace?_eq (source target : List Item) : inPlace? source target = some (distance source target) := by
  have swept := foldlM_overwrite? [] source target
  rw [List.length_nil, row_nil, List.nil_append] at swept
  rw [inPlace?, swept, distance_eq_levenshtein]
  exact getElem?_row source target

theorem isLeast_distance (source target : List Item) :
    IsLeast {count | Times count source target} (distance source target) := by
  rw [distance_eq_levenshtein]
  exact isLeast_levenshtein source target

end Retag.Edit
