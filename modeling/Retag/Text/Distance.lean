/-!
Edit distance of two sequences: how many insertions, deletions and substitutions of one element
lead from one to the other. `distance` keeps one row of the table that `levenshtein` describes.
-/

set_option autoImplicit false

namespace Retag.Edit

variable {Item : Type} [DecidableEq Item]

def levenshtein : (source target : List Item) → Nat
  | [], target => target.length
  | source, [] => source.length
  | item :: source, other :: target =>
      min (levenshtein source target + if item = other then 0 else 1)
        (min (levenshtein source (other :: target)) (levenshtein (item :: source) target) + 1)
  termination_by source target => source.length + target.length

/-- The rest of the next row: `diagonal` and `left` are the cells before the current column in the
row above and in the new row. -/
def nextCells (item : Item) (diagonal left : Nat) : (target : List Item) → (above : List Nat) → List Nat
  | other :: target, cell :: above =>
      let next := min (diagonal + if item = other then 0 else 1) (min (left + 1) (cell + 1))
      next :: nextCells item cell next target above
  | _, _ => []

def nextRow (target : List Item) (item : Item) : (row : List Nat) → List Nat
  | diagonal :: above => (diagonal + 1) :: nextCells item diagonal (diagonal + 1) target above
  | [] => []

def distance (source target : List Item) : Nat :=
  (source.foldl (fun row item => nextRow target item row) (List.range (target.length + 1))).getLastD 0

end Retag.Edit
