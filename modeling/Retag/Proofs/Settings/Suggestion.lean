import Mathlib.Data.List.MinMax
import Retag.Proofs.Text.Distance
import Retag.Settings.Warning

/-! Suggestions for unknown keys. Main statement: distances count the fewest edits between two texts, and the key
that is suggested is the first one at the least distance, which has to be two or less.
-/

set_option autoImplicit false

namespace Retag.Settings

def far (unknown known : String) : Nat := Edit.distance unknown.toList known.toList

theorem nearest_eq_argmin (candidates : List (String × Nat)) : nearest candidates = candidates.argmin Prod.snd := by
  rw [nearest, List.argmin]
  congr 1
  funext best? candidate
  cases best? <;> rfl

theorem argmin_map_pair (distance : String → Nat) (keys : List String) :
    (keys.map fun key => (key, distance key)).argmin Prod.snd =
      (keys.argmin distance).map fun key => (key, distance key) := by
  induction keys with
  | nil => rfl
  | cons key keys ih =>
    rw [List.map_cons, List.argmin_cons, List.argmin_cons, ih]
    cases keys.argmin distance with
    | none => rfl
    | some best =>
      simp only [Option.map_some]
      split <;> rfl

theorem argmin_filter_le (distance : String → Nat) (limit : Nat) (keys : List String) :
    (keys.filter fun key => distance key ≤ limit).argmin distance =
      (keys.argmin distance).filter fun key => distance key ≤ limit := by
  induction keys with
  | nil => rfl
  | cons key keys ih =>
    rw [List.argmin_cons]
    by_cases inside : distance key ≤ limit
    · rw [List.filter_cons_of_pos (by simpa using inside), List.argmin_cons, ih]
      cases keys.argmin distance with
      | none => simp [Option.filter_some, inside]
      | some best =>
        by_cases within : distance best ≤ limit
        · by_cases nearer : distance best < distance key <;> simp [Option.filter_some, inside, within, nearer]
        · have further : ¬ distance best < distance key := by omega
          simp [Option.filter_some, inside, within, further]
    · rw [List.filter_cons_of_neg (by simpa using inside), ih]
      cases keys.argmin distance with
      | none => simp [Option.filter_some, inside]
      | some best =>
        by_cases nearer : distance best < distance key
        · simp [nearer]
        · have outside : ¬ distance best ≤ limit := by omega
          simp [Option.filter_some, nearer, inside, outside]

theorem suggest?_eq (unknown : String) :
    suggest? unknown = (knownKeys.argmin (far unknown)).filter fun key => far unknown key ≤ 2 := by
  have near := argmin_filter_le (far unknown) suggestionLimit knownKeys
  rw [suggest?, nearest_eq_argmin, List.filter_map]
  -- The pairs are filtered by their distances, as the keys are by how far they are.
  change ((List.map (fun key => (key, far unknown key))
    (knownKeys.filter fun key => far unknown key ≤ suggestionLimit)).argmin Prod.snd).map Prod.fst = _
  rw [argmin_map_pair, near, Option.map_map]
  exact Option.map_id'

theorem suggest?_eq_some_iff {unknown key : String} : suggest? unknown = some key ↔
    knownKeys.argmin (far unknown) = some key ∧ far unknown key ≤ 2 := by
  rw [suggest?_eq, Option.filter_eq_some_iff, decide_eq_true_iff]

theorem suggest?_eq_none_iff {unknown : String} :
    suggest? unknown = none ↔ ∀ key ∈ knownKeys, 2 < far unknown key := by
  obtain ⟨best, least⟩ : ∃ best, knownKeys.argmin (far unknown) = some best := by
    rw [← Option.ne_none_iff_exists', ne_eq, List.argmin_eq_none]
    exact List.cons_ne_nil _ _
  rw [suggest?_eq, least, Option.filter_eq_none_iff]
  constructor
  · intro outside key known
    have far_best : ¬ far unknown best ≤ 2 := by simpa using outside best rfl
    have best_le := List.le_of_mem_argmin known least
    omega
  · intro outside key same
    cases same
    simpa using outside best (List.argmin_mem least)

/-- Distances are counted in the fewest edits, wherever and in whatever order these are made, and the row that they
are computed in is never left. Of the known keys the nearest is suggested, of several that are equally near the one
that comes first, and none that is more than two edits away. -/
theorem suggests_nearest_key :
    (∀ source target : String,
      IsLeast {count | Edit.Times count source.toList target.toList} (far source target) ∧
      Edit.inPlace? source.toList target.toList = some (far source target)) ∧
    ∀ unknown : String,
      (∀ key, suggest? unknown = some key ↔
        (key ∈ knownKeys ∧ (∀ other ∈ knownKeys, far unknown key ≤ far unknown other) ∧
          ∀ other ∈ knownKeys, far unknown other ≤ far unknown key →
            knownKeys.idxOf key ≤ knownKeys.idxOf other) ∧
        far unknown key ≤ 2) ∧
      (suggest? unknown = none ↔ ∀ key ∈ knownKeys, 2 < far unknown key) := by
  refine ⟨fun source target => ⟨Edit.isLeast_distance _ _, Edit.inPlace?_eq _ _⟩, ?_⟩
  refine fun unknown => ⟨fun key => ?_, ?_⟩
  · rw [suggest?_eq_some_iff, List.argmin_eq_some_iff]
  · exact suggest?_eq_none_iff

example : suggest? "enclude" = some "include" ∧ far "enclude" "exclude" = far "enclude" "include" ∧
    far "fitler" "filter" = 2 := by
  decide +kernel

end Retag.Settings
