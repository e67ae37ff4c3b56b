import Mathlib.Order.Bounds.Basic
import Retag.Text.Distance

/-! Edits, one after the other, that lead from one sequence to another. They may act anywhere and in any order,
on elements that earlier ones put in as well. Main statement: no way takes fewer of them than the recursion on
first elements says, and one takes just that many; the same two sequences read backwards are as far apart.
-/

set_option autoImplicit false

namespace Retag.Edit

variable {Item : Type} {source between target : List Item} {count : Nat}

/-! ## Sequences of edits -/

/-- One element is put in, taken out or exchanged. -/
inductive Once : (source target : List Item) → Prop where
  | insertion (front back : List Item) (item : Item) : Once (front ++ back) (front ++ item :: back)
  | deletion (front back : List Item) (item : Item) : Once (front ++ item :: back) (front ++ back)
  | substitution (front back : List Item) (item other : Item) :
      Once (front ++ item :: back) (front ++ other :: back)

inductive Times : Nat → (source target : List Item) → Prop where
  | zero (source : List Item) : Times 0 source source
  | succ {count : Nat} {source between target : List Item} : Once source between →
      Times count between target → Times (count + 1) source target

theorem Times.map {change : List Item → List Item}
    (once : ∀ {source target}, Once source target → Once (change source) (change target))
    (edits : Times count source target) : Times count (change source) (change target) := by
  induction edits with
  | zero source => exact .zero _
  | succ edit _ ih => exact .succ (once edit) ih

theorem Times.reverse (edits : Times count source target) : Times count source.reverse target.reverse := by
  refine edits.map fun edit => ?_
  cases edit with
  | insertion front back item => simpa using Once.insertion back.reverse front.reverse item
  | deletion front back item => simpa using Once.deletion back.reverse front.reverse item
  | substitution front back item other =>
    simpa using Once.substitution back.reverse front.reverse item other

theorem Times.cons (item : Item) (edits : Times count source target) :
    Times count (item :: source) (item :: target) := by
  refine edits.map fun edit => ?_
  cases edit with
  | insertion front back other => exact .insertion (item :: front) back other
  | deletion front back other => exact .deletion (item :: front) back other
  | substitution front back old new => exact .substitution (item :: front) back old new

theorem times_insertions (target : List Item) : Times target.length [] target := by
  induction target with
  | nil => exact .zero []
  | cons item target ih => exact .succ (.insertion [] [] item) (ih.cons item)

theorem times_deletions (source : List Item) : Times source.length source [] := by
  induction source with
  | nil => exact .zero []
  | cons item source ih => exact .succ (.deletion [] source item) ih

/-! ## The recursion on first elements -/

section Recursion

variable [DecidableEq Item]

@[simp] theorem levenshtein_nil_left (target : List Item) : levenshtein [] target = target.length := by
  rw [levenshtein]

@[simp] theorem levenshtein_nil_right (source : List Item) : levenshtein source [] = source.length := by
  cases source <;> simp [levenshtein]

theorem levenshtein_cons_cons (item other : Item) (source target : List Item) :
    levenshtein (item :: source) (other :: target) =
      min (levenshtein source target + if item = other then 0 else 1)
        (min (levenshtein source (other :: target)) (levenshtein (item :: source) target) + 1) := by
  rw [levenshtein]

theorem levenshtein_self (source : List Item) : levenshtein source source = 0 := by
  induction source with
  | nil => exact levenshtein_nil_left []
  | cons item source ih => rw [levenshtein_cons_cons, ih, if_pos rfl, Nat.add_zero, Nat.zero_min]

/-- So many edits as the recursion says are enough: each of its three cases begins with the edit it counts, and
keeps equal first elements without one. -/
theorem times_levenshtein (source target : List Item) : Times (levenshtein source target) source target := by
  fun_induction levenshtein source target with
  | case1 target => exact times_insertions target
  | case2 source _ => exact times_deletions source
  | case3 item source other target ihRest ihDeleted ihInserted =>
    have kept : Times (levenshtein source target + if item = other then 0 else 1)
        (item :: source) (other :: target) := by
      by_cases same : item = other
      · subst same
        simpa using ihRest.cons item
      · simpa [same] using Times.succ (.substitution [] source item other) (ihRest.cons other)
    have deleted : Times (levenshtein source (other :: target) + 1) (item :: source) (other :: target) :=
      .succ (.deletion [] source item) ihDeleted
    have inserted : Times (levenshtein (item :: source) target + 1) (item :: source) (other :: target) :=
      .succ (.insertion [] (item :: source) other) (ihInserted.cons other)
    rw [← Nat.add_min_add_right]
    exact min_rec' (Times · _ _) kept (min_rec' (Times · _ _) deleted inserted)

/-- No sequence is more than one edit further from the first one than from the second. -/
def Near (source between : List Item) : Prop :=
  ∀ target, levenshtein source target ≤ levenshtein between target + 1

theorem levenshtein_cons_right_le (source target : List Item) (item : Item) :
    levenshtein source (item :: target) ≤ levenshtein source target + 1 := by
  cases source with
  | nil => simp
  | cons other source => rw [levenshtein_cons_cons]; omega

theorem near_deletion (source : List Item) (item : Item) : Near (item :: source) source := by
  intro target
  cases target with
  | nil => simp
  | cons other target => rw [levenshtein_cons_cons]; omega

theorem near_insertion (source : List Item) (item : Item) : Near source (item :: source) := by
  intro target
  induction target with
  | nil => rw [levenshtein_nil_right, levenshtein_nil_right, List.length_cons]; omega
  | cons other target ih =>
    -- Only the case that takes the target's first element off leaves `item` in place, so the induction is on the
    -- target; the other two cases already speak of `source`.
    have longer := levenshtein_cons_right_le source target other
    rw [levenshtein_cons_cons]
    omega

theorem near_substitution (source : List Item) (item other : Item) :
    Near (item :: source) (other :: source) := by
  intro target
  induction target with
  | nil => simp
  | cons first target ih =>
    rw [levenshtein_cons_cons, levenshtein_cons_cons]
    split <;> split <;> omega

theorem Near.cons (near : Near source between) (item : Item) : Near (item :: source) (item :: between) := by
  intro target
  induction target with
  | nil => simpa using near []
  | cons first target ih =>
    have rest := near target
    have whole := near (first :: target)
    rw [levenshtein_cons_cons, levenshtein_cons_cons]
    omega

theorem Near.append (near : Near source between) (front : List Item) : Near (front ++ source) (front ++ between) := by
  induction front with
  | nil => exact near
  | cons item front ih => exact ih.cons item

theorem Once.near (edit : Once source between) : Near source between := by
  cases edit with
  | insertion front back item => exact (near_insertion back item).append front
  | deletion front back item => exact (near_deletion back item).append front
  | substitution front back item other => exact (near_substitution back item other).append front

/-- Fewer edits than the recursion says are not enough, wherever and in whatever order they are made. -/
theorem levenshtein_le_of_times (edits : Times count source target) : levenshtein source target ≤ count := by
  induction edits with
  | zero source => rw [levenshtein_self]
  | succ edit _ ih => exact (edit.near _).trans (Nat.succ_le_succ ih)

theorem isLeast_levenshtein (source target : List Item) :
    IsLeast {count | Times count source target} (levenshtein source target) :=
  ⟨times_levenshtein source target, fun _ => levenshtein_le_of_times⟩

/-! ## The recursion on last elements -/

theorem levenshtein_reverse_le (source target : List Item) :
    levenshtein source.reverse target.reverse ≤ levenshtein source target :=
  levenshtein_le_of_times (times_levenshtein source target).reverse

theorem levenshtein_reverse (source target : List Item) :
    levenshtein source.reverse target.reverse = levenshtein source target := by
  refine Nat.le_antisymm (levenshtein_reverse_le source target) ?_
  simpa using levenshtein_reverse_le source.reverse target.reverse

theorem levenshtein_append_singleton (source target : List Item) (item other : Item) :
    levenshtein (source ++ [item]) (target ++ [other]) =
      min (levenshtein source target + if item = other then 0 else 1)
        (min (levenshtein source (target ++ [other])) (levenshtein (source ++ [item]) target) + 1) := by
  -- Last elements are the first ones of the reversed sequences, which are as far apart.
  have backwards := levenshtein_cons_cons item other source.reverse target.reverse
  simp only [← List.reverse_concat, levenshtein_reverse] at backwards
  exact backwards

end Recursion

end Retag.Edit
