import Mathlib.Data.List.Infix
import Retag.Text.Occurrence

/-! Places of a pattern. The first occurrence is the place with the least number of items in front of it. A
pattern is apart from a part of a sequence when none of its places has an item in common with that part;
then exchanging the part moves the places behind it along and leaves those in front of it.
-/

set_option autoImplicit false

namespace Retag.Occurrence

variable {Item : Type} {pattern middle sequence before after rest front back : List Item}

/-! ## The first place -/

section FirstPlace

variable [DecidableEq Item]

theorem after?_eq_none_iff : after? pattern sequence = none ↔ ¬ pattern <+: sequence := by
  rw [Option.eq_none_iff_forall_ne_some, List.IsPrefix, not_exists]
  exact forall_congr' fun rest => by rw [ne_eq, after?_eq_some_iff, eq_comm]

theorem splitFirst_eq_none_iff : splitFirst pattern sequence = none ↔ ¬ pattern <:+: sequence := by
  induction sequence with
  | nil => rw [splitFirst, Option.map_eq_none_iff, after?_eq_none_iff, List.prefix_nil, List.infix_nil]
  | cons item sequence ih =>
    rw [List.infix_cons_iff, not_or, ← ih, ← after?_eq_none_iff, splitFirst]
    cases after? pattern (item :: sequence) <;> simp

theorem contains_iff : contains pattern sequence = true ↔ pattern <:+: sequence := by
  rw [contains, Option.isSome_iff_ne_none, ne_eq, splitFirst_eq_none_iff, not_not]

theorem length_le_of_splitFirst (split : splitFirst pattern sequence = some (before, rest))
    (stands : sequence = front ++ pattern ++ back) : before.length ≤ front.length := by
  induction sequence generalizing before front with
  | nil =>
    simp only [splitFirst, Option.map_eq_some_iff, Prod.mk.injEq] at split
    obtain ⟨_, -, rfl, -⟩ := split
    simp
  | cons item sequence ih =>
    cases found : after? pattern (item :: sequence) with
    | some tail =>
      simp only [splitFirst, found, Option.some.injEq, Prod.mk.injEq] at split
      simp [← split.1]
    | none =>
      simp only [splitFirst, found, Option.map_eq_some_iff, Prod.mk.injEq, Prod.exists] at split
      obtain ⟨shorter, tail, splitRest, rfl, rfl⟩ := split
      cases front with
      | nil => exact absurd ⟨back, stands.symm⟩ (after?_eq_none_iff.1 found)
      | cons first front =>
        rw [List.cons_append, List.cons_append, List.cons.injEq] at stands
        exact Nat.succ_le_succ (ih splitRest stands.2)

theorem splitFirst_eq_some_iff : splitFirst pattern sequence = some (before, rest) ↔
    sequence = before ++ pattern ++ rest ∧
      ∀ front back, sequence = front ++ pattern ++ back → before.length ≤ front.length := by
  constructor
  · intro split
    exact ⟨eq_of_splitFirst split, fun front back stands => length_le_of_splitFirst split stands⟩
  · rintro ⟨stands, least⟩
    cases split : splitFirst pattern sequence with
    | none => exact absurd ⟨before, rest, stands.symm⟩ (splitFirst_eq_none_iff.1 split)
    | some parts =>
      obtain ⟨first, tail⟩ := parts
      have first_le := length_le_of_splitFirst split stands
      have le_first := least first tail (eq_of_splitFirst split)
      have same := stands.symm.trans (eq_of_splitFirst split)
      rw [List.append_assoc, List.append_assoc] at same
      obtain ⟨rfl, same⟩ := List.append_inj same (Nat.le_antisymm le_first first_le)
      rw [List.append_cancel_left (List.append_cancel_left same)]

theorem splitFirst_congr_rest (split : splitFirst pattern (before ++ pattern ++ rest) = some (before, rest))
    (other : List Item) : splitFirst pattern (before ++ pattern ++ other) = some (before, other) := by
  refine splitFirst_eq_some_iff.2 ⟨rfl, fun front back stands => ?_⟩
  by_contra earlier
  -- An earlier place would end in front of `other`, so it would have been there before as well.
  have short : (front ++ pattern).length ≤ (before ++ pattern).length := by
    simp only [List.length_append]
    omega
  obtain ⟨between, whole⟩ := List.prefix_of_prefix_length_le ⟨back, stands.symm⟩ ⟨other, rfl⟩ short
  have stood : before ++ pattern ++ rest = front ++ pattern ++ (between ++ rest) := by
    rw [← whole, List.append_assoc]
  exact earlier (length_le_of_splitFirst split stood)

end FirstPlace

/-! ## Patterns apart from a part -/

/-- Every place of the pattern is in front of the middle part or behind it, whatever these are. -/
def Apart (pattern middle : List Item) : Prop :=
  ∀ before after front back, before ++ middle ++ after = front ++ pattern ++ back →
    (∃ between, before = front ++ pattern ++ between ∧ back = between ++ middle ++ after) ∨
      ∃ between, front = before ++ middle ++ between ∧ after = between ++ pattern ++ back

section Overlaps

variable [DecidableEq Item]

def agrees : List Item → List Item → Bool
  | [], _ => true
  | _ :: _, [] => true
  | left :: lefts, right :: rights => left = right && agrees lefts rights

def meets : List Item → List Item → Bool
  | [], _ => false
  | item :: rest, other => agrees (item :: rest) other || meets rest other

/-- However the two are laid over each other, they differ where they overlap. -/
def Mismatched (pattern middle : List Item) : Prop :=
  meets middle pattern = false ∧ meets pattern.tail middle = false

instance (pattern middle : List Item) : Decidable (Mismatched pattern middle) :=
  inferInstanceAs (Decidable (_ ∧ _))

theorem agrees_of_append_eq {left right : List Item} (same : left ++ rest = right ++ back) :
    agrees left right = true := by
  induction left generalizing right with
  | nil => rfl
  | cons item left ih =>
    cases right with
    | nil => rfl
    | cons other right =>
      rw [List.cons_append, List.cons_append, List.cons.injEq] at same
      simp [agrees, same.1, ih same.2]

theorem meets_of_agrees {part other : List Item} (skipped : List Item) (unended : part ≠ [])
    (agree : agrees part other = true) : meets (skipped ++ part) other = true := by
  induction skipped with
  | nil =>
    cases part with
    | nil => contradiction
    | cons item part => simp [meets, agree]
  | cons item skipped ih => simp [meets, ih]

private theorem begins_behind {skipped : List Item} (differ : meets middle pattern = false)
    (same : middle ++ after = skipped ++ (pattern ++ back)) :
    ∃ between, skipped = middle ++ between ∧ after = between ++ pattern ++ back := by
  rcases List.append_eq_append_iff.1 same with ⟨between, rfl, behind⟩ | ⟨part, rfl, begun⟩
  · exact ⟨between, rfl, behind.trans (List.append_assoc _ _ _).symm⟩
  · by_cases ended : part = []
    · exact ⟨[], by simp [ended], by simpa [ended] using begun.symm⟩
    · have meet := meets_of_agrees skipped ended (agrees_of_append_eq begun.symm)
      simp [meet] at differ

theorem Mismatched.apart (mismatched : Mismatched pattern middle) : Apart pattern middle := by
  obtain ⟨ofMiddle, ofPattern⟩ := mismatched
  intro before after front back same
  rw [List.append_assoc, List.append_assoc] at same
  rcases List.append_eq_append_iff.1 same with ⟨skipped, rfl, onward⟩ | ⟨skipped, rfl, onward⟩
  · obtain ⟨between, rfl, behind⟩ := begins_behind ofMiddle onward
    exact .inr ⟨between, (List.append_assoc _ _ _).symm, behind⟩
  · rcases List.append_eq_append_iff.1 onward with ⟨between, rfl, behind⟩ | ⟨part, whole, begun⟩
    · refine .inl ⟨between, (List.append_assoc _ _ _).symm, ?_⟩
      rw [behind, List.append_assoc]
    · cases skipped with
      | nil =>
        have begun : middle ++ after = [] ++ (pattern ++ back) := onward.symm
        obtain ⟨between, empty, behind⟩ := begins_behind ofMiddle begun
        exact .inr ⟨between, by simp [List.append_assoc, ← empty], behind⟩
      | cons item skipped =>
        -- What is left of the pattern behind its first items reaches into the middle part.
        by_cases ended : part = []
        · subst ended
          exact .inl ⟨[], by simp [whole], by simpa using begun.symm⟩
        · have meet := meets_of_agrees skipped ended (agrees_of_append_eq begun.symm)
          rw [whole, List.cons_append, List.tail_cons, meet] at ofPattern
          cases ofPattern

end Overlaps

theorem Apart.infix_iff (apart : Apart pattern middle) :
    pattern <:+: before ++ middle ++ after ↔ pattern <:+: before ∨ pattern <:+: after := by
  constructor
  · rintro ⟨front, back, same⟩
    rcases apart before after front back same.symm with ⟨between, rfl, -⟩ | ⟨between, -, rfl⟩
    · exact .inl ⟨front, between, rfl⟩
    · exact .inr ⟨between, back, rfl⟩
  · rintro (inside | inside)
    · exact inside.trans (by rw [List.append_assoc]; exact (List.prefix_append _ _).isInfix)
    · exact inside.trans (List.suffix_append _ _).isInfix

theorem splitFirst_exchange [DecidableEq Item] {other : List Item} (written : pattern ≠ [])
    (apart : Apart pattern other)
    (split : splitFirst pattern (before ++ middle ++ after) = some (before ++ middle ++ front, back)) :
    splitFirst pattern (before ++ other ++ after) = some (before ++ other ++ front, back) := by
  obtain ⟨stands, least⟩ := splitFirst_eq_some_iff.1 split
  have behind : after = front ++ pattern ++ back := by
    simpa only [List.append_assoc, List.append_cancel_left_eq] using stands
  have positive := List.length_pos_iff.2 written
  refine splitFirst_eq_some_iff.2 ⟨by simp [behind], fun earlier later same => ?_⟩
  rcases apart _ _ _ _ same with ⟨between, rfl, -⟩ | ⟨between, rfl, rfl⟩
  · -- A place in front of the exchanged part would have been there before.
    have lengths := least earlier (between ++ middle ++ after) (by simp)
    simp only [List.length_append] at lengths
    omega
  · have lengths := least (before ++ middle ++ between) later (by simp)
    simp only [List.length_append] at lengths ⊢
    omega

/-! ## All places -/

/-- Where in the sequence the pattern stands, overlapping places included. -/
def places [DecidableEq Item] (pattern sequence : List Item) : List Nat :=
  (List.range (sequence.length + 1)).filter fun place => pattern.isPrefixOf (sequence.drop place)

section AllPlaces

variable [DecidableEq Item]

theorem places_nil (written : pattern ≠ []) : places pattern [] = [] := by
  simp [places, written]

theorem places_cons (pattern sequence : List Item) (item : Item) : places pattern (item :: sequence) =
    (if pattern <+: item :: sequence then [0] else []) ++ (places pattern sequence).map (· + 1) := by
  rw [places, List.length_cons, List.range_succ_eq_map, List.filter_cons, List.filter_map]
  by_cases starts : pattern <+: item :: sequence
  · simp [starts, places, Function.comp_def]
  · simp [starts, places, Function.comp_def]

theorem places_eq_nil_iff : places pattern sequence = [] ↔ ¬ pattern <:+: sequence := by
  induction sequence with
  | nil => simp [places]
  | cons item sequence ih => simp [places_cons, List.infix_cons_iff, ih]

private theorem places_append_of_none (none_ : ∀ part ∈ middle.tails, part ≠ [] → ¬ pattern <+: part ++ after) :
    places pattern (middle ++ after) = (places pattern after).map (· + middle.length) := by
  induction middle with
  | nil => simp
  | cons item middle ih =>
    have onward := ih fun part inside => none_ part (by simp_all)
    have starts : ¬ pattern <+: item :: (middle ++ after) := none_ (item :: middle) (by simp) (by simp)
    rw [List.cons_append, places_cons, if_neg starts, onward]
    simp [Function.comp_def, Nat.add_assoc]

/-- The places are those in front of the middle part and those behind it, moved along by what is in front. -/
def PlacesBeside (pattern before middle after : List Item) : Prop :=
  places pattern (before ++ middle ++ after) =
    places pattern before ++ (places pattern after).map (· + (before ++ middle).length)

theorem Apart.placesBeside (written : pattern ≠ []) (apart : Apart pattern middle) :
    PlacesBeside pattern before middle after := by
  rw [PlacesBeside]
  induction before with
  | nil =>
    rw [List.nil_append, places_nil written, List.nil_append]
    apply places_append_of_none
    rintro part inside ended ⟨back, begun⟩
    obtain ⟨skipped, rfl⟩ := (List.mem_tails _ _).1 inside
    have same : [] ++ (skipped ++ part) ++ after = skipped ++ pattern ++ back := by
      simp [← begun]
    have positive := List.length_pos_iff.2 ended
    rcases apart _ _ _ _ same with ⟨between, empty, -⟩ | ⟨between, longer, -⟩
    · simp_all
    · have lengths := congrArg List.length longer
      simp only [List.nil_append, List.length_append] at lengths
      omega
  | cons item before ih =>
    have starts : pattern <+: item :: (before ++ middle ++ after) ↔ pattern <+: item :: before := by
      constructor
      · rintro ⟨back, begun⟩
        rcases apart (item :: before) after [] back begun.symm with ⟨between, stands, -⟩ | ⟨between, empty, -⟩
        · exact ⟨between, stands.symm⟩
        · simp at empty
      · intro begun
        rw [List.append_assoc]
        exact begun.trans (List.prefix_append (item :: before) _)
    simp only [List.cons_append, places_cons, starts, ih]
    simp [Function.comp_def, Nat.add_assoc]

theorem placesBeside_of_not_infix (absent : ¬ pattern <:+: before ++ middle ++ after) :
    PlacesBeside pattern before middle after := by
  have inFront : ¬ pattern <:+: before := fun inside =>
    absent (inside.trans ⟨[], middle ++ after, by simp⟩)
  have behind : ¬ pattern <:+: after := fun inside =>
    absent (inside.trans (List.suffix_append _ _).isInfix)
  rw [PlacesBeside, places_eq_nil_iff.2 absent, places_eq_nil_iff.2 inFront, places_eq_nil_iff.2 behind]
  rfl

end AllPlaces

end Retag.Occurrence
