/-!
First occurrences of a pattern in a sequence. `splitFirst` cuts a sequence around the earliest
place where the pattern stands; a pattern without elements stands at the very start.
-/

set_option autoImplicit false

namespace Retag.Occurrence

variable {Item : Type} [DecidableEq Item]

def after? : (pattern sequence : List Item) → Option (List Item)
  | [], sequence => some sequence
  | _ :: _, [] => none
  | expected :: pattern, item :: sequence =>
      if expected = item then after? pattern sequence else none

def splitFirst (pattern : List Item) : List Item → Option (List Item × List Item)
  | [] => (after? pattern []).map fun rest => ([], rest)
  | item :: sequence =>
      match after? pattern (item :: sequence) with
      | some rest => some ([], rest)
      | none => (splitFirst pattern sequence).map fun (before, rest) => (item :: before, rest)

def replaceFirst? (pattern replacement sequence : List Item) : Option (List Item) :=
  (splitFirst pattern sequence).map fun (before, rest) => before ++ replacement ++ rest

def contains (pattern sequence : List Item) : Bool := (splitFirst pattern sequence).isSome

theorem after?_eq_some_iff {pattern sequence rest : List Item} :
    after? pattern sequence = some rest ↔ sequence = pattern ++ rest := by
  induction pattern generalizing sequence with
  | nil => simp [after?]
  | cons expected pattern ih =>
    cases sequence with
    | nil => simp [after?]
    | cons item sequence =>
      by_cases same : expected = item
      · subst same; simp [after?, ih]
      · simp [after?, same, Ne.symm same]

theorem eq_of_splitFirst {pattern sequence before rest : List Item}
    (split : splitFirst pattern sequence = some (before, rest)) :
    sequence = before ++ pattern ++ rest := by
  induction sequence generalizing before with
  | nil =>
    simp only [splitFirst, Option.map_eq_some_iff, Prod.mk.injEq] at split
    obtain ⟨tail, found, rfl, rfl⟩ := split
    simpa using after?_eq_some_iff.1 found
  | cons item sequence ih =>
    cases found : after? pattern (item :: sequence) with
    | some tail =>
      simp only [splitFirst, found, Option.some.injEq, Prod.mk.injEq] at split
      obtain ⟨rfl, rfl⟩ := split
      simpa using after?_eq_some_iff.1 found
    | none =>
      simp only [splitFirst, found, Option.map_eq_some_iff, Prod.mk.injEq, Prod.exists] at split
      obtain ⟨first, tail, splitRest, rfl, rfl⟩ := split
      simp [ih splitRest]

end Retag.Occurrence
