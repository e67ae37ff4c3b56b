import Retag.Proofs.Rule.Hits

/-! The replacement put together by positions. The first place is found by comparing windows of the pattern's
length, what is kept is cut out of the line on both sides of it, and the room for the result is counted
beforehand. Main statement: on every line this gives what replacing the first occurrence gives, in just that room,
and never asks for windows without length, for a negative number or for a part that reaches outside the line.
-/

set_option autoImplicit false

namespace Retag

namespace Occurrence

variable {Item : Type} {pattern replacement sequence front rest : List Item}

/-! ## Parts by position -/

def windows (width : Nat) (sequence : List Item) : List (List Item) :=
  (List.range (sequence.length + 1 - width)).map fun start => (sequence.drop start).take width

def windows? (width : Nat) (sequence : List Item) : Option (List (List Item)) :=
  if width = 0 then none else some (windows width sequence)

/-- The part from one position to another; refused unless both are in the sequence, and in this order. -/
def slice? (sequence : List Item) (first last : Nat) : Option (List Item) :=
  if first ≤ last ∧ last ≤ sequence.length then some ((sequence.take last).drop first) else none

def difference? (whole part : Nat) : Option Nat :=
  if part ≤ whole then some (whole - part) else none

structure Reserved (Item : Type) where
  room : Nat
  items : List Item
  deriving DecidableEq

theorem windows_of_lt {width : Nat} (long : sequence.length < width) : windows width sequence = [] := by
  rw [windows, Nat.sub_eq_zero_of_le long, List.range_zero, List.map_nil]

theorem windows_cons {width : Nat} {item : Item} (fits : width ≤ sequence.length + 1) :
    windows width (item :: sequence) = (item :: sequence).take width :: windows width sequence := by
  rw [windows, windows, List.length_cons, Nat.sub_add_comm fits, List.range_succ_eq_map]
  simp

theorem slice?_front (front rest : List Item) : slice? (front ++ rest) 0 front.length = some front := by
  rw [slice?, if_pos ⟨Nat.zero_le _, by simp⟩, List.take_left, List.drop_zero]

theorem slice?_rest (front rest : List Item) :
    slice? (front ++ rest) front.length (front ++ rest).length = some rest := by
  rw [slice?, if_pos ⟨by simp, Nat.le_refl _⟩, List.take_length, List.drop_left]

section Search

variable [DecidableEq Item]

/-- Where the first window begins that is the pattern; a pattern without elements stands at the very start. -/
def start? (pattern sequence : List Item) : Option (Option Nat) :=
  if pattern.isEmpty then some (some 0)
  else do
    let windows ← windows? pattern.length sequence
    return windows.findIdx? (· = pattern)

/-- The sequence with its first place replaced, if it has one; no result when anything is refused. -/
def assemble? (pattern replacement sequence : List Item) : Option (Option (Reserved Item)) := do
  match ← start? pattern sequence with
  | none => return none
  | some start =>
      let kept ← difference? sequence.length pattern.length
      let before ← slice? sequence 0 start
      let rest ← slice? sequence (start + pattern.length) sequence.length
      return some ⟨kept + replacement.length, before ++ replacement ++ rest⟩

theorem findIdx?_windows (written : pattern ≠ []) :
    (windows pattern.length sequence).findIdx? (· = pattern) =
      (splitFirst pattern sequence).map fun parts => parts.1.length := by
  have absent {sequence : List Item} (long : sequence.length < pattern.length) :
      splitFirst pattern sequence = none :=
    splitFirst_eq_none_iff.2 fun inside => Nat.not_le_of_lt long inside.length_le
  induction sequence with
  | nil =>
    have long : ([] : List Item).length < pattern.length := List.length_pos_iff.2 written
    rw [windows_of_lt long, absent long]
    rfl
  | cons item sequence ih =>
    by_cases fits : pattern.length ≤ sequence.length + 1
    · rw [windows_cons fits, List.findIdx?_cons, ih, splitFirst]
      cases begun : after? pattern (item :: sequence) with
      | some rest =>
        have window : (item :: sequence).take pattern.length = pattern := by
          rw [after?_eq_some_iff.1 begun, List.take_left]
        simp [window]
      | none =>
        have window : (item :: sequence).take pattern.length ≠ pattern := fun same =>
          after?_eq_none_iff.1 begun (same ▸ List.take_prefix _ _)
        simp [window, Function.comp_def]
    · -- There are no windows, and a pattern that is longer than the sequence does not stand in it.
      have long : (item :: sequence).length < pattern.length := Nat.lt_of_not_le fits
      rw [windows_of_lt long, absent long]
      rfl

theorem start?_eq (pattern sequence : List Item) :
    start? pattern sequence = some ((splitFirst pattern sequence).map fun parts => parts.1.length) := by
  cases pattern with
  | nil => cases sequence <;> rfl
  | cons expected pattern =>
    rw [← findIdx?_windows (List.cons_ne_nil expected pattern)]
    simp [start?, windows?]

theorem assemble?_eq (pattern replacement sequence : List Item) : assemble? pattern replacement sequence =
    some ((replaceFirst? pattern replacement sequence).map fun items => ⟨items.length, items⟩) := by
  cases split : splitFirst pattern sequence with
  | none => simp [assemble?, start?_eq, replaceFirst?, split]
  | some parts =>
    obtain ⟨before, rest⟩ := parts
    have whole := eq_of_splitFirst split
    have lengths : sequence.length = before.length + pattern.length + rest.length := by
      rw [whole, List.length_append, List.length_append]
    have kept : difference? sequence.length pattern.length = some (before.length + rest.length) := by
      rw [difference?, if_pos (by omega), Option.some.injEq]
      omega
    have front : slice? sequence 0 before.length = some before := by
      rw [whole, List.append_assoc]
      exact slice?_front before (pattern ++ rest)
    have back : slice? sequence (before.length + pattern.length) sequence.length = some rest := by
      rw [whole, ← List.length_append]
      exact slice?_rest (before ++ pattern) rest
    have filled : before.length + rest.length + replacement.length = (before ++ replacement ++ rest).length := by
      simp only [List.length_append]
      omega
    simp [assemble?, start?_eq, replaceFirst?, split, kept, front, back, filled]

/-! ## Later places -/

theorem mem_places_iff {place : Nat} :
    place ∈ places pattern sequence ↔ place ≤ sequence.length ∧ pattern <+: sequence.drop place := by
  rw [places, List.mem_filter, List.mem_range, Nat.lt_succ_iff, List.isPrefixOf_iff_prefix]

theorem mem_places_append_iff {later : Nat} :
    front.length + later ∈ places pattern (front ++ rest) ↔ later ∈ places pattern rest := by
  rw [mem_places_iff, mem_places_iff, List.length_append, Nat.add_le_add_iff_left]
  simp

end Search

end Occurrence

namespace Rule

open Occurrence (assemble? places)

/-- Every line of bytes and every pattern: longer than the line, overlapping itself or empty. The place that is
replaced is the first one, what is in front of it and behind it is kept, places of the pattern behind it included. -/
theorem replaces_first_place (rule : Rule) (line : Bytes) :
    (rule.replaceBytes? line = none ↔ ¬ Bytes.ofText rule.pattern <:+: line) ∧
    (∀ next, rule.replaceBytes? line = some next ↔ ∃ before rest,
      line = before ++ Bytes.ofText rule.pattern ++ rest ∧
      (∀ front back, line = front ++ Bytes.ofText rule.pattern ++ back → before.length ≤ front.length) ∧
      next = before ++ Bytes.ofText rule.replacement ++ rest ∧
      ∀ later, (before ++ Bytes.ofText rule.pattern).length + later ∈ places (Bytes.ofText rule.pattern) line ↔
        (before ++ Bytes.ofText rule.replacement).length + later ∈ places (Bytes.ofText rule.pattern) next) ∧
    assemble? (Bytes.ofText rule.pattern) (Bytes.ofText rule.replacement) line =
      some ((rule.replaceBytes? line).map fun next => ⟨next.length, next⟩) := by
  refine ⟨replaceBytes?_eq_none_iff, fun next => ?_, Occurrence.assemble?_eq _ _ _⟩
  constructor
  · intro replaced
    obtain ⟨before, rest, split, rfl⟩ := replaceBytes?_eq_some_iff.1 replaced
    obtain ⟨whole, least⟩ := Occurrence.splitFirst_eq_some_iff.1 split
    refine ⟨before, rest, whole, least, rfl, fun later => ?_⟩
    rw [whole, Occurrence.mem_places_append_iff, Occurrence.mem_places_append_iff]
  · rintro ⟨before, rest, whole, least, rfl, -⟩
    exact replaceBytes?_eq_some_iff.2 ⟨before, rest, Occurrence.splitFirst_eq_some_iff.2 ⟨whole, least⟩, rfl⟩

/-- The pattern stands at two places that overlap; the first one is replaced, and what is left of the other is kept. -/
example : Rule.replaceBytes? ⟨"aa", "b"⟩ (Bytes.ofText "caaad") = some (Bytes.ofText "cbad") := by decide

end Rule

end Retag
