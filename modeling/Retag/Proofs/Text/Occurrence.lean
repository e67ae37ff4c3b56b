import Retag.Proofs.Text.Encoding
import Retag.Text.Occurrence

/-! First occurrences in characters and in bytes. An encoded pattern occurs in an encoded text just where
the pattern occurs in the text: no byte inside a character starts one, so the search passes over the
bytes of a character that the pattern does not start with.
-/

set_option autoImplicit false

namespace Retag.Occurrence

variable {Item : Type} [DecidableEq Item] {pattern sequence replacement : List Item}

theorem splitFirst_append {front : List Item}
    (absent : ∀ item ∈ front, ∀ rest, after? pattern (item :: rest) = none) :
    splitFirst pattern (front ++ sequence) =
      (splitFirst pattern sequence).map fun (before, rest) => (front ++ before, rest) := by
  induction front with
  | nil => simp
  | cons item front ih =>
    have onward := ih fun other member => absent other (List.mem_cons_of_mem _ member)
    rw [List.cons_append, splitFirst, absent item List.mem_cons_self, onward, Option.map_map]
    rfl

theorem replaceFirst?_subset {replaced : List Item}
    (found : replaceFirst? pattern replacement sequence = some replaced) : replaced ⊆ sequence ++ replacement := by
  rw [replaceFirst?, Option.map_eq_some_iff] at found
  obtain ⟨⟨before, rest⟩, split, rfl⟩ := found
  intro item member
  rw [eq_of_splitFirst split]
  simp only [List.mem_append] at member ⊢
  rcases member with (inBefore | inReplacement) | inRest
  · exact .inl (.inl (.inl inBefore))
  · exact .inr inReplacement
  · exact .inl (.inr inRest)

/-! ## Encoded texts -/

open Retag.Bytes (ofChars ofChars_append)

theorem after?_ofChars (pattern line : List Char) :
    after? (ofChars pattern) (ofChars line) = (after? pattern line).map ofChars := by
  ext rest
  rw [after?_eq_some_iff, Option.map_eq_some_iff]
  constructor
  · intro same
    obtain ⟨back, rfl, rfl⟩ := Bytes.exists_of_ofChars_eq_append same
    exact ⟨back, after?_eq_some_iff.2 rfl, rfl⟩
  · rintro ⟨back, found, rfl⟩
    rw [after?_eq_some_iff.1 found, ofChars_append]

/-- The first occurrence in bytes is the first occurrence in characters. -/
theorem splitFirst_ofChars (pattern line : List Char) :
    splitFirst (ofChars pattern) (ofChars line) =
      (splitFirst pattern line).map (Prod.map ofChars ofChars) := by
  induction line with
  | nil =>
    have front := after?_ofChars pattern []
    change after? (ofChars pattern) [] = _ at front
    change splitFirst (ofChars pattern) [] = _
    rw [splitFirst, splitFirst, front, Option.map_map, Option.map_map]
    rfl
  | cons char line ih =>
    have shape : ofChars (char :: line) = String.utf8EncodeChar char ++ ofChars line := rfl
    obtain ⟨lead, tail, encoded, -, inner⟩ := Bytes.encode_eq_cons char
    have front := after?_ofChars pattern (char :: line)
    rw [shape, encoded, List.cons_append] at front ⊢
    rw [splitFirst, splitFirst, front]
    cases found : after? pattern (char :: line) with
    | some rest => rfl
    | none =>
      -- The pattern is not empty, so it starts with a byte that starts a character.
      have absent (byte : UInt8) (member : byte ∈ tail) (rest : Bytes) :
          after? (ofChars pattern) (byte :: rest) = none := by
        cases pattern with
        | nil => cases found
        | cons first pattern =>
          obtain ⟨start, more, encoded', starts, -⟩ := Bytes.encode_eq_cons first
          have shape' : ofChars (first :: pattern) = String.utf8EncodeChar first ++ ofChars pattern := rfl
          rw [shape', encoded', List.cons_append, after?, if_neg]
          rintro rfl
          exact inner _ member starts
      simp only [Option.map_none, splitFirst_append absent, ih, Option.map_map]
      congr 1
      funext parts
      cases parts
      simp [ofChars, encoded]

end Retag.Occurrence
