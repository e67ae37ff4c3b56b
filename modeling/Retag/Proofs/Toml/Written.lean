import Retag.Proofs.Toml.Tables

/-! Where the keys of a document are written. Every key of every table was read at the place that its span
gives, from characters that all stand on one line, and from there the document gives the same key again.
-/

set_option autoImplicit false

namespace Retag.Toml

/-- The key is what the text gives behind `before`: it is read from `written`, which is its span. -/
structure Key.StandsIn (text before written after : List Char) (key : Key) : Prop where
  cut : text = before ++ written ++ after
  span : key.span = ⟨(written ++ after).length, after.length⟩
  reads : simpleKey (written ++ after) = some (key, after)

def Key.WrittenIn (text : List Char) (key : Key) : Prop :=
  ∃ before written after, key.StandsIn text before written after

def Key.line (text : List Char) (key : Key) : Nat :=
  (text.take (text.length - key.span.leftAtStart)).count '\n' + 1

/-! ## One key -/

theorem simpleKey_cases {input rest : List Char} {key : Key} (read : simpleKey input = some (key, rest)) :
    ∃ name, key = ⟨String.ofList name, ⟨input.length, rest.length⟩⟩ ∧
      ((input.head? = some '"' ∨ input.head? = some '\'') ∧ lineText input = some (name, rest) ∨
        ¬ (input.head? = some '"' ∨ input.head? = some '\'') ∧ bareKey input = some (name, rest)) := by
  obtain ⟨⟨⟨name, span⟩, behind⟩, spanned, same⟩ := Option.bind_eq_some_iff.1 read
  obtain ⟨⟨found, after⟩, inner, made⟩ := Option.bind_eq_some_iff.1 spanned
  cases made
  cases same
  refine ⟨_, rfl, ?_⟩
  split at inner
  · next quoted => exact .inl ⟨quoted, inner⟩
  · next bare => exact .inr ⟨bare, inner⟩

theorem bareKey_cases {input name rest : List Char} (read : bareKey input = some (name, rest)) :
    name ≠ [] ∧ input = name ++ rest := by
  unfold bareKey at read
  dsimp only at read
  split at read
  · cases read
  · next named =>
    cases read
    exact ⟨mt List.isEmpty_iff.2 named, List.takeWhile_append_dropWhile.symm⟩

theorem length_lt_of_lineText {input name rest : List Char} (read : lineText input = some (name, rest)) :
    rest.length < input.length := by
  unfold lineText at read
  split at read
  · exact Nat.lt_succ_of_le ((basicWithin_takesOnLine _).takesFront _ _ _ read).length_le
  · exact Nat.lt_succ_of_le (literalRest_takesOnLine.takesFront _ _ _ read).length_le
  · cases read

theorem simpleKey_span {input rest : List Char} {key : Key} (read : simpleKey input = some (key, rest)) :
    key.span = ⟨input.length, rest.length⟩ := by
  obtain ⟨name, rfl, -⟩ := simpleKey_cases read
  rfl

theorem length_lt_of_simpleKey {input rest : List Char} {key : Key} (read : simpleKey input = some (key, rest)) :
    rest.length < input.length := by
  obtain ⟨name, -, ⟨-, quoted⟩ | ⟨-, bare⟩⟩ := simpleKey_cases read
  · exact length_lt_of_lineText quoted
  · obtain ⟨named, rfl⟩ := bareKey_cases bare
    have positive := List.length_pos_iff.2 named
    rw [List.length_append]
    omega

theorem name_of_bareKey {input rest : List Char} {key : Key} (read : simpleKey input = some (key, rest))
    (unquoted : ¬ (input.head? = some '"' ∨ input.head? = some '\'')) : input = key.name.toList ++ rest := by
  obtain ⟨name, rfl, ⟨quoted, -⟩ | ⟨-, bare⟩⟩ := simpleKey_cases read
  · exact absurd quoted unquoted
  · rw [String.toList_ofList]
    exact (bareKey_cases bare).2

theorem simpleKey_writtenIn (text : List Char) : simpleKey.Reads text (Key.WrittenIn text) := by
  rintro input key rest ⟨before, rfl⟩ read
  obtain ⟨written, rfl, -⟩ := simpleKey_takesOnLine _ _ _ read
  refine ⟨⟨before, written, rest, (List.append_assoc _ _ _).symm, simpleKey_span read, read⟩, ?_⟩
  exact (List.suffix_append _ _).trans (List.suffix_append _ _)

namespace Key.StandsIn

variable {text before written after : List Char} {key : Key}

theorem onLine (stands : key.StandsIn text before written after) :
    ∀ char ∈ written, isCommentChar char = true := by
  obtain ⟨taken, same, fits⟩ := simpleKey_takesOnLine _ _ _ stands.reads
  rwa [List.append_cancel_right same]

theorem written_ne_nil (stands : key.StandsIn text before written after) : written ≠ [] := by
  rintro rfl
  exact absurd (length_lt_of_simpleKey stands.reads) (Nat.lt_irrefl _)

theorem line_eq (stands : key.StandsIn text before written after) :
    key.line text = before.count '\n' + 1 := by
  have lengths : text.length - key.span.leftAtStart = before.length := by
    rw [stands.cut, stands.span]
    simp only [List.length_append]
    omega
  rw [Key.line, lengths, stands.cut, List.append_assoc, List.take_left]

theorem eq_of_bare (stands : key.StandsIn text before written after)
    (unquoted : ¬ (written.head? = some '"' ∨ written.head? = some '\'')) : written = key.name.toList := by
  obtain ⟨first, more, rfl⟩ := List.exists_cons_of_ne_nil stands.written_ne_nil
  exact List.append_cancel_right (name_of_bareKey stands.reads unquoted)

end Key.StandsIn

/-! ## All keys -/

theorem Entries.grows_forall_key (keyed : Key → Prop) :
    Grows keyed fun entries => ∀ entry ∈ entries, keyed entry.1 where
  nil := List.forall_mem_nil _
  concat node all _ isKeyed := List.forall_mem_append.2 ⟨all, List.forall_mem_singleton.2 isKeyed⟩
  replace name node all := by
    intro entry among
    obtain ⟨before, present, rfl⟩ := List.mem_map.1 among
    split
    · exact all before present
    · exact all before present
  remove name all := fun entry among => all entry (List.mem_filter.1 among).1

/-- Every key of a document is written in it where its span says. -/
theorem parse?_written {content : String} {document : Entries} (read : parse? content = some document) :
    document.Every fun entries => ∀ entry ∈ entries, entry.1.WrittenIn content.toList :=
  parse?_every (Entries.grows_forall_key _) (simpleKey_writtenIn _) read

end Retag.Toml
