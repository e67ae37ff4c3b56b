import Retag.Proofs.Document.Stretch
import Retag.Proofs.Settings.Unknown
import Retag.Proofs.Text.Places
import Retag.Proofs.Toml.Written

/-! Where warnings point. A warning names what follows the last dot of an unknown key, and the first line that
holds these characters anywhere: in a comment, in a value or in another key. Main statement: which warnings
name the whole key, and which of their lines are the key's own.
-/

set_option autoImplicit false

namespace Retag.Settings

open Toml (Node Key Entries)

/-! ## Lines that hold a text -/

def LineHolds (content text : String) (number : Nat) : Prop :=
  ∃ index line, number = index + 1 ∧ (Document.lines (Bytes.ofText content))[index]? = some line ∧
    Bytes.ofText text <:+: line

section

variable {content text : String} {number : Nat}

theorem lineHolds_succ_iff {index : Nat} : LineHolds content text (index + 1) ↔
    ∃ line, (Document.lines (Bytes.ofText content))[index]? = some line ∧ Bytes.ofText text <:+: line := by
  constructor
  · rintro ⟨index, line, same, found, inside⟩
    cases same
    exact ⟨line, found, inside⟩
  · rintro ⟨line, found, inside⟩
    exact ⟨index, line, rfl, found, inside⟩

theorem lineOf?_eq_some_iff : lineOf? content text = some number ↔
    LineHolds content text number ∧ ∀ earlier, LineHolds content text earlier → number ≤ earlier := by
  simp only [lineOf?, Option.map_eq_some_iff, List.findIdx?_eq_some_iff_getElem, Occurrence.contains_iff]
  constructor
  · rintro ⟨index, ⟨inRange, inside, first⟩, rfl⟩
    refine ⟨lineHolds_succ_iff.2 ⟨_, List.getElem?_eq_getElem inRange, inside⟩, ?_⟩
    rintro _ ⟨earlier, line, rfl, found, holds⟩
    obtain ⟨inRange', rfl⟩ := List.getElem?_eq_some_iff.1 found
    by_contra before
    exact first earlier (by omega) holds
  · rintro ⟨⟨index, line, rfl, found, inside⟩, first⟩
    obtain ⟨inRange, rfl⟩ := List.getElem?_eq_some_iff.1 found
    refine ⟨index, ⟨inRange, inside, fun earlier before holds => ?_⟩, rfl⟩
    have bound := first (earlier + 1)
      (lineHolds_succ_iff.2 ⟨_, List.getElem?_eq_getElem (Nat.lt_trans before inRange), holds⟩)
    omega

theorem exists_lineOf? (holds : LineHolds content text number) :
    ∃ first ≤ number, lineOf? content text = some first := by
  cases found : lineOf? content text with
  | some first => exact ⟨first, (lineOf?_eq_some_iff.1 found).2 number holds, rfl⟩
  | none =>
    obtain ⟨index, line, rfl, stands, inside⟩ := holds
    rw [lineOf?, Option.map_eq_none_iff, List.findIdx?_eq_none_iff] at found
    have absent := found line (List.mem_of_getElem? stands)
    rw [Occurrence.contains_iff.2 inside] at absent
    cases absent

/-- The line that is found, if any, is a given one just if no line in front of that one holds the text, and
that one does unless none does. -/
theorem lineOf?_eq_iff (own : Nat) : (∀ number, lineOf? content text = some number → number = own) ↔
    ∀ number, LineHolds content text number → own ≤ number ∧ LineHolds content text own := by
  constructor
  · intro right number holds
    obtain ⟨first, bound, found⟩ := exists_lineOf? holds
    cases right first found
    exact ⟨bound, (lineOf?_eq_some_iff.1 found).1⟩
  · intro only number found
    obtain ⟨holds, first⟩ := lineOf?_eq_some_iff.1 found
    obtain ⟨bound, holdsOwn⟩ := only number holds
    exact Nat.le_antisymm (first own holdsOwn) bound

end

/-! ## Keys on their lines -/

theorem LineHolds.part {content whole part : String} {number : Nat} (holds : LineHolds content whole number)
    (inside : part.toList <:+: whole.toList) : LineHolds content part number := by
  obtain ⟨index, line, same, found, contained⟩ := holds
  exact ⟨index, line, same, found, (Bytes.infix_ofChars inside).trans contained⟩

section

variable {content : String} {before written after : List Char} {key : Key}

theorem lineHolds_written (stands : key.StandsIn content.toList before written after) :
    LineHolds content (String.ofList written) (key.line content.toList) := by
  have cut : Bytes.ofText content = Bytes.ofChars before ++ Bytes.ofChars written ++ Bytes.ofChars after := by
    rw [Bytes.ofText, stands.cut, Bytes.ofChars_append, Bytes.ofChars_append]
  have absent {char : Char} {byte : UInt8} (small : byte.toNat < 128) (same : char.toNat = byte.toNat)
      (breaks : Toml.isCommentChar char = false) : byte ∉ Bytes.ofChars written := by
    rw [← Bytes.ofText_ofList, Bytes.ascii_mem_ofText small same, String.toList_ofList]
    intro member
    rw [stands.onLine char member] at breaks
    cases breaks
  have noFeed : (10 : UInt8) ∉ Bytes.ofChars written :=
    absent (by decide) (show '\n'.toNat = _ by decide) (by decide)
  have noReturn : (13 : UInt8) ∉ Bytes.ofChars written :=
    absent (by decide) (show '\r'.toNat = _ by decide) (by decide)
  rw [stands.line_eq, lineHolds_succ_iff, cut, ← Bytes.count_feed_ofChars, Bytes.ofText_ofList]
  exact Document.getElem?_lines (Bytes.ofChars_ne_nil stands.written_ne_nil) noFeed noReturn

end

theorem lastPart_suffix (text : String) : (lastPart text).toList <:+ text.toList := by
  rw [lastPart, String.toList_ofList, ← List.reverse_prefix, List.reverse_reverse]
  exact List.takeWhile_prefix _

theorem lastPart_eq_iff (text : String) : lastPart text = text ↔ '.' ∉ text.toList := by
  rw [← String.toList_inj, lastPart, String.toList_ofList, List.reverse_eq_iff, List.takeWhile_eq_self_iff]
  simp only [List.mem_reverse, decide_eq_true_eq]
  exact ⟨fun undotted dotted => undotted '.' dotted rfl, fun undotted char member same => undotted (same ▸ member)⟩

/-! ## Unknown keys are keys of the document -/

section

variable {keyed : Key → Prop}

theorem forall_othersIn {keys : List String} {node : Node}
    (every : node.Every fun entries => ∀ entry ∈ entries, keyed entry.1) :
    ∀ key ∈ othersIn keys node, keyed key := by
  cases every with
  | table here below =>
    intro key among
    obtain ⟨entry, present, rfl⟩ := List.mem_map.1 among
    exact here entry (List.mem_filter.1 present).1
  | _ => exact List.forall_mem_nil _

theorem Part.forall_others (part : Part) {node : Node}
    (every : node.Every fun entries => ∀ entry ∈ entries, keyed entry.1) :
    ∀ key ∈ part.others node, keyed key := by
  have ofItems {items : List Node}
      (each : ∀ item ∈ items, item.Every fun entries => ∀ entry ∈ entries, keyed entry.1) :
      ∀ key ∈ items.flatMap (othersIn Part.rules.keys), keyed key := by
    intro key among
    obtain ⟨item, present, among⟩ := List.mem_flatMap.1 among
    exact forall_othersIn (each item present) key among
  cases part with
  | rules =>
    cases every with
    | array each => exact ofItems each
    | tables each => exact ofItems each
    | _ => exact List.forall_mem_nil _
  | _ => exact forall_othersIn every

theorem forall_unknown {document : Entries}
    (every : document.Every fun entries => ∀ entry ∈ entries, keyed entry.1) :
    ∀ key ∈ unknown document, keyed key := by
  intro key among
  obtain ⟨entry, present, among⟩ := List.mem_flatMap.1 among
  unfold othersAt at among
  split at among
  · rw [List.mem_singleton.1 among]
    exact every.here entry present
  · next part _ => exact part.forall_others (every.below entry present) key among

end

/-! ## Warnings -/

/-- What a warning tells of an unknown key, and when it is right. -/
structure Tells (content : String) (key : Key) (warning : Warning) : Prop where
  part : warning.key = lastPart key.name
  whole : warning.key = key.name ↔ '.' ∉ key.name.toList
  /-- The key is read from characters that its own line holds. Where they spell it out, as they do without
  quotes, the warning has a line, and none behind the key's own. -/
  written : ∃ before written after, key.StandsIn content.toList before written after ∧
    LineHolds content (String.ofList written) (key.line content.toList) ∧
    (¬ (written.head? = some '"' ∨ written.head? = some '\'') → written = key.name.toList) ∧
    (key.name.toList <:+: written → ∃ number ≤ key.line content.toList, warning.line? = some number)
  /-- A line that is given is the key's own just if none in front holds the warning's text and the own one
  does, unless none does. -/
  right : (∀ number, warning.line? = some number → number = key.line content.toList) ↔
    ∀ number, LineHolds content warning.key number →
      key.line content.toList ≤ number ∧ LineHolds content warning.key (key.line content.toList)

theorem tells_ofKey {content : String} {key : Key} (stands : key.WrittenIn content.toList) (file : String) :
    Tells content key (Warning.ofKey file content key.name) where
  part := rfl
  whole := lastPart_eq_iff key.name
  written := by
    obtain ⟨before, written, after, stands⟩ := stands
    have holds := lineHolds_written stands
    refine ⟨before, written, after, stands, holds, stands.eq_of_bare, fun spelled => ?_⟩
    have inside : (lastPart key.name).toList <:+: (String.ofList written).toList := by
      rw [String.toList_ofList]
      exact (lastPart_suffix key.name).isInfix.trans spelled
    exact exists_lineOf? (holds.part inside)
  right := lineOf?_eq_iff _

/-- The warnings of a file that loads tell of its unknown keys, one each and in order, unless a part is a
date: then one names a key that is written nowhere. Warnings that name the same text give the same line. -/
theorem warnings_of_load {disk : Disk} {file content : String} {document : Entries} {settings : Settings}
    {warnings : List Warning} (holds : Holds disk file content document)
    (loaded : ((load file).perform { disk }).1 = .ok (settings, warnings)) :
    (¬ HasDatePart document → List.Forall₂ (Tells content) (unknown document) warnings) ∧
      (HasDatePart document → ∃ warning ∈ warnings, warning.key = momentKey) ∧
      ∀ first ∈ warnings, ∀ second ∈ warnings, first.key = second.key → first.line? = second.line? := by
  obtain ⟨decoded, rfl⟩ := holds.load_ok_iff.1 loaded
  refine ⟨fun noDate => ?_, fun date => ?_, ?_⟩
  · rw [unknownKeys_eq_of_decode decoded noDate, List.map_map, List.forall₂_map_right_iff, List.forall₂_same]
    intro key among
    exact tells_ofKey (forall_unknown (Toml.parse?_written holds.isToml) key among) file
  · refine ⟨_, List.mem_map_of_mem (momentKey_mem_of_date decoded date), ?_⟩
    exact (lastPart_eq_iff momentKey).2 (by decide +kernel)
  · simp only [List.forall_mem_map]
    intro first _ second _ same
    exact congrArg (lineOf? content) same

def typoText : String := "[paths]\nsuorce = 1\n"

theorem warnings_of_load_typo : ∃ document, Holds (settingsDisk typoText) "d.toml" typoText document ∧
    ((load "d.toml").perform { disk := settingsDisk typoText }).1 =
      .ok ({}, [⟨"suorce", "d.toml", some 2, some "source"⟩]) ∧
    List.Forall₂ (Tells typoText) (unknown document) [⟨"suorce", "d.toml", some 2, some "source"⟩] := by
  have shown : Warning.ofKey "d.toml" typoText "suorce" = ⟨"suorce", "d.toml", some 2, some "source"⟩ := by
    decide +kernel
  obtain ⟨document, holds, loaded, noDate⟩ := @exists_load_of_run typoText {} ["suorce"]
    (fun document => ¬ HasDatePart document) _ (by decide +kernel)
  rw [List.map_singleton, shown] at loaded
  exact ⟨document, holds, loaded, (warnings_of_load holds loaded).1 noDate⟩

/-- The unknown key stands on the second line, and a comment on the first. -/
def commentText : String := "# colour\ncolour = 1\n"

theorem warnings_point_at_comment : ∃ document key,
    Holds (settingsDisk commentText) "d.toml" commentText document ∧ unknown document = [key] ∧
    key.name = "colour" ∧ key.line commentText.toList = 2 ∧
    ((load "d.toml").perform { disk := settingsDisk commentText }).1 =
      .ok ({}, [⟨"colour", "d.toml", some 1, none⟩]) := by
  have shown : Warning.ofKey "d.toml" commentText "colour" = ⟨"colour", "d.toml", some 1, none⟩ := by
    decide +kernel
  obtain ⟨document, holds, loaded, same⟩ := @exists_load_of_run commentText {} ["colour"]
    (fun document => unknown document = [⟨"colour", ⟨11, 5⟩⟩]) _ (by decide +kernel)
  rw [List.map_singleton, shown] at loaded
  exact ⟨document, _, holds, same, rfl, by decide +kernel, loaded⟩

end Retag.Settings
