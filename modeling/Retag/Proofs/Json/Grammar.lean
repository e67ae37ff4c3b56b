import Mathlib.Tactic.SplitIfs
import Retag.Json
import Retag.Text.Character

/-! The texts of JSON values, told by the grammar of JSON and not by the writer. What is written for a
value is a text of that value, and no text holds a control character, so each stands on one line.
-/

set_option autoImplicit false

namespace Retag.Json

/-! ## The grammar -/

def escapeOf? : Char → Option Char
  | '"' => some '"'
  | '\\' => some '\\'
  | '/' => some '/'
  | 'b' => some '\x08'
  | 'f' => some '\x0c'
  | 'n' => some '\n'
  | 'r' => some '\r'
  | 't' => some '\t'
  | _ => none

inductive SpellsChar : Char → List Char → Prop where
  | plain {char : Char} : char ≠ '"' → char ≠ '\\' → 32 ≤ char.toNat → SpellsChar char [char]
  | escaped {char letter : Char} : escapeOf? letter = some char → SpellsChar char ['\\', letter]
  | coded {char : Char} {digits : List Char} : digits.length = 4 → digits.all Digits.isHex = true →
      Digits.value 16 digits = char.toNat → SpellsChar char ('\\' :: 'u' :: digits)

inductive SpellsChars : List Char → List Char → Prop where
  | nil : SpellsChars [] []
  | cons {char : Char} {chars spelling text : List Char} : SpellsChar char spelling →
      SpellsChars chars text → SpellsChars (char :: chars) (spelling ++ text)

inductive SpellsString : String → List Char → Prop where
  | quoted {value : String} {text : List Char} : SpellsChars value.toList text →
      SpellsString value ('"' :: text ++ ['"'])

structure SpellsNumber (value : Nat) (digits : List Char) : Prop where
  some_digit : digits ≠ []
  all_digits : digits.all Char.isDigit = true
  no_zero_in_front : digits.head? = some '0' → digits = ['0']
  value_eq : Nat.ofDigitChars 10 digits 0 = value

mutual

inductive Spells : Json → List Char → Prop where
  | null : Spells .null ['n', 'u', 'l', 'l']
  | true : Spells (.boolean true) ['t', 'r', 'u', 'e']
  | false : Spells (.boolean false) ['f', 'a', 'l', 's', 'e']
  | number {value : Nat} {digits : List Char} : SpellsNumber value digits →
      Spells (.number value) digits
  | string {value : String} {text : List Char} : SpellsString value text → Spells (.string value) text
  | object {fields : List (String × Json)} {text : List Char} : SpellsFields fields text →
      Spells (.object fields) ('\x7b' :: text ++ ['\x7d'])

inductive SpellsFields : List (String × Json) → List Char → Prop where
  | nil : SpellsFields [] []
  | last {field : String × Json} {text : List Char} : SpellsField field text →
      SpellsFields [field] text
  | more {field next : String × Json} {rest : List (String × Json)} {text texts : List Char} :
      SpellsField field text → SpellsFields (next :: rest) texts →
      SpellsFields (field :: next :: rest) (text ++ ',' :: texts)

inductive SpellsField : String × Json → List Char → Prop where
  | pair {name : String} {value : Json} {nameText text : List Char} : SpellsString name nameText →
      Spells value text → SpellsField (name, value) (nameText ++ ':' :: text)

end

/-! ## What is written -/

theorem hexDigits_of_control : ∀ code < 32,
    [Nat.digitChar (code / 16), Nat.digitChar (code % 16)].all Digits.isHex = true ∧
      Digits.value 16 ['0', '0', Nat.digitChar (code / 16), Nat.digitChar (code % 16)] = code := by
  decide

theorem spells_escapeChar (char : Char) : SpellsChar char (escapeChar char) := by
  unfold escapeChar
  split_ifs with quote backslash lineFeed carriageReturn tab backspace formFeed control
  · subst quote; exact .escaped rfl
  · subst backslash; exact .escaped rfl
  · subst lineFeed; exact .escaped rfl
  · subst carriageReturn; exact .escaped rfl
  · subst tab; exact .escaped rfl
  · subst backspace; exact .escaped rfl
  · subst formFeed; exact .escaped rfl
  · obtain ⟨hex, coded⟩ := hexDigits_of_control char.toNat control
    refine .coded rfl ?_ coded
    rw [List.all_cons, List.all_cons, hex]
    rfl
  · exact .plain quote backslash (Nat.le_of_not_lt control)

theorem spells_writtenString (value : String) : SpellsString value (writtenString value) := by
  refine .quoted ?_
  induction value.toList with
  | nil => exact .nil
  | cons char chars ih => exact .cons (spells_escapeChar char) ih

theorem eq_zero_of_digitChar : ∀ digit < 10, Nat.digitChar digit = '0' → digit = 0 := by
  decide

theorem toDigits_of_head (value : Nat) (zero : (Nat.toDigits 10 value).head? = some '0') :
    Nat.toDigits 10 value = ['0'] := by
  induction value using Nat.strongRecOn with
  | ind value ih =>
    rcases Nat.lt_or_ge value 10 with small | large
    · rw [Nat.toDigits_of_lt_base small] at zero ⊢
      rw [eq_zero_of_digitChar value small (Option.some.inj zero)]
      rfl
    · rw [Nat.toDigits_of_base_le (by decide) large, List.head?_append,
        Option.or_of_isSome (by simp [Nat.toDigits_ne_nil])] at zero
      have none := ih (value / 10) (Nat.div_lt_self (by omega) (by decide)) zero
      -- What stands in front of the last digit is the number's tenth part, which is not zero.
      have tenth : Nat.ofDigitChars 10 (Nat.toDigits 10 (value / 10)) 0 = value / 10 :=
        Nat.ofDigitChars_toDigits (by decide) (by decide)
      rw [none] at tenth
      have vanishes : value / 10 = 0 := tenth.symm
      omega

theorem spells_toString (value : Nat) : SpellsNumber value (toString value).toList := by
  rw [Nat.toString_eq_repr, Nat.toList_repr]
  refine ⟨Nat.toDigits_ne_nil, ?_, toDigits_of_head value,
    Nat.ofDigitChars_toDigits (by decide) (by decide)⟩
  rw [List.all_eq_true]
  intro digit written
  exact Nat.isDigit_of_mem_toDigits (by decide) (by decide) written

mutual

theorem spells_written : ∀ value : Json, Spells value value.written
  | .null => .null
  | .boolean true => .true
  | .boolean false => .false
  | .number value => .number (spells_toString value)
  | .string value => .string (spells_writtenString value)
  | .object fields => .object (spells_writtenFields fields)

theorem spells_writtenFields : ∀ fields : List (String × Json), SpellsFields fields (writtenFields fields)
  | [] => .nil
  | [field] => .last (spells_writtenField field)
  | field :: next :: rest => .more (spells_writtenField field) (spells_writtenFields (next :: rest))

theorem spells_writtenField : ∀ field : String × Json, SpellsField field (writtenField field)
  | (name, value) => .pair (spells_writtenString name) (spells_written value)

end

/-! ## No control characters -/

theorem visible_of_isDigit {char : Char} (digit : char.isDigit = true) : 32 ≤ char.toNat := by
  have least : 48 ≤ char.toNat := (Char.isDigit_iff_toNat.1 digit).1
  omega

theorem visible_of_isHex {char : Char} (hex : Digits.isHex char = true) : 32 ≤ char.toNat := by
  rw [Digits.isHex, Bool.or_eq_true, Bool.or_eq_true, Bool.and_eq_true, Bool.and_eq_true] at hex
  rcases hex with (digit | ⟨lower, -⟩) | ⟨upper, -⟩
  · exact visible_of_isDigit digit
  · have least : 97 ≤ char.toNat := Char.le_def.1 (of_decide_eq_true lower)
    omega
  · have least : 65 ≤ char.toNat := Char.le_def.1 (of_decide_eq_true upper)
    omega

theorem visible_of_escapeOf? {char letter : Char} (escaped : escapeOf? letter = some char) :
    32 ≤ letter.toNat := by
  unfold escapeOf? at escaped
  split at escaped
  all_goals first | decide | cases escaped

theorem SpellsChar.visible {char : Char} {spelling : List Char} (spells : SpellsChar char spelling) :
    ∀ written ∈ spelling, 32 ≤ written.toNat := by
  cases spells with
  | plain _ _ visible => simpa using visible
  | escaped letter => simpa using visible_of_escapeOf? letter
  | coded _ hex _ =>
    intro written among
    rw [List.mem_cons, List.mem_cons] at among
    rcases among with rfl | rfl | among
    · decide
    · decide
    · exact visible_of_isHex (List.all_eq_true.1 hex written among)

theorem SpellsString.visible {value : String} {text : List Char} (spells : SpellsString value text) :
    ∀ written ∈ text, 32 ≤ written.toNat := by
  obtain ⟨chars⟩ := spells
  have inside : ∀ {value text : List Char}, SpellsChars value text → ∀ written ∈ text, 32 ≤ written.toNat := by
    intro value text chars
    induction chars with
    | nil => simp
    | cons first _ ih =>
      intro written among
      exact (List.mem_append.1 among).elim (first.visible written) (ih written)
  intro written among
  simp only [List.cons_append, List.mem_cons, List.mem_append, List.not_mem_nil, or_false] at among
  rcases among with rfl | among | rfl
  · decide
  · exact inside chars written among
  · decide

mutual

theorem Spells.visible : ∀ {value : Json} {text : List Char}, Spells value text →
    ∀ written ∈ text, 32 ≤ written.toNat
  | _, _, .null => by simp
  | _, _, .true => by simp
  | _, _, .false => by simp
  | _, _, .number spells => fun written among =>
    visible_of_isDigit (List.all_eq_true.1 spells.all_digits written among)
  | _, _, .string spells => spells.visible
  | _, _, .object fields => by
    intro written among
    simp only [List.cons_append, List.mem_cons, List.mem_append, List.not_mem_nil, or_false] at among
    rcases among with rfl | among | rfl
    · decide
    · exact fields.visible written among
    · decide

theorem SpellsFields.visible : ∀ {fields : List (String × Json)} {text : List Char},
    SpellsFields fields text → ∀ written ∈ text, 32 ≤ written.toNat
  | _, _, .nil => by simp
  | _, _, .last field => field.visible
  | _, _, .more field rest => by
    intro written among
    rw [List.mem_append, List.mem_cons] at among
    rcases among with among | rfl | among
    · exact field.visible written among
    · decide
    · exact rest.visible written among

theorem SpellsField.visible : ∀ {field : String × Json} {text : List Char}, SpellsField field text →
    ∀ written ∈ text, 32 ≤ written.toNat
  | _, _, .pair name value => by
    intro written among
    rw [List.mem_append, List.mem_cons] at among
    rcases among with among | rfl | among
    · exact name.visible written among
    · decide
    · exact value.visible written among

end

theorem Spells.one_line {value : Json} {text : List Char} (spells : Spells value text) : '\n' ∉ text := by
  intro broken
  exact absurd (spells.visible '\n' broken) (by decide)

theorem spells_text (value : Json) : Spells value value.text.toList := by
  rw [text, String.toList_ofList]
  exact spells_written value

end Retag.Json
