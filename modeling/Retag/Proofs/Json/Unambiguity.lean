import Retag.Proofs.Json.Grammar

/-! A text spells one value only. Each part of the grammar shows where it ends, so two readings of a text
that goes on behind a value part nowhere.
-/

set_option autoImplicit false

namespace Retag.Json

variable {first second : List Char} {rest others : List Char}

/-! ## Strings -/

theorem SpellsChar.inj {char other : Char} (one : SpellsChar char first) (two : SpellsChar other second)
    (same : first ++ rest = second ++ others) : char = other ∧ first = second := by
  cases one with
  | plain _ bare _ =>
    cases two with
    | plain _ _ _ => simpa using (List.cons.inj same).1
    | escaped _ => exact absurd (List.cons.inj same).1 bare
    | coded _ _ _ => exact absurd (List.cons.inj same).1 bare
  | escaped letter =>
    cases two with
    | plain _ bare _ => exact absurd (List.cons.inj same).1.symm bare
    | escaped letter' =>
      have equal := (List.cons.inj (List.cons.inj same).2).1
      subst equal
      exact ⟨Option.some.inj (letter.symm.trans letter'), rfl⟩
    | coded _ _ _ =>
      have equal := (List.cons.inj (List.cons.inj same).2).1
      subst equal
      cases letter
  | coded length _ value =>
    cases two with
    | plain _ bare _ => exact absurd (List.cons.inj same).1.symm bare
    | escaped letter =>
      have equal := (List.cons.inj (List.cons.inj same).2).1
      subst equal
      cases letter
    | coded length' _ value' =>
      have digits := (List.append_inj (List.cons.inj (List.cons.inj same).2).2 (length.trans length'.symm)).1
      subst digits
      exact ⟨Char.toNat_inj.1 (value.symm.trans value'), rfl⟩

theorem SpellsChar.head {char : Char} (spells : SpellsChar char first) :
    ∃ front tail, first = front :: tail ∧ front ≠ '"' := by
  cases spells with
  | plain quote _ _ => exact ⟨_, _, rfl, quote⟩
  | escaped _ => exact ⟨_, _, rfl, by decide⟩
  | coded _ _ _ => exact ⟨_, _, rfl, by decide⟩

theorem SpellsChars.inj {chars others' : List Char} (one : SpellsChars chars first)
    (two : SpellsChars others' second) (same : first ++ '"' :: rest = second ++ '"' :: others) :
    chars = others' ∧ first = second := by
  induction one generalizing others' second with
  | nil =>
    cases two with
    | nil => exact ⟨rfl, rfl⟩
    | cons char _ =>
      obtain ⟨front, tail, rfl, bare⟩ := char.head
      exact absurd (List.cons.inj same).1.symm bare
  | cons char _ ih =>
    cases two with
    | nil =>
      obtain ⟨front, tail, rfl, bare⟩ := char.head
      exact absurd (List.cons.inj same).1 bare
    | cons char' chars' =>
      rw [List.append_assoc, List.append_assoc] at same
      obtain ⟨rfl, rfl⟩ := char.inj char' same
      obtain ⟨rfl, rfl⟩ := ih chars' (List.append_cancel_left same)
      exact ⟨rfl, rfl⟩

theorem SpellsString.inj {value other : String} (one : SpellsString value first)
    (two : SpellsString other second) (same : first ++ rest = second ++ others) :
    value = other ∧ first = second := by
  obtain ⟨chars⟩ := one
  obtain ⟨chars'⟩ := two
  simp only [List.cons_append, List.append_assoc, List.nil_append, List.cons.injEq, true_and] at same
  obtain ⟨equal, rfl⟩ := chars.inj chars' same
  exact ⟨String.toList_inj.1 equal, rfl⟩

/-! ## Numbers -/

/-- What follows a number: nothing, or a character that is no digit. -/
def Ends (rest : List Char) : Prop := ∀ front, rest.head? = some front → front.isDigit = false

theorem takeWhile_digits {digits : List Char} (all : digits.all Char.isDigit = true) (ends : Ends rest) :
    (digits ++ rest).takeWhile Char.isDigit = digits := by
  rw [List.takeWhile_append_of_pos (List.all_eq_true.1 all)]
  have none : rest.takeWhile Char.isDigit = [] := by
    cases rest with
    | nil => rfl
    | cons front tail => rw [List.takeWhile_cons, ends front rfl]; rfl
  rw [none, List.append_nil]

theorem SpellsNumber.inj {value other : Nat} (one : SpellsNumber value first)
    (two : SpellsNumber other second) (ends : Ends rest) (ends' : Ends others)
    (same : first ++ rest = second ++ others) : value = other ∧ first = second := by
  have equal : first = second := by
    rw [← takeWhile_digits one.all_digits ends, same, takeWhile_digits two.all_digits ends']
  subst equal
  exact ⟨one.value_eq.symm.trans two.value_eq, rfl⟩

/-! ## Values -/

/-- What the first character of a text tells about the value. -/
inductive Kind where
  | null
  | true
  | false
  | number
  | string
  | object

def kind : Json → Kind
  | .null => .null
  | .boolean value => if value then .true else .false
  | .number _ => .number
  | .string _ => .string
  | .object _ => .object

def kindAt (front : Char) : Kind :=
  if front.isDigit then .number
  else if front = 'n' then .null
  else if front = 't' then .true
  else if front = 'f' then .false
  else if front = '"' then .string
  else .object

theorem Spells.head {value : Json} (spells : Spells value first) :
    ∃ front tail, first = front :: tail ∧ kindAt front = kind value := by
  cases spells with
  | number digits =>
    obtain ⟨front, tail, same⟩ := List.exists_cons_of_ne_nil digits.some_digit
    have all := digits.all_digits
    rw [same, List.all_cons, Bool.and_eq_true] at all
    exact ⟨front, tail, same, if_pos all.1⟩
  | string text =>
    obtain ⟨chars⟩ := text
    exact ⟨_, _, rfl, rfl⟩
  | _ => exact ⟨_, _, rfl, rfl⟩

theorem Spells.kind_eq {value other : Json} (one : Spells value first) (two : Spells other second)
    (same : first ++ rest = second ++ others) : kind value = kind other := by
  obtain ⟨front, tail, rfl, begins⟩ := one.head
  obtain ⟨front', tail', rfl, begins'⟩ := two.head
  rw [← begins, ← begins', (List.cons.inj same).1]

theorem SpellsField.head {field : String × Json} (spells : SpellsField field first) :
    ∃ tail, first = '"' :: tail := by
  obtain ⟨⟨chars⟩, value⟩ := spells
  exact ⟨_, rfl⟩

theorem SpellsFields.head {field : String × Json} {fields : List (String × Json)}
    (spells : SpellsFields (field :: fields) first) : ∃ tail, first = '"' :: tail := by
  cases spells with
  | last field => exact field.head
  | more field _ =>
    obtain ⟨tail, rfl⟩ := field.head
    exact ⟨_, rfl⟩

theorem ends_of_not_digit {front : Char} (other : front.isDigit = false) (tail : List Char) :
    Ends (front :: tail) := by
  rintro _ ⟨⟩
  exact other

mutual

theorem Spells.inj : ∀ {value other : Json} {first second rest others : List Char}, Spells value first →
    Spells other second → Ends rest → Ends others → first ++ rest = second ++ others →
    value = other ∧ first = second
  | _, _, _, _, _, _, .null, two, _, _, same => by
    have kinds := Spells.null.kind_eq two same
    cases two with
    | null => exact ⟨rfl, rfl⟩
    | _ => cases kinds
  | _, _, _, _, _, _, .true, two, _, _, same => by
    have kinds := Spells.true.kind_eq two same
    cases two with
    | true => exact ⟨rfl, rfl⟩
    | _ => cases kinds
  | _, _, _, _, _, _, .false, two, _, _, same => by
    have kinds := Spells.false.kind_eq two same
    cases two with
    | false => exact ⟨rfl, rfl⟩
    | _ => cases kinds
  -- Only a number does not show its own end.
  | _, _, _, _, _, _, .number digits, two, ends, ends', same => by
    have kinds := (Spells.number digits).kind_eq two same
    cases two with
    | number digits' =>
      obtain ⟨rfl, rfl⟩ := digits.inj digits' ends ends' same
      exact ⟨rfl, rfl⟩
    | _ => cases kinds
  | _, _, _, _, _, _, .string text, two, _, _, same => by
    have kinds := (Spells.string text).kind_eq two same
    cases two with
    | string text' =>
      obtain ⟨rfl, rfl⟩ := text.inj text' same
      exact ⟨rfl, rfl⟩
    | _ => cases kinds
  | _, _, _, _, _, _, .object fields, two, _, _, same => by
    have kinds := (Spells.object fields).kind_eq two same
    cases two with
    | object fields' =>
      simp only [List.cons_append, List.append_assoc, List.nil_append, List.cons.injEq, true_and] at same
      obtain ⟨rfl, rfl⟩ := fields.inj fields' same
      exact ⟨rfl, rfl⟩
    | _ => cases kinds

theorem SpellsFields.inj : ∀ {fields fields' : List (String × Json)} {first second rest others : List Char},
    SpellsFields fields first → SpellsFields fields' second →
    first ++ '\x7d' :: rest = second ++ '\x7d' :: others → fields = fields' ∧ first = second
  | _, [], _, _, _, _, .nil, .nil, _ => ⟨rfl, rfl⟩
  | _, _ :: _, _, _, _, _, .nil, two, same => by
    obtain ⟨tail, rfl⟩ := two.head
    exact absurd (List.cons.inj same).1 (by decide)
  | _, _, _, _, _, _, .last field, two, same => by
    cases two with
    | nil =>
      obtain ⟨tail, rfl⟩ := field.head
      exact absurd (List.cons.inj same).1 (by decide)
    | last field' =>
      obtain ⟨rfl, rfl⟩ := field.inj field' (ends_of_not_digit rfl _) (ends_of_not_digit rfl _) same
      exact ⟨rfl, rfl⟩
    | more field' _ =>
      rw [List.append_assoc, List.cons_append] at same
      obtain ⟨rfl, rfl⟩ := field.inj field' (ends_of_not_digit rfl _) (ends_of_not_digit rfl _) same
      exact absurd (List.cons.inj (List.append_cancel_left same)).1 (by decide)
  | _, _, _, _, _, _, .more field fields, two, same => by
    cases two with
    | nil =>
      obtain ⟨tail, rfl⟩ := field.head
      exact absurd (List.cons.inj same).1 (by decide)
    | last field' =>
      rw [List.append_assoc, List.cons_append] at same
      obtain ⟨rfl, rfl⟩ := field.inj field' (ends_of_not_digit rfl _) (ends_of_not_digit rfl _) same
      exact absurd (List.cons.inj (List.append_cancel_left same)).1 (by decide)
    | more field' fields' =>
      simp only [List.append_assoc, List.cons_append] at same
      obtain ⟨rfl, rfl⟩ := field.inj field' (ends_of_not_digit rfl _) (ends_of_not_digit rfl _) same
      obtain ⟨equal, rfl⟩ := fields.inj fields' (List.cons.inj (List.append_cancel_left same)).2
      exact ⟨by rw [equal], rfl⟩

theorem SpellsField.inj : ∀ {field other : String × Json} {first second rest others : List Char},
    SpellsField field first → SpellsField other second → Ends rest → Ends others →
    first ++ rest = second ++ others → field = other ∧ first = second
  | _, _, _, _, _, _, .pair name value, two, ends, ends', same => by
    obtain ⟨name', value'⟩ := two
    simp only [List.append_assoc, List.cons_append] at same
    obtain ⟨rfl, rfl⟩ := name.inj name' same
    obtain ⟨rfl, rfl⟩ := value.inj value' ends ends' (List.cons.inj (List.append_cancel_left same)).2
    exact ⟨rfl, rfl⟩

end

theorem Spells.unique {value other : Json} {text : List Char} (one : Spells value text)
    (two : Spells other text) : value = other := by
  have ends : Ends [] := by
    rintro _ ⟨⟩
  exact (one.inj two ends ends rfl).1

end Retag.Json
