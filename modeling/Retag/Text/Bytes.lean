/-!
Raw bytes and the texts they may encode. File contents and entry names are bytes; a text is a
string, and its bytes are its UTF-8 encoding. Decoding succeeds exactly on what encoding gives.
-/

set_option autoImplicit false

namespace Retag

abbrev Bytes := List UInt8

namespace Bytes

def ofChars (chars : List Char) : Bytes := chars.flatMap String.utf8EncodeChar

def ofText (text : String) : Bytes := ofChars text.toList

def firstChar? (bytes : Bytes) : Option Char := (bytes.take 4).toByteArray.utf8DecodeChar? 0

/-- Decodes at most `fuel` characters and refuses a rest. -/
def decodeWithin : Nat → Bytes → Option (List Char)
  | _, [] => some []
  | 0, _ :: _ => none
  | fuel + 1, byte :: rest =>
      match firstChar? (byte :: rest) with
      | none => none
      | some char => (decodeWithin fuel ((byte :: rest).drop char.utf8Size)).map (char :: ·)

def chars? (bytes : Bytes) : Option (List Char) := decodeWithin bytes.length bytes

def text? (bytes : Bytes) : Option String := bytes.chars?.map String.ofList

theorem firstChar?_encode (char : Char) (rest : Bytes) :
    firstChar? (String.utf8EncodeChar char ++ rest) = some char := by
  have short : (String.utf8EncodeChar char).length ≤ 4 := by
    simpa using char.utf8Size_le_four
  simp only [firstChar?, List.take_append, List.take_of_length_le short, List.toByteArray_append]
  exact ByteArray.utf8DecodeChar?_utf8EncodeChar_append

theorem eq_encode_of_firstChar? {bytes : Bytes} {char : Char} (found : firstChar? bytes = some char) :
    bytes = String.utf8EncodeChar char ++ bytes.drop char.utf8Size := by
  obtain ⟨tail, split⟩ := ByteArray.exists_of_utf8DecodeChar?_eq_some found
  have front : bytes.take 4 = String.utf8EncodeChar char ++ tail.data.toList := by
    have := congrArg (fun array => array.data.toList) split
    simpa using this
  have whole : bytes = String.utf8EncodeChar char ++ (tail.data.toList ++ bytes.drop 4) := by
    rw [← List.append_assoc, ← front, List.take_append_drop]
  have size : (String.utf8EncodeChar char).length = char.utf8Size :=
    String.length_utf8EncodeChar char
  rw [whole, List.drop_append_of_le_length (Nat.le_of_eq size.symm), ← size, List.drop_length,
    List.nil_append]

theorem decodeWithin_ofChars (chars : List Char) (fuel : Nat) (enough : (ofChars chars).length ≤ fuel) :
    decodeWithin fuel (ofChars chars) = some chars := by
  induction chars generalizing fuel with
  | nil => cases fuel <;> rfl
  | cons char chars ih =>
    have size : (String.utf8EncodeChar char).length = char.utf8Size :=
      String.length_utf8EncodeChar char
    have positive := char.utf8Size_pos
    have shape : ofChars (char :: chars) = String.utf8EncodeChar char ++ ofChars chars := rfl
    rw [shape] at enough ⊢
    have found := firstChar?_encode char (ofChars chars)
    have dropped : (String.utf8EncodeChar char ++ ofChars chars).drop char.utf8Size = ofChars chars := by
      rw [← size, List.drop_left]
    rw [List.length_append, size] at enough
    cases encoded : String.utf8EncodeChar char ++ ofChars chars with
    | nil =>
      have := congrArg List.length encoded
      simp only [List.length_append, size, List.length_nil] at this
      omega
    | cons byte rest =>
      obtain ⟨fuel, rfl⟩ : ∃ smaller, fuel = smaller + 1 := ⟨fuel - 1, by omega⟩
      rw [encoded] at found dropped
      simp only [decodeWithin, found, dropped, ih fuel (by omega), Option.map_some]

theorem eq_ofChars_of_decodeWithin {fuel : Nat} {bytes : Bytes} {chars : List Char}
    (decoded : decodeWithin fuel bytes = some chars) : bytes = ofChars chars := by
  induction fuel generalizing bytes chars with
  | zero =>
    cases bytes with
    | nil => cases Option.some.inj decoded; rfl
    | cons byte rest => simp [decodeWithin] at decoded
  | succ fuel ih =>
    cases bytes with
    | nil => cases Option.some.inj decoded; rfl
    | cons byte rest =>
      cases found : firstChar? (byte :: rest) with
      | none => simp [decodeWithin, found] at decoded
      | some char =>
        simp only [decodeWithin, found, Option.map_eq_some_iff] at decoded
        obtain ⟨tail, decodedTail, rfl⟩ := decoded
        rw [eq_encode_of_firstChar? found, ih decodedTail]
        rfl

theorem chars?_eq_some_iff {bytes : Bytes} {chars : List Char} :
    bytes.chars? = some chars ↔ bytes = ofChars chars :=
  ⟨eq_ofChars_of_decodeWithin, fun same => by
    subst same
    exact decodeWithin_ofChars chars _ (Nat.le_refl _)⟩

@[simp] theorem text?_ofText (text : String) : (ofText text).text? = some text := by
  have decoded : (ofText text).chars? = some text.toList := chars?_eq_some_iff.2 rfl
  rw [text?, decoded, Option.map_some, String.ofList_toList]

theorem text?_eq_some_iff {bytes : Bytes} {text : String} :
    bytes.text? = some text ↔ bytes = ofText text := by
  constructor
  · intro decoded
    obtain ⟨chars, found, rfl⟩ := Option.map_eq_some_iff.1 decoded
    rw [ofText, String.toList_ofList]
    exact chars?_eq_some_iff.1 found
  · rintro rfl
    exact text?_ofText text

theorem ofText_injective {left right : String} (same : ofText left = ofText right) : left = right := by
  have := text?_ofText left
  rw [same, text?_ofText] at this
  exact (Option.some.inj this).symm

/-- How many bytes of an ill-formed start are replaced together: the longest start of some
character's encoding, and at least one byte. -/
def brokenLength : Bytes → Nat
  | lead :: second :: rest =>
      let continues := fun (byte : UInt8) => 0x80 ≤ byte && byte ≤ 0xBF
      let threeBytes :=
        (lead == 0xE0 && 0xA0 ≤ second && second ≤ 0xBF) ||
        (lead == 0xED && 0x80 ≤ second && second ≤ 0x9F) ||
        (0xE1 ≤ lead && lead ≤ 0xEF && lead != 0xED && continues second)
      let fourBytes :=
        (lead == 0xF0 && 0x90 ≤ second && second ≤ 0xBF) ||
        (0xF1 ≤ lead && lead ≤ 0xF3 && continues second) ||
        (lead == 0xF4 && 0x80 ≤ second && second ≤ 0x8F)
      if threeBytes then 2
      else if fourBytes then
        match rest with
        | third :: _ => if continues third then 3 else 2
        | [] => 2
      else 1
  | _ => 1

def displayWithin : Nat → Bytes → List Char
  | _, [] => []
  | 0, _ :: _ => []
  | fuel + 1, byte :: rest =>
      match firstChar? (byte :: rest) with
      | some char => char :: displayWithin fuel ((byte :: rest).drop char.utf8Size)
      | none => '\uFFFD' :: displayWithin fuel ((byte :: rest).drop (brokenLength (byte :: rest)))

/-- The bytes as a text for people: what is not UTF-8 shows as U+FFFD. -/
def display (bytes : Bytes) : String := String.ofList (displayWithin bytes.length bytes)

end Bytes

end Retag
