import Retag.Text.Bytes

/-! Bytes of encoded texts. A byte below 128 is in an encoding only for the character it stands for, and
of the bytes of one character only the first can start a character. So encodings of different
characters never overlap, and what one text starts with can be read off its bytes.
-/

set_option autoImplicit false

namespace Retag.Bytes

theorem ofText_append (left right : String) : ofText (left ++ right) = ofText left ++ ofText right := by
  rw [ofText, ofText, ofText, String.toList_append, ofChars, List.flatMap_append]
  rfl

theorem ofChars_append (left right : List Char) : ofChars (left ++ right) = ofChars left ++ ofChars right :=
  List.flatMap_append

theorem ofChars_cons (char : Char) (chars : List Char) :
    ofChars (char :: chars) = String.utf8EncodeChar char ++ ofChars chars := rfl

theorem infix_ofChars {part whole : List Char} (inside : part <:+: whole) :
    ofChars part <:+: ofChars whole := by
  obtain ⟨before, after, rfl⟩ := inside
  exact ⟨ofChars before, ofChars after, by rw [ofChars_append, ofChars_append]⟩

@[simp] theorem ofText_ofList (chars : List Char) : ofText (String.ofList chars) = ofChars chars := by
  rw [ofText, String.toList_ofList]

theorem length_ofText (text : String) : (ofText text).length = text.utf8ByteSize := by
  rw [ofText, ofChars, ← String.size_toByteArray, ← String.utf8Encode_toList, List.utf8Encode,
    List.size_toByteArray]

theorem displayWithin_of_decodeWithin {fuel : Nat} {bytes : Bytes} {chars : List Char}
    (decoded : decodeWithin fuel bytes = some chars) : displayWithin fuel bytes = chars := by
  induction fuel generalizing bytes chars with
  | zero =>
    cases bytes with
    | nil => cases decoded; rfl
    | cons byte rest => cases decoded
  | succ fuel ih =>
    cases bytes with
    | nil => cases decoded; rfl
    | cons byte rest =>
      cases found : firstChar? (byte :: rest) with
      | none => simp [decodeWithin, found] at decoded
      | some char =>
        simp only [decodeWithin, found, Option.map_eq_some_iff] at decoded
        obtain ⟨tail, decodedTail, rfl⟩ := decoded
        simp only [displayWithin, found, ih decodedTail]

@[simp] theorem display_ofText (text : String) : (ofText text).display = text := by
  have decoded : (ofText text).chars? = some text.toList := chars?_eq_some_iff.2 rfl
  rw [display, displayWithin_of_decodeWithin decoded, String.ofList_toList]

/-! ## Bytes that stand for themselves -/

private theorem ne_ofNat {byte : UInt8} {number : Nat} (small : byte.toNat < 128) (large : 128 ≤ number)
    (bounded : number < 256) : byte ≠ UInt8.ofNat number := by
  intro same
  have numbers := congrArg UInt8.toNat same
  rw [UInt8.toNat_ofNat_of_lt' (by simpa using bounded)] at numbers
  omega

theorem ascii_mem_encode {char : Char} {byte : UInt8} (small : byte.toNat < 128) :
    byte ∈ String.utf8EncodeChar char ↔ char.toNat = byte.toNat := by
  unfold String.utf8EncodeChar
  dsimp only
  split
  · next short =>
    have bounded : char.val.toNat < 256 := Nat.lt_of_le_of_lt short (by decide)
    rw [List.mem_singleton, ← UInt8.toNat_inj, UInt8.toNat_ofNat_of_lt' (by simpa using bounded)]
    exact eq_comm
  -- Every byte of a longer encoding has its highest bit set.
  · next long =>
    refine iff_of_false (fun member => ?_) (fun same => ?_)
    · split at member
      · simp only [List.mem_cons, List.not_mem_nil, or_false] at member
        rcases member with same | same
        all_goals exact ne_ofNat small (by omega) (by omega) same
      split at member
      · simp only [List.mem_cons, List.not_mem_nil, or_false] at member
        rcases member with same | same | same
        all_goals exact ne_ofNat small (by omega) (by omega) same
      · simp only [List.mem_cons, List.not_mem_nil, or_false] at member
        rcases member with same | same | same | same
        all_goals exact ne_ofNat small (by omega) (by omega) same
    · have numbers : char.val.toNat = byte.toNat := same
      omega

theorem ascii_mem_ofText {text : String} {char : Char} {byte : UInt8} (small : byte.toNat < 128)
    (stands : char.toNat = byte.toNat) : byte ∈ ofText text ↔ char ∈ text.toList := by
  simp only [ofText, ofChars, List.mem_flatMap, ascii_mem_encode small]
  constructor
  · rintro ⟨other, member, same⟩
    obtain rfl : other = char := Char.toNat_inj.1 (same.trans stands.symm)
    exact member
  · intro member
    exact ⟨char, member, stands⟩

theorem slash_mem_ofText {text : String} : (47 : UInt8) ∈ ofText text ↔ '/' ∈ text.toList :=
  ascii_mem_ofText (by decide) (by decide)

theorem feed_mem_ofText {text : String} : (10 : UInt8) ∈ ofText text ↔ '\n' ∈ text.toList :=
  ascii_mem_ofText (by decide) (by decide)

theorem count_feed_ofChars (chars : List Char) : (ofChars chars).count 10 = chars.count '\n' := by
  induction chars with
  | nil => rfl
  | cons char chars ih =>
    rw [ofChars_cons, List.count_append, ih]
    by_cases feed : char = '\n'
    · subst feed
      rw [List.count_cons_self, show String.utf8EncodeChar '\n' = [10] by decide, List.count_singleton_self,
        Nat.add_comm]
    · have absent : (10 : UInt8) ∉ String.utf8EncodeChar char := by
        rw [ascii_mem_encode (by decide)]
        exact fun same => feed (Char.toNat_inj.1 same)
      rw [List.count_eq_zero.2 absent, List.count_cons_of_ne feed, Nat.zero_add]

/-! ## Where characters begin -/

theorem encode_eq_cons (char : Char) : ∃ lead rest, String.utf8EncodeChar char = lead :: rest ∧
    lead.IsUTF8FirstByte ∧ ∀ byte ∈ rest, ¬ byte.IsUTF8FirstByte := by
  cases encoded : String.utf8EncodeChar char with
  | nil =>
    have positive := char.utf8Size_pos
    rw [← String.length_utf8EncodeChar, encoded] at positive
    cases positive
  | cons lead rest =>
    refine ⟨lead, rest, rfl, ?_, fun byte member => ?_⟩
    · have inside : 0 < (String.utf8EncodeChar char).length := by simp [encoded]
      have first := (@UInt8.isUTF8FirstByte_getElem_utf8EncodeChar char 0 inside).2 rfl
      simpa only [encoded, List.getElem_cons_zero] using first
    · obtain ⟨index, inside, rfl⟩ := List.getElem_of_mem member
      have inside' : index + 1 < (String.utf8EncodeChar char).length := by simp [encoded, inside]
      have later := mt (@UInt8.isUTF8FirstByte_getElem_utf8EncodeChar char (index + 1) inside').1
        (Nat.succ_ne_zero index)
      simpa only [encoded, List.getElem_cons_succ] using later

theorem ofChars_ne_nil {chars : List Char} (written : chars ≠ []) : ofChars chars ≠ [] := by
  obtain ⟨first, more, rfl⟩ := List.exists_cons_of_ne_nil written
  obtain ⟨lead, rest, encoded, -⟩ := encode_eq_cons first
  rw [ofChars_cons, encoded]
  exact List.cons_ne_nil _ _

theorem exists_of_ofChars_eq_append {chars front : List Char} {rest : Bytes}
    (same : ofChars chars = ofChars front ++ rest) : ∃ back, chars = front ++ back ∧ rest = ofChars back := by
  induction front generalizing chars with
  | nil => exact ⟨chars, rfl, same.symm⟩
  | cons char front ih =>
    rw [ofChars_cons, List.append_assoc] at same
    cases chars with
    | nil =>
      obtain ⟨lead, tail, encoded, -⟩ := encode_eq_cons char
      rw [encoded] at same
      cases same
    | cons other chars =>
      -- The first character can be read off the bytes, so it is the same on both sides.
      have shape' : ofChars (other :: chars) = String.utf8EncodeChar other ++ ofChars chars := rfl
      rw [shape'] at same
      have first := firstChar?_encode other (ofChars chars)
      rw [same, firstChar?_encode, Option.some.injEq] at first
      subst first
      obtain ⟨back, rfl, rest⟩ := ih (List.append_cancel_left same)
      exact ⟨back, rfl, rest⟩

end Retag.Bytes
