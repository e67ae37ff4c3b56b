import Mathlib.Data.List.TakeWhile
import Retag.Toml.Value

/-! What readers leave behind. Every reader of a document takes characters from the front and leaves the
rest as it was: an end of what it was given. A key is read within one line.
-/

set_option autoImplicit false

namespace Retag.Toml

variable {Result : Type}

def Reader.TakesFront (reader : Reader Result) : Prop :=
  ∀ input result rest, reader input = some (result, rest) → rest <:+ input

theorem Reader.TakesFront.withSpan {reader : Reader Result} (takes : reader.TakesFront) :
    (Reader.withSpan reader).TakesFront := by
  intro input result rest read
  obtain ⟨⟨found, behind⟩, begun, same⟩ := Option.bind_eq_some_iff.1 read
  cases same
  exact takes _ _ _ begun

def Reader.TakesOnLine (reader : Reader Result) : Prop :=
  ∀ input result rest, reader input = some (result, rest) →
    ∃ taken, input = taken ++ rest ∧ ∀ char ∈ taken, isCommentChar char = true

theorem Reader.TakesOnLine.takesFront {reader : Reader Result} (takes : reader.TakesOnLine) :
    reader.TakesFront := by
  intro input result rest read
  obtain ⟨taken, rfl, -⟩ := takes _ _ _ read
  exact List.suffix_append _ _

theorem Reader.TakesOnLine.withSpan {reader : Reader Result} (takes : reader.TakesOnLine) :
    (Reader.withSpan reader).TakesOnLine := by
  intro input result rest read
  obtain ⟨⟨found, behind⟩, begun, same⟩ := Option.bind_eq_some_iff.1 read
  cases same
  exact takes _ _ _ begun

/-! ## The smallest parts -/

theorem char_takesFront (expected : Char) : (Reader.char expected).TakesFront := by
  intro input result rest read
  unfold Reader.char at read
  split at read
  · cases read
  · split at read <;> cases read
    exact List.suffix_cons _ _

theorem word_takesFront (expected : List Char) : (Reader.word expected).TakesFront := by
  induction expected with
  | nil =>
    intro input result rest read
    cases read
    exact List.suffix_rfl
  | cons expected more ih =>
    intro input result rest read
    obtain ⟨⟨⟨⟩, middle⟩, first, read⟩ := Option.bind_eq_some_iff.1 read
    exact (ih _ _ _ read).trans (char_takesFront _ _ _ _ first)

theorem skipBlanks_suffix (input : List Char) : skipBlanks input <:+ input :=
  List.dropWhile_suffix _

theorem newline_takesFront : newline.TakesFront := by
  intro input result rest read
  unfold newline at read
  split at read <;> cases read
  · exact List.suffix_cons _ _
  · exact (List.suffix_cons _ _).trans (List.suffix_cons _ _)

theorem skipComment_suffix (input : List Char) : skipComment input <:+ input := by
  unfold skipComment
  split
  · exact (List.dropWhile_suffix _).trans (List.suffix_cons _ _)
  · exact List.suffix_rfl

theorem lineEnd_takesFront : lineEnd.TakesFront := by
  intro input result rest read
  unfold lineEnd at read
  have skipped := (skipComment_suffix _).trans (skipBlanks_suffix input)
  split at read
  · cases read
    exact List.nil_suffix
  · exact (newline_takesFront _ _ _ read).trans skipped

theorem skipLinesWithin_suffix (fuel : Nat) {input rest : List Char}
    (skips : skipLinesWithin fuel input = some rest) : rest <:+ input := by
  induction fuel generalizing input with
  | zero =>
    cases skips
    exact List.suffix_rfl
  | succ fuel ih =>
    unfold skipLinesWithin at skips
    have blanks := skipBlanks_suffix input
    split at skips
    · next behind shape =>
      rw [shape] at blanks
      obtain ⟨⟨⟨⟩, next⟩, ended, skips⟩ := Option.bind_eq_some_iff.1 skips
      have comment := (newline_takesFront _ _ _ ended).trans (List.dropWhile_suffix _)
      exact (ih skips).trans (comment.trans ((List.suffix_cons _ _).trans blanks))
    · next behind shape =>
      rw [shape] at blanks
      exact (ih skips).trans ((List.suffix_cons _ _).trans blanks)
    · next behind shape =>
      rw [shape] at blanks
      obtain ⟨⟨⟨⟩, next⟩, ended, skips⟩ := Option.bind_eq_some_iff.1 skips
      exact (ih skips).trans ((newline_takesFront _ _ _ ended).trans blanks)
    · cases skips
      exact blanks

theorem skipLines_suffix {input rest : List Char} (skips : skipLines input = some rest) : rest <:+ input :=
  skipLinesWithin_suffix _ skips

theorem digitsAfter_takesFront (isDigit : Char → Bool) : Reader.TakesFront (digitsAfter isDigit) := by
  intro input result rest read
  fun_induction digitsAfter isDigit input generalizing result with
  | case1 digit behind isDigit ih =>
    obtain ⟨⟨more, after⟩, others, same⟩ := Option.map_eq_some_iff.1 read
    cases same
    exact (ih _ others).trans ((List.suffix_cons _ _).trans (List.suffix_cons _ _))
  | case2 => cases read
  | case3 => cases read
  | case4 digit behind _ _ isDigit ih =>
    obtain ⟨⟨more, after⟩, others, same⟩ := Option.map_eq_some_iff.1 read
    cases same
    exact (ih _ others).trans (List.suffix_cons _ _)
  | case5 =>
    cases read
    exact List.suffix_rfl
  | case6 =>
    cases read
    exact List.suffix_rfl

theorem digits_takesFront (isDigit : Char → Bool) : (digits isDigit).TakesFront := by
  intro input result rest read
  unfold digits at read
  split at read
  · split at read
    · obtain ⟨⟨more, after⟩, others, same⟩ := Option.map_eq_some_iff.1 read
      cases same
      exact (digitsAfter_takesFront _ _ _ _ others).trans (List.suffix_cons _ _)
    · cases read
  · cases read

theorem decimals_takesFront (count : Nat) : (decimals count).TakesFront := by
  intro input result rest read
  unfold decimals at read
  dsimp only at read
  split at read <;> cases read
  exact List.drop_suffix _ _

/-! ## Texts -/

theorem isCommentChar_of_visible {char : Char} (low : 0x20 ≤ char.toNat) (high : char.toNat < 0x7F) :
    isCommentChar char = true := by
  simp only [isCommentChar, Bool.or_eq_true, Bool.and_eq_true, decide_eq_true_eq]
  omega

theorem isDigit_bounds {char : Char} (isDigit : char.isDigit = true) : 48 ≤ char.toNat ∧ char.toNat ≤ 57 := by
  have bounds : (decide (48 ≤ char.val) && decide (char.val ≤ 57)) = true := isDigit
  simpa [UInt32.le_iff_toNat_le] using bounds

theorem isAlpha_bounds {char : Char} (isAlpha : char.isAlpha = true) :
    (65 ≤ char.toNat ∧ char.toNat ≤ 90) ∨ (97 ≤ char.toNat ∧ char.toNat ≤ 122) := by
  have bounds : (decide (65 ≤ char.val ∧ char.val ≤ 90) ||
      decide (97 ≤ char.val) && decide (char.val ≤ 122)) = true := isAlpha
  simpa [UInt32.le_iff_toNat_le] using bounds

theorem isCommentChar_of_isHex {char : Char} (isHex : Digits.isHex char = true) : isCommentChar char = true := by
  simp only [Digits.isHex, Bool.or_eq_true, Bool.and_eq_true, decide_eq_true_eq, Char.le_def,
    UInt32.le_iff_toNat_le] at isHex
  rcases isHex with (digit | ⟨low, high⟩) | ⟨low, high⟩
  · have bounds := isDigit_bounds digit
    exact isCommentChar_of_visible (by omega) (by omega)
  · exact isCommentChar_of_visible (Nat.le_trans (by decide) low) (Nat.lt_of_le_of_lt high (by decide))
  · exact isCommentChar_of_visible (Nat.le_trans (by decide) low) (Nat.lt_of_le_of_lt high (by decide))

theorem isCommentChar_of_isBareChar {char : Char} (isBare : isBareChar char = true) :
    isCommentChar char = true := by
  simp only [isBareChar, Bool.or_eq_true, decide_eq_true_eq] at isBare
  rcases isBare with (alphanumeric | rfl) | rfl
  · rcases Bool.or_eq_true_iff.1 alphanumeric with alpha | digit
    · have bounds := isAlpha_bounds alpha
      exact isCommentChar_of_visible (by omega) (by omega)
    · have bounds := isDigit_bounds digit
      exact isCommentChar_of_visible (by omega) (by omega)
  · decide
  · decide

theorem numberedChar_takesOnLine (count : Nat) : (numberedChar count).TakesOnLine := by
  intro input result rest read
  unfold numberedChar at read
  dsimp only at read
  split at read
  · next fits =>
    cases read
    refine ⟨input.take count, (List.take_append_drop _ _).symm, fun char member => ?_⟩
    exact isCommentChar_of_isHex (List.all_eq_true.1 fits.2.1 char member)
  · cases read

theorem escape_takesOnLine : escape.TakesOnLine := by
  intro input result rest read
  unfold escape at read
  split at read
  case h_8 behind =>
    obtain ⟨taken, rfl, onLine⟩ := numberedChar_takesOnLine _ _ _ _ read
    exact ⟨'u' :: taken, rfl, List.forall_mem_cons.2 ⟨by decide, onLine⟩⟩
  case h_9 behind =>
    obtain ⟨taken, rfl, onLine⟩ := numberedChar_takesOnLine _ _ _ _ read
    exact ⟨'U' :: taken, rfl, List.forall_mem_cons.2 ⟨by decide, onLine⟩⟩
  case h_10 => cases read
  all_goals
    cases read
    exact ⟨[_], rfl, List.forall_mem_singleton.2 (by decide)⟩

theorem basicWithin_takesOnLine (fuel : Nat) : (basicWithin fuel).TakesOnLine := by
  induction fuel with
  | zero => exact fun input result rest read => nomatch read
  | succ fuel ih =>
    rintro (- | ⟨char, behind⟩) result rest read
    · cases read
    · unfold basicWithin at read
      split at read
      · next isQuote =>
        cases read
        exact ⟨[char], rfl, List.forall_mem_singleton.2 (isQuote ▸ by decide)⟩
      · split at read
        · next isBackslash =>
          obtain ⟨⟨escaped, middle⟩, first, read⟩ := Option.bind_eq_some_iff.1 read
          obtain ⟨⟨more, after⟩, others, same⟩ := Option.bind_eq_some_iff.1 read
          cases same
          obtain ⟨front, rfl, onLine⟩ := escape_takesOnLine _ _ _ first
          obtain ⟨taken, rfl, onLine'⟩ := ih _ _ _ others
          refine ⟨char :: (front ++ taken), by simp, List.forall_mem_cons.2 ⟨isBackslash ▸ by decide, ?_⟩⟩
          exact List.forall_mem_append.2 ⟨onLine, onLine'⟩
        · split at read
          · next isText =>
            obtain ⟨⟨more, after⟩, others, same⟩ := Option.bind_eq_some_iff.1 read
            cases same
            obtain ⟨taken, rfl, onLine⟩ := ih _ _ _ others
            exact ⟨char :: taken, rfl, List.forall_mem_cons.2 ⟨isText, onLine⟩⟩
          · cases read

theorem literalRest_takesOnLine : literalRest.TakesOnLine := by
  intro input result rest read
  induction input generalizing result with
  | nil => cases read
  | cons char behind ih =>
    unfold literalRest at read
    split at read
    · next isQuote =>
      cases read
      exact ⟨[char], rfl, List.forall_mem_singleton.2 (isQuote ▸ by decide)⟩
    · split at read
      · next isText =>
        obtain ⟨⟨more, after⟩, others, same⟩ := Option.map_eq_some_iff.1 read
        cases same
        obtain ⟨taken, rfl, onLine⟩ := ih _ others
        exact ⟨char :: taken, rfl, List.forall_mem_cons.2 ⟨isText, onLine⟩⟩
      · cases read

theorem lineText_takesOnLine : lineText.TakesOnLine := by
  intro input result rest read
  unfold lineText at read
  split at read
  · obtain ⟨taken, rfl, onLine⟩ := basicWithin_takesOnLine _ _ _ _ read
    exact ⟨'"' :: taken, rfl, List.forall_mem_cons.2 ⟨by decide, onLine⟩⟩
  · obtain ⟨taken, rfl, onLine⟩ := literalRest_takesOnLine _ _ _ read
    exact ⟨'\'' :: taken, rfl, List.forall_mem_cons.2 ⟨by decide, onLine⟩⟩
  · cases read

theorem closing_suffix {quote : Char} {kept : Nat} {input rest : List Char}
    (closes : closing quote input = some (kept, rest)) : rest <:+ input := by
  unfold closing at closes
  dsimp only at closes
  split at closes <;> cases closes
  exact List.drop_suffix _ _

theorem skipWhite_suffix (input : List Char) : skipWhite input <:+ input := by
  fun_induction skipWhite input with
  | case1 rest ih => exact ih.trans ((List.suffix_cons _ _).trans (List.suffix_cons _ _))
  | case2 char rest _ _ ih => exact ih.trans (List.suffix_cons _ _)
  | case3 => exact List.suffix_rfl
  | case4 => exact List.suffix_rfl

theorem basicLinesWithin_takesFront (fuel : Nat) : (basicLinesWithin fuel).TakesFront := by
  induction fuel with
  | zero => exact fun input result rest read => nomatch read
  | succ fuel ih =>
    rintro (- | ⟨char, behind⟩) result rest read
    · cases read
    · unfold basicLinesWithin at read
      split at read
      · split at read
        · next kept after closes =>
          cases read
          exact closing_suffix closes
        · obtain ⟨⟨more, after⟩, others, same⟩ := Option.map_eq_some_iff.1 read
          cases same
          exact (ih _ _ _ others).trans (List.suffix_cons _ _)
      · split at read
        · split at read
          · exact (ih _ _ _ read).trans ((skipWhite_suffix _).trans (List.suffix_cons _ _))
          · simp only [Option.bind_eq_bind, Option.bind_eq_some_iff, Prod.exists] at read
            obtain ⟨escaped, middle, first, more, after, others, same⟩ := read
            cases same
            have begun := escape_takesOnLine.takesFront _ _ _ first
            exact (ih _ _ _ others).trans (begun.trans (List.suffix_cons _ _))
        · split at read
          · obtain ⟨⟨more, after⟩, others, same⟩ := Option.map_eq_some_iff.1 read
            cases same
            exact (ih _ _ _ others).trans (List.suffix_cons _ _)
          · simp only [Option.bind_eq_bind, Option.bind_eq_some_iff, Prod.exists] at read
            obtain ⟨⟨⟩, middle, first, more, after, others, same⟩ := read
            cases same
            exact (ih _ _ _ others).trans (newline_takesFront _ _ _ first)

theorem literalLinesWithin_takesFront (fuel : Nat) : (literalLinesWithin fuel).TakesFront := by
  induction fuel with
  | zero => exact fun input result rest read => nomatch read
  | succ fuel ih =>
    rintro (- | ⟨char, behind⟩) result rest read
    · cases read
    · unfold literalLinesWithin at read
      split at read
      · split at read
        · next kept after closes =>
          cases read
          exact closing_suffix closes
        · obtain ⟨⟨more, after⟩, others, same⟩ := Option.map_eq_some_iff.1 read
          cases same
          exact (ih _ _ _ others).trans (List.suffix_cons _ _)
      · split at read
        · obtain ⟨⟨more, after⟩, others, same⟩ := Option.map_eq_some_iff.1 read
          cases same
          exact (ih _ _ _ others).trans (List.suffix_cons _ _)
        · simp only [Option.bind_eq_bind, Option.bind_eq_some_iff, Prod.exists] at read
          obtain ⟨⟨⟩, middle, first, more, after, others, same⟩ := read
          cases same
          exact (ih _ _ _ others).trans (newline_takesFront _ _ _ first)

theorem skipFirstNewline_suffix (input : List Char) : skipFirstNewline input <:+ input := by
  unfold skipFirstNewline
  split
  · exact newline_takesFront _ _ _ ‹_›
  · exact List.suffix_rfl

theorem quotedText_takesFront : quotedText.TakesFront := by
  have opening (quote : Char) (body : List Char) : body <:+ quote :: quote :: quote :: body :=
    ⟨[quote, quote, quote], rfl⟩
  intro input result rest read
  unfold quotedText at read
  split at read
  · exact (basicLinesWithin_takesFront _ _ _ _ read).trans ((skipFirstNewline_suffix _).trans (opening _ _))
  · exact (literalLinesWithin_takesFront _ _ _ _ read).trans ((skipFirstNewline_suffix _).trans (opening _ _))
  · exact lineText_takesOnLine.takesFront _ _ _ read

/-! ## Numbers and dates -/

theorem sign_suffix (input : List Char) : (sign input).2 <:+ input := by
  unfold sign
  split
  · exact List.suffix_cons _ _
  · exact List.suffix_cons _ _
  · exact List.suffix_rfl

theorem plainDigits_takesFront : plainDigits.TakesFront := by
  intro input result rest read
  unfold plainDigits at read
  split at read
  · cases read
    exact List.suffix_cons _ _
  · exact digits_takesFront _ _ _ _ read

theorem fraction_takesFront : fraction.TakesFront := by
  intro input result rest read
  unfold fraction at read
  split at read
  · obtain ⟨⟨places, after⟩, found, same⟩ := Option.map_eq_some_iff.1 read
    cases same
    exact (digits_takesFront _ _ _ _ found).trans (List.suffix_cons _ _)
  · cases read
    exact List.suffix_rfl

theorem exponent_takesFront : exponent.TakesFront := by
  intro input result rest read
  unfold exponent at read
  split at read
  · cases read
    exact List.suffix_rfl
  · split at read
    · obtain ⟨⟨power, after⟩, found, same⟩ := Option.bind_eq_some_iff.1 read
      cases same
      exact (digits_takesFront _ _ _ _ found).trans ((sign_suffix _).trans (List.suffix_cons _ _))
    · cases read
      exact List.suffix_rfl

theorem based_takesFront (base : Nat) (isDigit : Char → Bool) : (based base isDigit).TakesFront := by
  intro input result rest read
  obtain ⟨⟨found, after⟩, digits, read⟩ := Option.bind_eq_some_iff.1 read
  obtain ⟨value, -, same⟩ := Option.bind_eq_some_iff.1 read
  cases same
  exact digits_takesFront _ _ _ _ digits

theorem special?_takesFront : Reader.TakesFront special? := by
  have opening (first second third : Char) (behind : List Char) : behind <:+ first :: second :: third :: behind :=
    ⟨[first, second, third], rfl⟩
  intro input result rest read
  unfold special? at read
  split at read <;> cases read
  all_goals exact opening _ _ _ _

theorem decimalNumber_takesFront : decimalNumber.TakesFront := by
  intro input result rest read
  unfold decimalNumber at read
  have signed := sign_suffix input
  dsimp only at read
  split at read
  · next found =>
    cases read
    exact (special?_takesFront _ _ _ found).trans signed
  · simp only [Option.bind_eq_bind, Option.bind_eq_some_iff, Prod.exists] at read
    obtain ⟨whole, behindWhole, inWhole, places?, behindPlaces, inPlaces, power?, behindPower, inPower,
      read⟩ := read
    have behind : behindPower <:+ input := (exponent_takesFront _ _ _ inPower).trans
      ((fraction_takesFront _ _ _ inPlaces).trans ((plainDigits_takesFront _ _ _ inWhole).trans signed))
    split at read
    · obtain ⟨value, -, same⟩ := Option.bind_eq_some_iff.1 read
      cases same
      exact behind
    · split at read <;> cases read
      exact behind

theorem number_takesFront : number.TakesFront := by
  have opening (first second : Char) (behind : List Char) : behind <:+ first :: second :: behind :=
    ⟨[first, second], rfl⟩
  intro input result rest read
  unfold number at read
  split at read
  · exact (based_takesFront _ _ _ _ _ read).trans (opening _ _ _)
  · exact (based_takesFront _ _ _ _ _ read).trans (opening _ _ _)
  · exact (based_takesFront _ _ _ _ _ read).trans (opening _ _ _)
  · exact decimalNumber_takesFront _ _ _ read

theorem date_takesFront : date.TakesFront := by
  intro input result rest read
  simp only [date, Option.bind_eq_bind, Option.bind_eq_some_iff, Prod.exists] at read
  obtain ⟨year, behindYear, inYear, ⟨⟩, behindDash, inDash, month, behindMonth, inMonth, ⟨⟩, before, inDash', day,
    behindDay, inDay, read⟩ := read
  split at read <;> cases read
  exact (decimals_takesFront _ _ _ _ inDay).trans ((char_takesFront _ _ _ _ inDash').trans
    ((decimals_takesFront _ _ _ _ inMonth).trans ((char_takesFront _ _ _ _ inDash).trans
      (decimals_takesFront _ _ _ _ inYear))))

theorem hoursMinutes_takesFront : hoursMinutes.TakesFront := by
  intro input result rest read
  simp only [hoursMinutes, Option.bind_eq_bind, Option.bind_eq_some_iff, Prod.exists] at read
  obtain ⟨hour, behindHour, inHour, ⟨⟩, behindColon, inColon, minute, behindMinute, inMinute, read⟩ := read
  split at read <;> cases read
  exact (decimals_takesFront _ _ _ _ inMinute).trans ((char_takesFront _ _ _ _ inColon).trans
    (decimals_takesFront _ _ _ _ inHour))

theorem time_takesFront : time.TakesFront := by
  intro input result rest read
  simp only [time, Option.bind_eq_bind, Option.bind_eq_some_iff, Prod.exists] at read
  obtain ⟨⟨⟩, behindMinutes, inMinutes, ⟨⟩, behindColon, inColon, second, behindSecond, inSecond, read⟩ := read
  have behind : behindSecond <:+ input := (decimals_takesFront _ _ _ _ inSecond).trans
    ((char_takesFront _ _ _ _ inColon).trans (hoursMinutes_takesFront _ _ _ inMinutes))
  split at read
  · cases read
  · split at read
    · split at read <;> cases read
      exact (List.dropWhile_suffix _).trans ((List.suffix_cons _ _).trans behind)
    · cases read
      exact behind

theorem offset_takesFront : offset.TakesFront := by
  intro input result rest read
  unfold offset at read
  split at read
  · cases read
    exact List.suffix_rfl
  · split at read
    · cases read
      exact List.suffix_cons _ _
    · split at read
      · exact (hoursMinutes_takesFront _ _ _ read).trans (List.suffix_cons _ _)
      · cases read
        exact List.suffix_rfl

theorem moment_takesFront : moment.TakesFront := by
  intro input result rest read
  unfold moment at read
  split at read
  · next behind found =>
    have begun := date_takesFront _ _ _ found
    split at read
    · obtain ⟨⟨⟨⟩, after⟩, clock, read⟩ := Option.bind_eq_some_iff.1 read
      have middle := (time_takesFront _ _ _ clock).trans ((List.drop_suffix _ _).trans begun)
      exact (offset_takesFront _ _ _ read).trans middle
    · cases read
      exact begun
  · exact time_takesFront _ _ _ read

/-! ## Keys and scalars -/

theorem bareKey_takesOnLine : bareKey.TakesOnLine := by
  intro input result rest read
  unfold bareKey at read
  dsimp only at read
  split at read <;> cases read
  refine ⟨_, List.takeWhile_append_dropWhile.symm, fun char member => ?_⟩
  exact isCommentChar_of_isBareChar (List.mem_takeWhile_imp member)

theorem simpleKey_takesOnLine : simpleKey.TakesOnLine := by
  intro input result rest read
  obtain ⟨⟨⟨name, span⟩, behind⟩, found, same⟩ := Option.bind_eq_some_iff.1 read
  cases same
  split at found
  · exact lineText_takesOnLine.withSpan _ _ _ found
  · exact bareKey_takesOnLine.withSpan _ _ _ found

theorem scalar_takesFront : scalar.TakesFront := by
  intro input result rest read
  unfold scalar at read
  split at read
  · obtain ⟨⟨⟨⟨⟩, span⟩, behind⟩, found, same⟩ := Option.bind_eq_some_iff.1 read
    cases same
    exact (word_takesFront _).withSpan _ _ _ found
  · obtain ⟨⟨⟨⟨⟩, span⟩, behind⟩, found, same⟩ := Option.bind_eq_some_iff.1 read
    cases same
    exact (word_takesFront _).withSpan _ _ _ found
  · obtain ⟨⟨⟨value, span⟩, behind⟩, found, same⟩ := Option.bind_eq_some_iff.1 read
    cases same
    exact quotedText_takesFront.withSpan _ _ _ found
  · obtain ⟨⟨⟨value, span⟩, behind⟩, found, same⟩ := Option.bind_eq_some_iff.1 read
    cases same
    exact quotedText_takesFront.withSpan _ _ _ found
  · split at read
    · next found =>
      cases read
      exact moment_takesFront.withSpan _ _ _ found
    · obtain ⟨⟨⟨value, span⟩, behind⟩, found, same⟩ := Option.bind_eq_some_iff.1 read
      have taken := number_takesFront.withSpan _ _ _ found
      cases value <;> cases same <;> exact taken

end Retag.Toml
