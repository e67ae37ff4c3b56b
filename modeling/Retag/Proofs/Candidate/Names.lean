import Retag.Candidate.Basic
import Retag.Proofs.Text.Encoding

/-! Names cut at their last dot. The two parts make up the name, the second has at most the dot in
front, and a name that is cut nowhere has none behind its first character. Main statement: a suffix
put between the parts, whatever it is, keeps different names different.
-/

set_option autoImplicit false

namespace Retag

namespace FileName

theorem splitLastDot?_eq_none {name : List Char} (whole : splitLastDot? name = none) : '.' ∉ name := by
  induction name with
  | nil => simp
  | cons char rest ih =>
    rw [splitLastDot?] at whole
    cases later : splitLastDot? rest with
    | some parts => simp [later] at whole
    | none =>
      simp only [later, ite_eq_right_iff, reduceCtorEq, imp_false] at whole
      simp [ih later, Ne.symm whole]

theorem splitLastDot?_eq_some {name stem extension : List Char}
    (cut : splitLastDot? name = some (stem, extension)) :
    stem ++ extension = name ∧ ∃ rest, extension = '.' :: rest ∧ '.' ∉ rest := by
  induction name generalizing stem with
  | nil => cases cut
  | cons char rest ih =>
    rw [splitLastDot?] at cut
    cases later : splitLastDot? rest with
    | some parts =>
      rw [later] at cut
      cases cut
      obtain ⟨joined, dotted⟩ := ih later
      exact ⟨congrArg (char :: ·) joined, dotted⟩
    | none =>
      simp only [later] at cut
      split at cut
      · next dot =>
        cases cut
        exact ⟨rfl, rest, by rw [dot], splitLastDot?_eq_none later⟩
      · cases cut

theorem splitLastDot?_of_notMem {name : List Char} (noDot : '.' ∉ name) : splitLastDot? name = none := by
  induction name with
  | nil => rfl
  | cons char rest ih =>
    rw [List.mem_cons, not_or] at noDot
    rw [splitLastDot?, ih noDot.2, if_neg (Ne.symm noDot.1)]

theorem splitLastDot?_append_dot (stem : List Char) {rest : List Char} (noDot : '.' ∉ rest) :
    splitLastDot? (stem ++ '.' :: rest) = some (stem, '.' :: rest) := by
  induction stem with
  | nil => rw [List.nil_append, splitLastDot?, splitLastDot?_of_notMem noDot, if_pos rfl]
  | cons char stem ih => rw [List.cons_append, splitLastDot?, ih]

/-- A name is cut in front of a dot with no dot behind it, or not at all; then only its first
character may be a dot. -/
theorem split_cases (name : List Char) :
    (∃ first stem rest, split name = (first :: stem, '.' :: rest) ∧ name = first :: stem ++ '.' :: rest ∧
        '.' ∉ rest) ∨
      split name = (name, []) ∧ '.' ∉ name.tail := by
  rw [split]
  cases cut : splitLastDot? name with
  | none => exact .inr ⟨rfl, fun member => splitLastDot?_eq_none cut (List.mem_of_mem_tail member)⟩
  | some parts =>
    obtain ⟨stem, extension⟩ := parts
    obtain ⟨rfl, rest, rfl, noDot⟩ := splitLastDot?_eq_some cut
    cases stem with
    | nil => exact .inr ⟨rfl, noDot⟩
    | cons first stem => exact .inl ⟨first, stem, rest, rfl, rfl, noDot⟩

theorem split_append (name : List Char) : (split name).1 ++ (split name).2 = name := by
  rcases split_cases name with ⟨first, stem, rest, cut, whole, -⟩ | ⟨cut, -⟩
  · rw [cut, whole]
  · rw [cut, List.append_nil]

theorem stem_append_extension (name : String) : stem name ++ extension name = name := by
  apply String.toList_injective
  rw [String.toList_append, stem, extension, String.toList_ofList, String.toList_ofList, split_append]

theorem split_infix {middle : List Char} (noDot : '.' ∉ middle) (name : List Char) :
    split ((split name).1 ++ middle ++ (split name).2) = ((split name).1 ++ middle, (split name).2) := by
  rcases split_cases name with ⟨first, stem, rest, cut, -, noDot'⟩ | ⟨cut, noDot'⟩
  · rw [cut, split, splitLastDot?_append_dot _ noDot']
    rfl
  · rw [cut, List.append_nil]
    have whole : '.' ∉ (name ++ middle).tail := by
      cases name with
      | nil => exact mt List.mem_of_mem_tail noDot
      | cons char name => simpa using ⟨noDot', noDot⟩
    rcases split_cases (name ++ middle) with ⟨first, stem, rest, -, same, -⟩ | ⟨cut, -⟩
    · simp [same] at whole
    · exact cut

private theorem eq_of_append_dot {left left' right right' : List Char} (noDot : '.' ∉ right)
    (noDot' : '.' ∉ right') (same : left ++ '.' :: right = left' ++ '.' :: right') :
    left = left' ∧ right = right' := by
  rcases List.append_eq_append_iff.1 same with ⟨between, rfl, cut⟩ | ⟨between, rfl, cut⟩
  · cases between with
    | nil => exact ⟨(List.append_nil _).symm, (List.cons.inj cut).2⟩
    | cons char between =>
      rw [List.cons_append, List.cons.injEq] at cut
      exact absurd (by simp [cut.2]) noDot
  · cases between with
    | nil => exact ⟨List.append_nil _, (List.cons.inj cut).2.symm⟩
    | cons char between =>
      rw [List.cons_append, List.cons.injEq] at cut
      exact absurd (by simp [cut.2]) noDot'

/-- A name cut before a dot differs from one that is cut nowhere, whatever stands between the parts:
the second has at most a dot in front, and then the first would begin with one too. -/
private theorem infix_ne (first : Char) (stem rest middle name : List Char) (noDot : '.' ∉ name.tail)
    (same : first :: stem ++ middle ++ '.' :: rest = name ++ middle) : False := by
  -- The left side has the dot of the cut, so the name on the right needs one, which is its first character.
  have counted := congrArg (List.count '.') same
  simp only [List.count_append, List.count_cons_self] at counted
  cases name with
  | nil => simp at counted; omega
  | cons char name =>
    have none_ : name.count '.' = 0 := List.count_eq_zero.2 noDot
    simp only [List.cons_append, List.cons.injEq] at same
    obtain ⟨rfl, -⟩ := same
    simp only [List.count_cons] at counted
    omega

theorem split_infix_injective (middle : List Char) {left right : List Char}
    (same : (split left).1 ++ middle ++ (split left).2 = (split right).1 ++ middle ++ (split right).2) :
    left = right := by
  rcases split_cases left with ⟨first, stem, rest, cut, whole, noDot⟩ | ⟨cut, noDot⟩
  · rcases split_cases right with ⟨first', stem', rest', cut', whole', noDot'⟩ | ⟨cut', noDot'⟩
    · rw [cut, cut'] at same
      obtain ⟨fronts, rfl⟩ := eq_of_append_dot noDot noDot' same
      have fronts : first :: stem = first' :: stem' := List.append_cancel_right fronts
      rw [whole, whole', fronts]
    · rw [cut, cut', List.append_nil] at same
      exact (infix_ne first stem rest middle right noDot' same).elim
  · rcases split_cases right with ⟨first', stem', rest', cut', whole', noDot'⟩ | ⟨cut', noDot'⟩
    · rw [cut, cut', List.append_nil] at same
      exact (infix_ne first' stem' rest' middle left noDot same.symm).elim
    · rw [cut, cut', List.append_nil, List.append_nil] at same
      exact List.append_cancel_right same

end FileName

namespace Candidate

theorem toList_outputName (name suffix : String) : (ofName name suffix).outputName.toList =
    (FileName.split name.toList).1 ++ suffix.toList ++ (FileName.split name.toList).2 := by
  simp [ofName, FileName.stem, FileName.extension]

theorem eq_of_outputName_eq {left right suffix : String}
    (same : (ofName left suffix).outputName = (ofName right suffix).outputName) : left = right := by
  have chars := congrArg String.toList same
  rw [toList_outputName, toList_outputName] at chars
  exact String.toList_injective (FileName.split_infix_injective suffix.toList chars)

theorem mem_outputName {name suffix : String} {char : Char}
    (member : char ∈ (ofName name suffix).outputName.toList) : char ∈ name.toList ∨ char ∈ suffix.toList := by
  rw [toList_outputName, List.mem_append, List.mem_append] at member
  rw [← FileName.split_append name.toList, List.mem_append]
  rcases member with (inStem | inSuffix) | inExtension
  · exact .inl (.inl inStem)
  · exact .inr inSuffix
  · exact .inl (.inr inExtension)

theorem mem_outputName_of_mem {name suffix : String} {char : Char} (member : char ∈ name.toList) :
    char ∈ (ofName name suffix).outputName.toList := by
  rw [← FileName.split_append name.toList, List.mem_append] at member
  rw [toList_outputName, List.mem_append, List.mem_append]
  exact member.imp_left .inl

theorem toList_tempName (name suffix : String) : (ofName name suffix).tempName.toList =
    (FileName.split name.toList).1 ++ "_temp".toList ++ (FileName.split name.toList).2 :=
  toList_outputName name "_temp"

theorem mem_tempName {name suffix : String} {char : Char}
    (member : char ∈ (ofName name suffix).tempName.toList) : char ∈ name.toList ∨ char ∈ "_temp".toList :=
  @mem_outputName name "_temp" char member

theorem tempStem_ofName (name suffix : String) : (ofName name suffix).tempStem = FileName.stem name ++ "_temp" := by
  have noDot : '.' ∉ "_temp".toList := by decide
  rw [tempStem, FileName.stem, toList_tempName, FileName.split_infix noDot, String.ofList_append, String.ofList_toList]
  rfl

theorem tempStem_append_extension (name suffix : String) :
    (ofName name suffix).tempStem ++ (ofName name suffix).extension = (ofName name suffix).tempName := by
  rw [tempStem_ofName]
  rfl

theorem mem_tempStem {name suffix : String} {char : Char}
    (member : char ∈ (ofName name suffix).tempStem.toList) : char ∈ name.toList ∨ char ∈ "_temp".toList := by
  apply mem_tempName
  rw [← tempStem_append_extension, String.toList_append]
  exact List.mem_append_left _ member

theorem length_tempName (name suffix : String) :
    (Bytes.ofText (ofName name suffix).tempName).length = (Bytes.ofText name).length + 5 := by
  have parts : (Bytes.ofText name).length =
      (Bytes.ofText (FileName.stem name)).length + (Bytes.ofText (FileName.extension name)).length := by
    rw [← List.length_append, ← Bytes.ofText_append, FileName.stem_append_extension]
  have marked : (Bytes.ofText "_temp").length = 5 := by decide
  rw [ofName, Bytes.ofText_append, Bytes.ofText_append, List.length_append, List.length_append, marked, parts]
  omega

/-- The names derived from the candidate's own are names in the output directory itself. -/
structure Flat (candidate : Candidate) : Prop where
  named : candidate.outputName ≠ ""
  output : '/' ∉ candidate.outputName.toList
  copy : '/' ∉ candidate.tempStem.toList

theorem flat_ofName {name suffix : String} (named : name ≠ "") (noSlash : '/' ∉ name.toList)
    (noSlash' : '/' ∉ suffix.toList) : (ofName name suffix).Flat where
  named empty := by
    have chars := toList_outputName name suffix
    rw [empty, String.toList_empty, eq_comm, List.append_eq_nil_iff, List.append_eq_nil_iff] at chars
    have whole := FileName.split_append name.toList
    rw [chars.1.1, chars.2, List.nil_append, eq_comm, String.toList_eq_nil_iff] at whole
    exact named whole
  output member := (mem_outputName member).elim noSlash noSlash'
  copy member := (mem_tempStem member).elim noSlash (by decide)

end Candidate

end Retag
