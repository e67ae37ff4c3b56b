import Retag.FileSystem.Path
import Retag.Proofs.Text.Encoding

/-! The parts of written paths. A name with a slash nowhere in it, joined to a directory, adds one part
to the directory's own, whether the directory ends with a slash or not and whether it is empty.
-/

set_option autoImplicit false

namespace Retag

namespace Path

theorem cut_of_notMem {bytes : Bytes} (noSlash : 47 ∉ bytes) : cut bytes = [bytes] := by
  induction bytes with
  | nil => rfl
  | cons byte rest ih =>
    rw [List.mem_cons, not_or] at noSlash
    rw [cut, if_neg (Ne.symm noSlash.1), ih noSlash.2]

theorem cut_ne_nil (bytes : Bytes) : cut bytes ≠ [] := by
  cases bytes with
  | nil => simp [cut]
  | cons byte rest =>
    rw [cut]
    split
    · simp
    · split <;> simp

theorem cut_append_slash (left right : Bytes) : cut (left ++ 47 :: right) = cut left ++ cut right := by
  induction left with
  | nil => simp [cut]
  | cons byte rest ih =>
    rw [List.cons_append, cut, ih, cut]
    split
    · rfl
    · cases pieces : cut rest with
      | nil => exact absurd pieces (cut_ne_nil rest)
      | cons piece more => rfl

theorem notMem_of_mem_cut {bytes piece : Bytes} (member : piece ∈ cut bytes) : 47 ∉ piece := by
  induction bytes generalizing piece with
  | nil =>
    obtain rfl := List.mem_singleton.1 member
    exact List.not_mem_nil
  | cons byte rest ih =>
    rw [cut] at member
    split at member
    · rcases List.mem_cons.1 member with rfl | member
      · exact List.not_mem_nil
      · exact ih member
    next other =>
    cases pieces : cut rest with
    | nil => exact absurd pieces (cut_ne_nil rest)
    | cons first more =>
      simp only [pieces, List.mem_cons] at member ih
      rcases member with rfl | member
      · rw [List.mem_cons, not_or]
        exact ⟨Ne.symm other, ih (.inl rfl)⟩
      · exact ih (.inr member)

theorem mem_route_parts {path name : Bytes} (member : name ∈ (route path).parts) : name ≠ [] ∧ 47 ∉ name := by
  obtain ⟨isPiece, named⟩ := List.mem_filter.1 member
  exact ⟨by simpa using named, notMem_of_mem_cut isPiece⟩

theorem route_parts_append_slash (bytes : Bytes) : (route (bytes ++ [47])).parts = (route bytes).parts := by
  simp [route, cut_append_slash, cut]

theorem route_absolute_append {bytes : Bytes} (below : bytes ≠ []) (more : Bytes) :
    (route (bytes ++ more)).absolute = (route bytes).absolute := by
  cases bytes with
  | nil => contradiction
  | cons byte rest => rfl

theorem route_of_notMem {name : Bytes} (noSlash : 47 ∉ name) (named : name ≠ []) :
    route name = ⟨false, [name], false⟩ := by
  -- The name is its only piece, and neither begins nor ends with a slash.
  have first : name.head? ≠ some 47 := fun same => noSlash (List.mem_of_head? same)
  have last : name.getLast? ≠ some 47 := fun same => noSlash (List.mem_of_getLast? same)
  simp [route, cut_of_notMem noSlash, first, last, named]

theorem route_append_slash {name : Bytes} (noSlash : 47 ∉ name) (named : name ≠ []) (directory : Bytes) :
    route (directory ++ 47 :: name) =
      ⟨(route (directory ++ [47])).absolute, (route directory).parts ++ [name], false⟩ := by
  have absolute : (route (directory ++ 47 :: name)).absolute = (route (directory ++ [47])).absolute := by
    cases directory <;> rfl
  have last : (47 :: name).getLast? ≠ some 47 := by
    cases name with
    | nil => contradiction
    | cons byte rest =>
      rw [List.getLast?_cons_cons]
      exact fun same => noSlash (List.mem_of_getLast? same)
  have parts : (cut (directory ++ 47 :: name)).filter (! ·.isEmpty) =
      (route directory).parts ++ [name] := by
    simp [route, cut_append_slash, cut_of_notMem noSlash, named]
  rw [← absolute, ← parts]
  simp [route, last]

theorem not_startsWith_slash {name : String} (noSlash : '/' ∉ name.toList) : name.startsWith "/" = false := by
  rw [String.startsWith_string_eq_false_iff]
  exact fun front => noSlash (front.subset (by simp))

theorem endsWith_slash {text : String} :
    text.endsWith "/" = true ↔ ∃ front, text.toList = front ++ ['/'] := by
  rw [← String.endsWith_toSlice, String.Slice.endsWith_string_iff]
  simp [List.IsSuffix, eq_comm]

theorem route_join (directory : String) {name : String} (noSlash : '/' ∉ name.toList) (named : name ≠ "") :
    route (Bytes.ofText (join directory name)) =
      ⟨(route (Bytes.ofText directory)).absolute,
        (route (Bytes.ofText directory)).parts ++ [Bytes.ofText name], false⟩ := by
  have noSlash' : (47 : UInt8) ∉ Bytes.ofText name := mt Bytes.slash_mem_ofText.1 noSlash
  have named' : Bytes.ofText name ≠ Bytes.ofText "" := fun same => named (Bytes.ofText_injective same)
  rw [join, not_startsWith_slash noSlash, Bool.false_or]
  split
  · next empty =>
    rw [String.isEmpty_iff] at empty
    rw [empty, route_of_notMem noSlash' named']
    rfl
  next notEmpty =>
  have below : Bytes.ofText directory ≠ Bytes.ofText "" := fun same =>
    notEmpty (String.isEmpty_iff.2 (Bytes.ofText_injective same))
  split
  · next ends =>
    obtain ⟨front, split⟩ := endsWith_slash.1 ends
    have bytes : Bytes.ofText directory = Bytes.ofChars front ++ [47] := by
      rw [Bytes.ofText, split, Bytes.ofChars, List.flatMap_append]
      rfl
    rw [Bytes.ofText_append, bytes, List.append_assoc, List.singleton_append,
      route_append_slash noSlash' named', route_parts_append_slash]
  · rw [Bytes.ofText_append, Bytes.ofText_append, List.append_assoc]
    refine (route_append_slash noSlash' named' _).trans ?_
    rw [route_absolute_append below]

theorem ofText_join (directory : String) {name : String} (noSlash : '/' ∉ name.toList) :
    ∃ between, between <+: [47] ∧
      Bytes.ofText (join directory name) = Bytes.ofText directory ++ (between ++ Bytes.ofText name) := by
  rw [join, not_startsWith_slash noSlash, Bool.false_or]
  split
  · next empty =>
    rw [String.isEmpty_iff] at empty
    rw [empty]
    exact ⟨[], List.nil_prefix, rfl⟩
  split
  · exact ⟨[], List.nil_prefix, by rw [Bytes.ofText_append, List.nil_append]⟩
  · exact ⟨[47], List.prefix_rfl, by rw [Bytes.ofText_append, Bytes.ofText_append, List.append_assoc]; rfl⟩

theorem ofText_join_ne_nil (directory : String) {name : String} (noSlash : '/' ∉ name.toList)
    (named : name ≠ "") : Bytes.ofText (join directory name) ≠ [] := by
  obtain ⟨between, -, joined⟩ := ofText_join directory noSlash
  rw [joined]
  intro empty
  rw [List.append_eq_nil_iff, List.append_eq_nil_iff] at empty
  exact named (Bytes.ofText_injective empty.2.2)

end Path

end Retag
