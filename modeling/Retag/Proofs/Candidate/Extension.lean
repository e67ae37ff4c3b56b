import Retag.Proofs.Candidate.Names

/-! Extensions of derived names. A name has no extension just if no dot stands behind its first character, and what
is put between its two parts shows in the extension only where a dot comes to stand last. Main statement: the
temporary copy always has the extension of the name it is made from, and the output has it unless the suffix
brings a dot to a name without one.
-/

set_option autoImplicit false

namespace Retag

namespace FileName

theorem extension_cases (name : String) :
    extension name = "" ∨ ∃ rest, (extension name).toList = '.' :: rest ∧ '.' ∉ rest := by
  rcases split_cases name.toList with ⟨first, stem, rest, cut, -, noDot⟩ | ⟨cut, -⟩
  · exact .inr ⟨rest, by rw [extension, cut, String.toList_ofList], noDot⟩
  · exact .inl (by rw [extension, cut])

theorem extension_eq_empty_iff (name : String) : extension name = "" ↔ '.' ∉ name.toList.tail := by
  rcases split_cases name.toList with ⟨first, stem, rest, cut, whole, -⟩ | ⟨cut, noDot⟩
  · rw [extension, cut, whole]
    simp
  · rw [extension, cut]
    simpa using noDot

theorem stem_ne_empty {name : String} (named : name ≠ "") : stem name ≠ "" := by
  rcases split_cases name.toList with ⟨first, stem', rest, cut, -, -⟩ | ⟨cut, -⟩
  · rw [stem, cut]
    simp
  · rw [stem, cut, String.ofList_toList]
    exact named

theorem extension_shorter {name : String} (named : name ≠ "") :
    (extension name).utf8ByteSize < name.utf8ByteSize := by
  have whole := congrArg String.utf8ByteSize (stem_append_extension name)
  rw [String.utf8ByteSize_append] at whole
  have positive : (stem name).utf8ByteSize ≠ 0 := by
    simpa using stem_ne_empty named
  omega

theorem extension_append_eq_empty_iff {name : String} (named : name ≠ "") (whole : extension name = "")
    (suffix : String) : extension (name ++ suffix) = "" ↔ '.' ∉ suffix.toList := by
  have chars : name.toList ≠ [] := mt String.toList_eq_nil_iff.1 named
  rw [extension_eq_empty_iff] at whole ⊢
  rw [String.toList_append, List.tail_append_of_ne_nil chars, List.mem_append, not_or]
  exact and_iff_right whole

end FileName

namespace Candidate

theorem extension_outputName_of_ne {name : String} (dotted : FileName.extension name ≠ "") (suffix : String) :
    FileName.extension (ofName name suffix).outputName = FileName.extension name := by
  rw [FileName.extension] at dotted ⊢
  rw [toList_outputName, FileName.extension]
  rcases FileName.split_cases name.toList with ⟨first, stem, rest, cut, -, noDot⟩ | ⟨cut, -⟩
  · have shape : first :: stem ++ suffix.toList ++ '.' :: rest =
        (first :: (stem ++ suffix.toList)) ++ '.' :: rest := by
      simp
    rw [cut, shape, FileName.split, FileName.splitLastDot?_append_dot _ noDot]
  · rw [cut] at dotted
    contradiction

theorem extension_outputName_of_notMem {suffix : String} (noDot : '.' ∉ suffix.toList) (name : String) :
    FileName.extension (ofName name suffix).outputName = FileName.extension name := by
  rw [FileName.extension, toList_outputName, FileName.split_infix noDot, FileName.extension]

theorem extension_outputName_iff {name : String} (named : name ≠ "") (suffix : String) :
    FileName.extension (ofName name suffix).outputName = FileName.extension name ↔
      FileName.extension name ≠ "" ∨ '.' ∉ suffix.toList := by
  by_cases whole : FileName.extension name = ""
  · have stem : FileName.stem name = name := by
      simpa [whole] using FileName.stem_append_extension name
    have output : (ofName name suffix).outputName = name ++ suffix := by
      simp [ofName, whole, stem]
    rw [output, whole, FileName.extension_append_eq_empty_iff named whole]
    simp
  · exact iff_of_true (extension_outputName_of_ne whole suffix) (.inl whole)

/-- The temporary copy is named with marks of its own in front of the extension: as an output whose suffix has
no dot, whatever these marks are. -/
theorem extension_marked {marks : String} (noDot : '.' ∉ marks.toList) (name suffix : String) :
    FileName.extension ((ofName name suffix).tempStem ++ marks ++ (ofName name suffix).extension) =
      (ofName name suffix).extension := by
  have noDot' : '.' ∉ ("_temp" ++ marks).toList := by
    rw [String.toList_append, List.mem_append, not_or]
    exact ⟨by decide, noDot⟩
  rw [tempStem_ofName, @String.append_assoc (FileName.stem name)]
  exact extension_outputName_of_notMem noDot' name

/-- How the names of a file, its temporary copy and its output fit together, for every name and suffix. -/
theorem derived_names_fit (name suffix : String) :
    (ofName name suffix).tempStem ++ (ofName name suffix).extension = (ofName name suffix).tempName ∧
    (∀ marks : String, '.' ∉ marks.toList →
      FileName.extension ((ofName name suffix).tempStem ++ marks ++ (ofName name suffix).extension) =
        (ofName name suffix).extension) ∧
    ((ofName name suffix).extension = "" ∨
      ∃ rest, (ofName name suffix).extension.toList = '.' :: rest ∧ '.' ∉ rest) ∧
    (name ≠ "" → (ofName name suffix).extension.utf8ByteSize < name.utf8ByteSize) ∧
    (name ≠ "" → (FileName.extension (ofName name suffix).outputName = (ofName name suffix).extension ↔
      (ofName name suffix).extension ≠ "" ∨ '.' ∉ suffix.toList)) :=
  ⟨tempStem_append_extension name suffix, fun _ noDot => extension_marked noDot name suffix,
    FileName.extension_cases name, FileName.extension_shorter, fun named => extension_outputName_iff named suffix⟩

/-- The dot in front belongs to the stem, so this name has no extension, and the suffix brings one. -/
example : (ofName ".cs" ".min").extension = "" ∧
    FileName.extension (ofName ".cs" ".min").outputName = ".min" ∧
    FileName.extension (ofName "a.b.cs" ".min").outputName = ".cs" := by
  cbv

end Candidate

end Retag
