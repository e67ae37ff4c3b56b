import Mathlib.Data.List.Nodup
import Retag.Proofs.Candidate.Names
import Retag.Proofs.Candidate.Selection

/-! Derived names of different files are different. Main statement: whatever the suffix is, output names and
names of temporary copies keep different names apart, no output has the name it is derived from unless the
suffix is empty, and so the candidates of one selection have pairwise different derived names.
-/

set_option autoImplicit false

namespace Retag

namespace Candidate

theorem tempName_eq_outputName (name suffix : String) :
    (ofName name suffix).tempName = (ofName name "_temp").outputName := rfl

theorem eq_of_tempName_eq {left right suffix : String}
    (same : (ofName left suffix).tempName = (ofName right suffix).tempName) : left = right := by
  rw [tempName_eq_outputName, tempName_eq_outputName] at same
  exact eq_of_outputName_eq same

theorem length_outputName (name suffix : String) :
    (ofName name suffix).outputName.toList.length = name.toList.length + suffix.toList.length := by
  have parts := congrArg List.length (FileName.split_append name.toList)
  rw [List.length_append] at parts
  rw [toList_outputName, List.length_append, List.length_append]
  omega

theorem outputName_ne {suffix : String} (marked : suffix ≠ "") (name : String) :
    (ofName name suffix).outputName ≠ name := by
  intro same
  have long := length_outputName name suffix
  rw [same, Nat.left_eq_add, List.length_eq_zero_iff, String.toList_eq_nil_iff] at long
  exact marked long

end Candidate

namespace Selection

theorem nodup_map_of_select {source suffix : String} {markers : Markers} {world final : World}
    {candidates : List Candidate} {Derived : Type} {derive : Candidate → Derived}
    (injective : ∀ left right, derive (.ofName left suffix) = derive (.ofName right suffix) → left = right)
    (selected : (select source markers suffix).perform world = (.ok candidates, final)) :
    (candidates.map derive).Nodup := by
  apply List.Nodup.map_on _ (select_nodup selected)
  intro left chosen right chosen' same
  obtain ⟨-, -, -, -, made, -⟩ := mem_select selected chosen
  obtain ⟨-, -, -, -, made', -⟩ := mem_select selected chosen'
  rw [made, made'] at same ⊢
  rw [injective _ _ same]

/-- Dots in the suffix, parts of names in it and an empty suffix make no difference. -/
theorem derived_names_distinct (suffix : String) :
    (∀ left right, left ≠ right →
      (Candidate.ofName left suffix).outputName ≠ (Candidate.ofName right suffix).outputName ∧
      (Candidate.ofName left suffix).tempName ≠ (Candidate.ofName right suffix).tempName) ∧
    (suffix ≠ "" → ∀ name, (Candidate.ofName name suffix).outputName ≠ name) ∧
    ∀ source markers world candidates final,
      (select source markers suffix).perform world = (.ok candidates, final) →
      (candidates.map Candidate.outputName).Nodup ∧ (candidates.map Candidate.tempName).Nodup := by
  refine ⟨fun left right different => ⟨?_, ?_⟩, Candidate.outputName_ne, ?_⟩
  · exact mt Candidate.eq_of_outputName_eq different
  · exact mt Candidate.eq_of_tempName_eq different
  · intro source markers world candidates final selected
    exact ⟨nodup_map_of_select (fun _ _ => Candidate.eq_of_outputName_eq) selected,
      nodup_map_of_select (fun _ _ => Candidate.eq_of_tempName_eq) selected⟩

example : (Candidate.ofName ".a" ".b.").outputName = ".a.b." ∧
    (Candidate.ofName ".a.b" ".b.").outputName = ".a.b..b" := by
  cbv

end Selection

end Retag
