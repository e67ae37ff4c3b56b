import Mathlib.Data.List.Basic
import Retag.Proofs.Candidate.Names
import Retag.Proofs.Conversion.Effect
import Retag.Proofs.FileSystem.Entered

/-! One conversion takes effect as a whole or not at all. Where it succeeds, the entry of the output's name
is a file with the retagged source, and every other entry is what it was, however the source, the previous
output and links between them lie. Where it fails, at whatever call, no entry has changed, unless it was
behind the removal of a previous output: then that one is gone.

The temporary copy is in the way of both only where it cannot be dropped, because the way that it was made
led through the very entry that was removed. After a success that takes a candidate whose temporary name has
a slash in it, and no name gives rise to such a candidate.
-/

set_option autoImplicit false

namespace Retag

open Function (update)

variable {disk : Disk}

theorem Disk.exists_enters_of_place? {directory name : String}
    (legal : FileSystem.LegalName (Bytes.ofText name)) {place : Location}
    (named : disk.place? (Bytes.ofText (Path.join directory name)) = some place) :
    ∃ entered, disk.Enters (Bytes.ofText directory) entered ∧
      place = .plain (Bytes.ofText name) :: entered := by
  have noSlash : '/' ∉ name.toList := mt Bytes.slash_mem_ofText.2 legal.2.1
  have below : name ≠ "" := by
    rintro rfl
    exact legal.1 rfl
  exact ((place?_join_iff_enters directory noSlash below).1 named).2.2.2.2.2

namespace Conversion

variable {conversion : Conversion} {candidate : Candidate} {world : World}

namespace Prepared

variable {copy place : Location} {content : Bytes} {view : Location → Option Entry} {cleared : World}

theorem within (prepared : Prepared conversion candidate world copy content view cleared)
    (honest : some .notFound ∉ world.disk.faults)
    (named : world.disk.place? (Bytes.ofText (conversion.outputPath candidate)) = some place)
    (free : world.disk.files.get? place ≠ some .directory) {after : FileSystem}
    (kept : ∀ location, location ≠ place → world.disk.files.get? location ≠ none →
      after.get? location = world.disk.files.get? location) : cleared.disk.files.Within after := by
  have vacant := prepared.vacant honest place named
  obtain ⟨serial, parent, rfl⟩ := prepared.temporary
  constructor
  · intro location found
    rw [prepared.becomes.files, Function.update_apply] at found
    split at found
    · cases found
    · have stood := prepared.clears.get?_of_view found
      rw [kept location (by rintro rfl; exact free stood) (by simp [stood]), stood]
  · intro name above entry found
    rw [prepared.becomes.files, Function.update_of_ne (by simp)] at found
    have stood := prepared.clears.get?_of_view found
    rw [kept _ (by rintro rfl; simp [vacant] at found) (by simp [stood]), stood]

end Prepared

def linkedOutput : Disk where
  files := (((FileSystem.empty.put [.plain (Bytes.ofText "S")] .directory).put
    [.plain (Bytes.ofText "A.cs"), .plain (Bytes.ofText "S")] (.file (Bytes.ofText "File: a\n"))).put
    [.plain (Bytes.ofText "o")] .directory).put
    [.plain (Bytes.ofText "A_doxy.cs"), .plain (Bytes.ofText "o")] (.link (Bytes.ofText "../S/A.cs"))
  workingDirectory := []

def tagging : Conversion := ⟨"S", "o", Table.builtin, .lf, false⟩

/-- A conversion that fails in its preparations, the removal of a previous output included, has changed no
entry. One that fails later has changed none either, or just removed the previous output. Only then the
temporary copy may not be dropped, and that is so if its way does not lead to it any more. -/
theorem run_all_or_nothing (conversion : Conversion) (candidate : Candidate) (world final : World)
    (failure : Failure) (writes : conversion.dryRun = false)
    (legal : FileSystem.LegalName (Bytes.ofText candidate.outputName))
    (performed : (conversion.run candidate).perform world = (.error failure, final)) :
    (∃ stopped, (conversion.prepare candidate).perform world = (.error failure, stopped) ∧
        final.disk.files.get? = world.disk.files.get?) ∨
      ∃ copy cleared later, (conversion.prepare candidate).perform world = (.ok copy, cleared) ∧
        (conversion.stage candidate copy).perform cleared = (.error failure, later) ∧
        (final.disk.files.get? = world.disk.files.get? ∨
          ∃ directory entry, world.disk.Enters (Bytes.ofText conversion.outputDirectory) directory ∧
            world.disk.files.get? (.plain (Bytes.ofText candidate.outputName) :: directory) = some entry ∧
            entry ≠ .directory ∧
            (later.disk.Finds (conversion.copyWay candidate) copy →
              final.disk.files.get? = update world.disk.files.get?
                (.plain (Bytes.ofText candidate.outputName) :: directory) none) ∧
            (¬ later.disk.Finds (conversion.copyWay candidate) copy → ∃ content,
              final.disk.files.get? = update (update world.disk.files.get?
                (.plain (Bytes.ofText candidate.outputName) :: directory) none) copy
                  (some (.file content)))) := by
  rcases run_prepares writes performed with ⟨_, stopped, prepared, same, becomes⟩ |
    ⟨copy, content, view, cleared, result, later, prepared, staged, ends, same⟩
  · cases same
    exact .inl ⟨stopped, prepared, becomes.files⟩
  obtain ⟨other, rfl, kept⟩ | ⟨_, _, _, _, rfl, _⟩ := prepared.stage_cases staged
  · obtain rfl : failure = other := Except.error.inj same
    refine .inr ⟨_, cleared, later, prepared.performed, staged, ?_⟩
    have absent := prepared.absent_of_view
    have finds := prepared.finds
    have below : copy ≠ [] := by
      obtain ⟨serial, parent, rfl⟩ := prepared.temporary
      exact List.cons_ne_nil _ _
    rcases prepared.clears with rfl | ⟨place, entry, named, stood, other, rfl⟩
    · obtain ⟨serial, parent, rfl⟩ := prepared.temporary
      exact .inl (by rw [ends, (discard_becomes absent finds kept).files])
    · obtain ⟨directory, enters, rfl⟩ := Disk.exists_enters_of_place? legal named
      refine .inr ⟨directory, entry, enters, stood, other, fun found => ?_, fun lost => ⟨content, ?_⟩⟩
      · rw [ends, (Disk.discard_of_finds below found).files, kept.files, update_temporary absent]
      · rw [ends, Disk.discard_of_not_finds lost, kept.files]
  · simp [Except.map] at same

def fullOutput : Disk := { linkedOutput with faults := List.replicate 11 none ++ [some .noSpace] }

theorem run_all_or_nothing_full :
    ∃ final, (tagging.run (Candidate.ofName "A.cs" "_doxy")).perform { disk := fullOutput } =
        (.error (.unwritable "o/A_doxy.cs" .noSpace), final) ∧
      final.disk.files.get? = update fullOutput.files.get?
        [.plain (Bytes.ofText "A_doxy.cs"), .plain (Bytes.ofText "o")] none := by
  obtain ⟨failed, gone, outputName, reached, copied, dropped⟩ :
      ((tagging.run (Candidate.ofName "A.cs" "_doxy")).perform { disk := fullOutput }).1 =
          .error (.unwritable "o/A_doxy.cs" .noSpace) ∧
        ((tagging.run (Candidate.ofName "A.cs" "_doxy")).perform { disk := fullOutput }).2.disk.files.get?
          [.plain (Bytes.ofText "A_doxy.cs"), .plain (Bytes.ofText "o")] = none ∧
        (Candidate.ofName "A.cs" "_doxy").outputName = "A_doxy.cs" ∧
        fullOutput.files.resolve [] (Path.route (Bytes.ofText "o")) = .ok [.plain (Bytes.ofText "o")] ∧
        ((tagging.prepare (Candidate.ofName "A.cs" "_doxy")).perform { disk := fullOutput }).1 =
          .ok [.temporary 0, .plain (Bytes.ofText "o")] ∧
        ((tagging.run (Candidate.ofName "A.cs" "_doxy")).perform { disk := fullOutput }).2.disk.files.get?
          [.temporary 0, .plain (Bytes.ofText "o")] = none := by
    decide +kernel
  have atomic := run_all_or_nothing tagging (Candidate.ofName "A.cs" "_doxy") { disk := fullOutput } _ _ rfl
    (by rw [outputName]; decide) (Prod.ext failed rfl)
  rw [outputName] at atomic
  refine ⟨_, Prod.ext failed rfl, ?_⟩
  have changed : ((tagging.run (Candidate.ofName "A.cs" "_doxy")).perform
      { disk := fullOutput }).2.disk.files.get? ≠ fullOutput.files.get? := fun same => by
    rw [same] at gone
    cases gone
  rcases atomic with ⟨_, -, same⟩ | ⟨copy, _, _, prepared, -, same | ⟨directory, _, enters, -, -, found, lost⟩⟩
  · exact absurd same changed
  · exact absurd same changed
  · cases reached.symm.trans enters.reached
    refine found (by_contra fun isLost => ?_)
    -- The copy would stand where nothing does.
    obtain ⟨content, left⟩ := lost isLost
    cases copied.symm.trans (congrArg Prod.fst prepared)
    rw [left, Function.update_self] at dropped
    cases dropped

end Conversion

end Retag
