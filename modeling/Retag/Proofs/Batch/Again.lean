import Retag.Proofs.Batch.Order
import Retag.Proofs.Candidate.Order
import Retag.Proofs.FileSystem.Again

/-! A batch that is run again. The second run finds the directories that the first one made and the outputs that
it left, and where a turn failed, what made it fail; so it selects the same candidates, and each of its turns
comes to the same end and leaves what stands there already.
-/

set_option autoImplicit false

namespace Retag.Batch

variable {conversion : Conversion} {candidate : Candidate} {candidates : List Candidate} {disk : Disk}

namespace Steady

theorem again (steady : Steady conversion candidates disk) :
    Steady conversion candidates (afterTurns conversion disk candidates) where
  toQuiet := steady.later steady.follows
  distinct := steady.distinct
  content candidate chosen := by
    obtain ⟨content, found⟩ := steady.content candidate chosen
    exact ⟨content, (steady.content?_after (List.Subset.refl _) chosen).2 found⟩
  away candidate chosen other chosen' := by
    rw [Disk.spelled_congr steady.follows.workingDirectory, ne_eq,
      steady.follows.place?_output_iff steady.linkFree (steady.flat candidate chosen)]
    exact steady.away candidate chosen other chosen'

theorem outcome_again (steady : Steady conversion candidates disk) (chosen : candidate ∈ candidates) :
    (takeTurn conversion (afterTurns conversion disk candidates) candidate).outcome =
      (takeTurn conversion disk candidate).outcome := by
  have flat := steady.flat candidate chosen
  have whole := List.Subset.refl candidates
  obtain ⟨content, found⟩ := steady.content candidate chosen
  have found' := (steady.content?_after whole chosen).2 found
  rw [(takeTurn_verdict steady.writes flat steady.noFaults steady.linkFree found).1,
    (takeTurn_verdict steady.writes flat steady.again.noFaults steady.again.linkFree found').1,
    steady.verdict_after whole flat]

theorem filterMap_turnsOn_again (steady : Steady conversion candidates disk) {Item : Type}
    (record? : Turn → Option Item) (read? : Candidate × Except Failure Converted → Option Item)
    (reads : ∀ turn, record? turn = read? (turn.candidate, turn.outcome)) :
    (turnsOn conversion (afterTurns conversion disk candidates) candidates).filterMap record? =
      (turnsOn conversion disk candidates).filterMap record? := by
  rw [steady.again.filterMap_turnsOn read? reads, steady.filterMap_turnsOn read? reads]
  exact List.filterMap_congr fun candidate chosen => by rw [steady.outcome_again chosen]

theorem get?_again (steady : Steady conversion candidates disk) (location : Location) :
    (afterTurns conversion (afterTurns conversion disk candidates) candidates).files.get? location =
      (afterTurns conversion disk candidates).files.get? location := by
  rcases steady.again.get?_cases location with stays | ⟨turn, member, named⟩
  · exact stays
  have chosen := candidate_mem member
  have flat := steady.flat _ chosen
  have whole := List.Subset.refl candidates
  obtain ⟨content, found⟩ := steady.content _ chosen
  have found' := (steady.content?_after whole chosen).2 found
  have named' := (steady.follows.place?_output_iff steady.linkFree flat).1 named
  -- The first run took the same turn, and left there what this one finds.
  obtain ⟨first, member', twin⟩ : ∃ first ∈ turnsOn conversion disk candidates,
      first.candidate = turn.candidate := mem_turnsOn_of_mem chosen
  rw [← twin] at found named'
  have left := (steady.turn_verdict member' found).2 location named'
  rw [twin] at left
  rw [(steady.again.turn_verdict member found').2 location named, left, steady.verdict_after whole flat,
    Conversion.leaves_leaves]

end Steady

theorem ready_again (steady : Steady conversion candidates (ready conversion disk))
    (noFaults : disk.faults = []) (linkFree : disk.files.LinkFree) :
    ready conversion (afterTurns conversion (ready conversion disk) candidates) =
      afterTurns conversion (ready conversion disk) candidates := by
  by_cases reaches : (ready conversion disk).Reaches (Bytes.ofText conversion.outputDirectory)
  · have follows := steady.follows
    rw [ready_quiet steady.writes follows.faults]
    refine Disk.createDirectories_of_reaches follows.faults follows.linkFree (reaches.transfer
      follows.workingDirectory fun location => (follows.directory location).2)
  · -- Then the turns changed nothing, and making the directories again fails as it did before.
    rw [steady.afterTurns_unreached reaches (List.Subset.refl _), ready_quiet steady.writes steady.noFaults,
      ready_quiet steady.writes noFaults]
    exact Disk.createDirectories_again noFaults linkFree _

theorem ready_legalNames (conversion : Conversion) (legalNames : disk.files.LegalNames) :
    (ready conversion disk).files.LegalNames := by
  cases writes : conversion.dryRun with
  | true => rwa [ready, writes, if_pos rfl]
  | false =>
    obtain ⟨faults, -, same⟩ := ready_eq writes disk
    rw [same]
    exact Disk.createDirectories_legalNames legalNames _

theorem Quiet.legalNames (quiet : Quiet conversion candidates disk) (legalNames : disk.files.LegalNames) :
    (afterTurns conversion disk candidates).files.LegalNames := by
  intro name parent present
  rcases quiet.get?_cases (.plain name :: parent) with stays | ⟨turn, member, named⟩
  · exact legalNames name parent (stays ▸ present)
  · have flat := quiet.turn_flat member
    obtain ⟨-, notHere, notUp, -, -, -, same⟩ :=
      (Disk.place?_join_iff quiet.linkFree conversion.outputDirectory flat.output flat.named).1 named
    cases same
    exact ⟨fun empty => flat.named (Bytes.ofText_injective empty), mt Bytes.slash_mem_ofText.1 flat.output,
      notHere, notUp⟩

namespace Apart

variable {source : Location}

/-- A run brings no regular file into the source directory, and takes none away. -/
theorem files_iff (apart : Apart conversion candidates source disk) (name content : Bytes) :
    (afterTurns conversion (ready conversion disk) candidates).files.get? (.plain name :: source) =
        some (.file content) ↔
      disk.files.get? (.plain name :: source) = some (.file content) := by
  rcases apart.begins.get?_cases (.plain name :: source) with stays | ⟨turn, member, named⟩
  · rw [stays]
    rcases (ready_gains conversion disk).added (.plain name :: source) with same | ⟨absent, made⟩
    · rw [same]
    · rw [absent, made]
      simp
  · exact absurd rfl (apart.tail_ne member named)

theorem sourceAt (apart : Apart conversion candidates source disk)
    (located : Selection.SourceAt conversion.sourceDirectory source disk) :
    Selection.SourceAt conversion.sourceDirectory source
      (afterTurns conversion (ready conversion disk) candidates) := by
  have gains := ready_gains conversion disk
  have follows := apart.begins.follows
  have directories (location : Location) (stands : disk.files.get? location = some .directory) :
      (afterTurns conversion (ready conversion disk) candidates).files.get? location = some .directory :=
    (follows.directory location).2 (gains.kept stands)
  have stands := directories source located.stands
  exact
    { linkFree := follows.linkFree
      legalNames := apart.begins.legalNames (ready_legalNames conversion located.legalNames)
      resolved := Disk.resolve_transfer located.linkFree follows.linkFree
        (follows.workingDirectory.trans gains.workingDirectory) directories located.resolved (by simp [stands])
      stands }

end Apart

/-- A run that is repeated at once reports the same and changes nothing. Both runs draw their temporary names
apart from all names in use, as `EntryName` has it. -/
theorem run_again {settings : Settings} {disk : Disk} {report : Report}
    (converts : settings.conversion false = .ok conversion) (noFaults : disk.faults = [])
    (linkFree : disk.files.LinkFree) (legalNames : disk.files.LegalNames)
    (noSlash : '/' ∉ settings.suffix.toList)
    (elsewhere : outputLocation conversion (ready conversion disk) ≠
      disk.resolve (Bytes.ofText conversion.sourceDirectory))
    (finished : (run settings false watch () disk).outcome = .ok report) :
    (run settings false watch () (run settings false watch () disk).disk).outcome = .ok report ∧
      (run settings false watch () (run settings false watch () disk).disk).disk.files.get? =
        (run settings false watch () disk).disk.files.get? := by
  obtain ⟨_, candidates, world, converts', -, writes, selected, -⟩ := run_watch finished
  cases converts'.symm.trans converts
  obtain ⟨quiet, source, resolved, apart⟩ :=
    apart_of_select writes noFaults linkFree legalNames noSlash elsewhere selected
  have valid := validate_of_finished finished
  obtain ⟨outcome, final⟩ := run_turns valid converts selected
  rw [quiet] at outcome final
  cases outcome.symm.trans finished
  have steady := apart.steady
  have located := Selection.SourceAt.of_select linkFree legalNames selected resolved
  obtain ⟨log, selected'⟩ :=
    located.select_congr (apart.sourceAt located) noFaults steady.again.noFaults apart.files_iff selected
  obtain ⟨outcome', final'⟩ := run_turns valid converts selected'
  rw [ready_again steady noFaults linkFree] at outcome' final'
  rw [final, outcome', final']
  refine ⟨?_, funext steady.get?_again⟩
  rw [steady.filterMap_turnsOn_again Turn.converted? (fun result => result.2.toOption) fun _ => rfl,
    steady.filterMap_turnsOn_again Turn.skipped? (fun result => (Turn.mk result.1 disk result.2 disk).skipped?)
      fun _ => rfl]

theorem run_again_occupied :
    (run occupiedSettings false watch () (run occupiedSettings false watch () occupiedDisk).disk).outcome =
        .ok ⟨[⟨"A.cs", "o/A_doxy.cs", 1, 1⟩],
          [⟨"B.cs", .writeFailed, "cannot write o/B_doxy.cs: Is a directory (os error 21)"⟩]⟩ ∧
      (run occupiedSettings false watch ()
          (run occupiedSettings false watch () occupiedDisk).disk).disk.files.get? =
        (run occupiedSettings false watch () occupiedDisk).disk.files.get? := by
  have converts : occupiedSettings.conversion false = .ok ⟨"S", "o", Table.builtin, .lf, false⟩ := rfl
  obtain ⟨linkFree, legalNames, noSlash, elsewhere, -, finished⟩ := conditions_occupied
  exact run_again converts rfl linkFree legalNames noSlash elsewhere finished

end Retag.Batch
