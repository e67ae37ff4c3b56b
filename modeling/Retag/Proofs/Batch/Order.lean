import Retag.Proofs.Batch.EndToEnd

/-! Candidates do not interfere. Each turn of a batch comes to what it would come to as the first one, so the
order of the turns makes no difference.
-/

set_option autoImplicit false

namespace Retag.Batch

variable {conversion : Conversion} {candidates order : List Candidate} {disk : Disk}

namespace Steady

theorem perm (steady : Steady conversion candidates disk) (same : order.Perm candidates) :
    Steady conversion order disk :=
  { steady with
    toQuiet := steady.among same.subset
    distinct := (same.map Candidate.outputName).nodup_iff.2 steady.distinct
    content := fun candidate member => steady.content candidate (same.subset member)
    away := fun candidate member other member' =>
      steady.away candidate (same.subset member) other (same.subset member') }

theorem get?_perm (steady : Steady conversion candidates disk) (same : order.Perm candidates)
    (location : Location) :
    (afterTurns conversion disk order).files.get? location =
      (afterTurns conversion disk candidates).files.get? location := by
  have steady' := steady.perm same
  rcases steady.get?_cases location with stays | ⟨turn, member, named⟩
  · rcases steady'.get?_cases location with stays' | ⟨turn, member, named⟩
    · rw [stays, stays']
    · obtain ⟨turn', member', twin⟩ : ∃ turn' ∈ turnsOn conversion disk candidates,
          turn'.candidate = turn.candidate := mem_turnsOn_of_mem (same.subset (candidate_mem member))
      rw [steady'.place_alone member named, ← twin, steady.place_alone member' (twin ▸ named)]
  · obtain ⟨turn', member', twin⟩ : ∃ turn' ∈ turnsOn conversion disk order,
        turn'.candidate = turn.candidate := mem_turnsOn_of_mem (same.symm.subset (candidate_mem member))
    rw [steady.place_alone member named, ← twin, steady'.place_alone member' (twin ▸ named)]

theorem perm_filterMap_turnsOn (steady : Steady conversion candidates disk) (same : order.Perm candidates)
    {Item : Type} {record? : Turn → Option Item} (read? : Candidate × Except Failure Converted → Option Item)
    (reads : ∀ turn, record? turn = read? (turn.candidate, turn.outcome)) :
    ((turnsOn conversion disk candidates).filterMap record?).Perm
      ((turnsOn conversion disk order).filterMap record?) := by
  rw [steady.filterMap_turnsOn read? reads, (steady.perm same).filterMap_turnsOn read? reads]
  exact same.symm.filterMap _

end Steady

/-- The candidates of a run may be converted in any order: each ends as if it were the only one, what is
reported is the same, and so are the files in the end. In every order temporary names are drawn apart from all
names in use, as `EntryName` has it. -/
theorem run_in_any_order {settings : Settings} {disk : Disk} {report : Report}
    (converts : settings.conversion false = .ok conversion) (noFaults : disk.faults = [])
    (linkFree : disk.files.LinkFree) (legalNames : disk.files.LegalNames)
    (noSlash : '/' ∉ settings.suffix.toList)
    (elsewhere : outputLocation conversion (ready conversion disk) ≠
      disk.resolve (Bytes.ofText conversion.sourceDirectory))
    (finished : (run settings false watch () disk).outcome = .ok report) :
    ∃ candidates,
      ((Selection.select conversion.sourceDirectory settings.markers settings.suffix).perform { disk }).1 =
        .ok candidates ∧
      ∀ order, order.Perm candidates →
        (∀ turn ∈ turnsOn conversion (ready conversion disk) order,
          turn.outcome = (takeTurn conversion (ready conversion disk) turn.candidate).outcome ∧
          ∀ place, (ready conversion disk).place? (Bytes.ofText (conversion.outputPath turn.candidate)) =
              some place →
            (afterTurns conversion (ready conversion disk) order).files.get? place =
              (takeTurn conversion (ready conversion disk) turn.candidate).after.files.get? place) ∧
        report.processed.Perm
          ((turnsOn conversion (ready conversion disk) order).filterMap Turn.converted?) ∧
        report.skipped.Perm ((turnsOn conversion (ready conversion disk) order).filterMap Turn.skipped?) ∧
        (afterTurns conversion (ready conversion disk) order).files.get? =
          (run settings false watch () disk).disk.files.get? := by
  obtain ⟨_, candidates, world, converts', -, writes, selected, -⟩ := run_watch finished
  cases converts'.symm.trans converts
  obtain ⟨quiet, source, -, apart⟩ :=
    apart_of_select writes noFaults linkFree legalNames noSlash elsewhere selected
  obtain ⟨outcome, final⟩ := run_turns (validate_of_finished finished) converts selected
  rw [quiet] at outcome final
  cases outcome.symm.trans finished
  refine ⟨candidates, by rw [selected], fun order same => ?_⟩
  have steady := apart.steady.perm same
  refine ⟨fun turn member => ⟨steady.outcome_alone member, fun place named => steady.place_alone member named⟩,
    apart.steady.perm_filterMap_turnsOn same (fun result => result.2.toOption) fun _ => rfl,
    apart.steady.perm_filterMap_turnsOn same (fun result => (Turn.mk result.1 disk result.2 disk).skipped?)
      fun _ => rfl, ?_⟩
  rw [final]
  exact funext (apart.steady.get?_perm same)

theorem conditions_occupied :
    occupiedDisk.files.LinkFree ∧ occupiedDisk.files.LegalNames ∧ '/' ∉ occupiedSettings.suffix.toList ∧
      outputLocation ⟨"S", "o", Table.builtin, .lf, false⟩
          (ready ⟨"S", "o", Table.builtin, .lf, false⟩ occupiedDisk) ≠ occupiedDisk.resolve (Bytes.ofText "S") ∧
      ((Selection.select "S" occupiedSettings.markers occupiedSettings.suffix).perform
        { disk := occupiedDisk }).1 = .ok [Candidate.ofName "A.cs" "_doxy", Candidate.ofName "B.cs" "_doxy"] ∧
      (run occupiedSettings false watch () occupiedDisk).outcome =
        .ok ⟨[⟨"A.cs", "o/A_doxy.cs", 1, 1⟩],
          [⟨"B.cs", .writeFailed, "cannot write o/B_doxy.cs: Is a directory (os error 21)"⟩]⟩ := by
  decide +kernel

theorem run_in_any_order_occupied :
    (afterTurns ⟨"S", "o", Table.builtin, .lf, false⟩
        (ready ⟨"S", "o", Table.builtin, .lf, false⟩ occupiedDisk)
        [Candidate.ofName "B.cs" "_doxy", Candidate.ofName "A.cs" "_doxy"]).files.get? =
      (run occupiedSettings false watch () occupiedDisk).disk.files.get? := by
  have converts : occupiedSettings.conversion false = .ok ⟨"S", "o", Table.builtin, .lf, false⟩ := rfl
  obtain ⟨linkFree, legalNames, noSlash, elsewhere, listed, finished⟩ := conditions_occupied
  obtain ⟨candidates, selected, anyOrder⟩ :=
    run_in_any_order converts rfl linkFree legalNames noSlash elsewhere finished
  cases selected.symm.trans listed
  exact (anyOrder _ (List.Perm.swap _ _ _)).2.2.2

end Retag.Batch
