import Retag.Proofs.Batch.Apart
import Retag.Proofs.Conversion.Verdict

/-! Turns that come to what they would come to alone. Without faults and links a turn changes nothing that the
verdict on another candidate depends on, as long as no output goes where a source stands; so each turn of a
batch comes to what its verdict says on the disk that the batch begins on.
-/

set_option autoImplicit false

namespace Retag.Batch

variable {conversion : Conversion} {candidate : Candidate} {candidates : List Candidate} {disk : Disk}

theorem Follows.verdict_eq {output : Location} {first later : Disk} (follows : Follows output first later)
    (noFaults : first.faults = []) (linkFree : first.files.LinkFree) (flat : candidate.Flat)
    (reaches : first.Reaches (Bytes.ofText conversion.outputDirectory)) :
    conversion.verdict candidate later = conversion.verdict candidate first := by
  have flat' : 47 ∉ Bytes.ofText candidate.tempStem := mt Bytes.slash_mem_ofText.1 flat.copy
  have front : (Bytes.ofText candidate.tempStem).head? ≠ some 47 := fun same => flat' (List.mem_of_head? same)
  have reaches' := reaches.transfer follows.workingDirectory fun location => (follows.directory location).2
  have enters := (Disk.enter_eq_ok_iff linkFree front).2 ⟨reaches, rfl⟩
  have enters' := (Disk.enter_eq_ok_iff follows.linkFree front).2 ⟨reaches', rfl⟩
  rw [Disk.spelled_congr follows.workingDirectory, ← enters] at enters'
  have copying : later.refusal? (conversion.copyCall candidate) =
      first.refusal? (conversion.copyCall candidate) :=
    Disk.refusal?_createTemporary_congr noFaults follows.faults follows.workingDirectory flat' enters'
  have clearing := Disk.obstruction?_congr noFaults follows.faults linkFree follows.linkFree
    follows.workingDirectory follows.directory reaches flat.output flat.named
  simp only [Conversion.verdict, copying, Conversion.outputPath, clearing,
    Conversion.overlong_congr follows.workingDirectory]

/-- A quiet batch in which no output goes where a source stands. -/
structure Steady (conversion : Conversion) (candidates : List Candidate) (disk : Disk) : Prop
    extends Quiet conversion candidates disk where
  distinct : (candidates.map Candidate.outputName).Nodup
  content : ∀ candidate ∈ candidates, ∃ content,
    disk.content? (Bytes.ofText (conversion.sourcePath candidate)) = some content
  away : ∀ candidate ∈ candidates, ∀ other ∈ candidates,
    disk.place? (Bytes.ofText (conversion.outputPath candidate)) ≠
      some (disk.spelled (Bytes.ofText (conversion.sourcePath other)))

theorem takeTurn_verdict {content : Bytes} (writes : conversion.dryRun = false) (flat : candidate.Flat)
    (noFaults : disk.faults = []) (linkFree : disk.files.LinkFree)
    (found : disk.content? (Bytes.ofText (conversion.sourcePath candidate)) = some content) :
    (takeTurn conversion disk candidate).outcome =
        conversion.outcome candidate content (conversion.verdict candidate disk) ∧
      (takeTurn conversion disk candidate).after.files.get? = conversion.settled candidate content disk := by
  obtain ⟨final, performed, becomes⟩ :=
    Conversion.run_verdict { disk } writes flat noFaults linkFree found
  rw [takeTurn, performed]
  exact ⟨rfl, becomes.files⟩

theorem takeTurn_unreached {content : Bytes} (writes : conversion.dryRun = false) (flat : candidate.Flat)
    (noFaults : disk.faults = []) (linkFree : disk.files.LinkFree)
    (found : disk.content? (Bytes.ofText (conversion.sourcePath candidate)) = some content)
    (unreached : ¬ disk.Reaches (Bytes.ofText conversion.outputDirectory)) :
    (takeTurn conversion disk candidate).after = disk := by
  have uncopied : disk.refusal? (conversion.copyCall candidate) ≠ none :=
    mt (Conversion.reaches_of_copying flat noFaults linkFree) unreached
  obtain ⟨error, refused⟩ := Option.ne_none_iff_exists'.1 uncopied
  rw [takeTurn, Conversion.run_uncopied { disk } writes noFaults found refused]

namespace Steady

theorem afterTurns_unreached (steady : Steady conversion candidates disk)
    (unreached : ¬ disk.Reaches (Bytes.ofText conversion.outputDirectory)) {earlier : List Candidate}
    (among : earlier ⊆ candidates) : afterTurns conversion disk earlier = disk := by
  induction earlier with
  | nil => rfl
  | cons candidate rest ih =>
    obtain ⟨chosen, among⟩ := List.cons_subset.1 among
    obtain ⟨content, found⟩ := steady.content candidate chosen
    rw [afterTurns, List.foldl_cons, takeTurn_unreached steady.writes (steady.flat candidate chosen)
      steady.noFaults steady.linkFree found unreached]
    exact ih among

theorem content?_after (steady : Steady conversion candidates disk) {earlier : List Candidate}
    (among : earlier ⊆ candidates) (chosen : candidate ∈ candidates) {content : Bytes} :
    (afterTurns conversion disk earlier).content? (Bytes.ofText (conversion.sourcePath candidate)) =
        some content ↔
      disk.content? (Bytes.ofText (conversion.sourcePath candidate)) = some content := by
  refine (steady.among among).follows.content?_iff steady.linkFree ?_
  rcases (steady.among among).get?_cases (disk.spelled (Bytes.ofText (conversion.sourcePath candidate)))
    with stays | ⟨other, member, named⟩
  · exact stays
  · exact absurd named (steady.away _ (among (candidate_mem member)) _ chosen)

theorem verdict_after (steady : Steady conversion candidates disk) {earlier : List Candidate}
    (among : earlier ⊆ candidates) (flat : candidate.Flat) :
    conversion.verdict candidate (afterTurns conversion disk earlier) = conversion.verdict candidate disk := by
  by_cases reaches : disk.Reaches (Bytes.ofText conversion.outputDirectory)
  · exact (steady.among among).follows.verdict_eq steady.noFaults steady.linkFree flat reaches
  · rw [steady.afterTurns_unreached reaches among]

/-- A turn comes to what its verdict says at the beginning, and what it leaves at the output's place stays. -/
theorem turn_verdict (steady : Steady conversion candidates disk) {turn : Turn}
    (member : turn ∈ turnsOn conversion disk candidates) {content : Bytes}
    (found : disk.content? (Bytes.ofText (conversion.sourcePath turn.candidate)) = some content) :
    turn.outcome = conversion.outcome turn.candidate content (conversion.verdict turn.candidate disk) ∧
      ∀ place, disk.place? (Bytes.ofText (conversion.outputPath turn.candidate)) = some place →
        (afterTurns conversion disk candidates).files.get? place =
          conversion.leaves content (disk.files.get? place) (conversion.verdict turn.candidate disk) := by
  have flat := steady.turn_flat member
  have follows := steady.turn_follows member
  have taken := eq_takeTurn member
  obtain ⟨earlier, later, same, begun⟩ := mem_turnsOn member
  have before : turn.before = afterTurns conversion disk earlier := congrArg Turn.before begun
  have among : earlier ⊆ candidates := by rw [same]; exact List.subset_append_left _ _
  have verdict := steady.verdict_after among flat
  rw [← before] at verdict
  rw [← steady.content?_after among (candidate_mem member), ← before] at found
  obtain ⟨outcome, settled⟩ := takeTurn_verdict steady.writes flat follows.faults follows.linkFree found
  rw [verdict, ← taken] at outcome
  refine ⟨outcome, fun place named => ?_⟩
  obtain ⟨stood, stays⟩ := steady.turn_settles steady.distinct member named
  have named' := (follows.place?_output_iff steady.linkFree flat).2 named
  rw [stays, congrArg Turn.after taken, settled, Conversion.settled_of_place named', Function.update_self,
    stood, verdict]

/-- Each turn ends as if its candidate were the first one. -/
theorem outcome_alone (steady : Steady conversion candidates disk) {turn : Turn}
    (member : turn ∈ turnsOn conversion disk candidates) :
    turn.outcome = (takeTurn conversion disk turn.candidate).outcome := by
  obtain ⟨content, found⟩ := steady.content _ (candidate_mem member)
  rw [(steady.turn_verdict member found).1, (takeTurn_verdict steady.writes (steady.turn_flat member)
    steady.noFaults steady.linkFree found).1]

theorem place_alone (steady : Steady conversion candidates disk) {turn : Turn}
    (member : turn ∈ turnsOn conversion disk candidates) {place : Location}
    (named : disk.place? (Bytes.ofText (conversion.outputPath turn.candidate)) = some place) :
    (afterTurns conversion disk candidates).files.get? place =
      (takeTurn conversion disk turn.candidate).after.files.get? place := by
  obtain ⟨content, found⟩ := steady.content _ (candidate_mem member)
  rw [(steady.turn_verdict member found).2 place named, (takeTurn_verdict steady.writes
    (steady.turn_flat member) steady.noFaults steady.linkFree found).2, Conversion.settled_of_place named,
    Function.update_self]

theorem map_result_turnsOn (steady : Steady conversion candidates disk) :
    (turnsOn conversion disk candidates).map (fun turn => (turn.candidate, turn.outcome)) =
      candidates.map fun candidate => (candidate, (takeTurn conversion disk candidate).outcome) := by
  conv => rhs; rw [← map_candidate_turnsOn conversion disk candidates, List.map_map]
  exact List.map_congr_left fun turn member => congrArg (Prod.mk _) (steady.outcome_alone member)

theorem filterMap_turnsOn (steady : Steady conversion candidates disk) {Item : Type}
    {record? : Turn → Option Item} (read? : Candidate × Except Failure Converted → Option Item)
    (reads : ∀ turn, record? turn = read? (turn.candidate, turn.outcome)) :
    (turnsOn conversion disk candidates).filterMap record? =
      candidates.filterMap fun candidate =>
        read? (candidate, (takeTurn conversion disk candidate).outcome) := by
  rw [funext reads, ← Function.comp_def read?, ← List.filterMap_map, steady.map_result_turnsOn,
    List.filterMap_map]
  rfl

end Steady

end Retag.Batch
