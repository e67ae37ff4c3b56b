import Mathlib.Data.List.Forall2
import Retag.Proofs.Batch.Protocol

/-! What the events of a batch stand for. Each is the record of one conversion, of the candidate whose
turn it was, on the disk that it came upon; the observer decides which disk that is, and nothing else.
-/

set_option autoImplicit false

namespace Retag.Batch

variable {State : Type}

def Event.Records (candidate : Candidate) (outcome : Except Failure Converted) : Event → Prop
  | .fileWritten _ file => outcome = .ok file
  | .fileSkipped _ file => ∃ failure record, outcome = .error failure ∧
      skip candidate failure = .ok (file, record)
  | _ => False

/-- The event records a conversion of the candidate on some disk. -/
def Event.Stems (conversion : Conversion) (candidate : Candidate) (event : Event) : Prop :=
  ∃ world, event.Records candidate ((conversion.run candidate).perform world).1

theorem convertAll_stems (conversion : Conversion) (observe : Observer State) (state : State) (disk : Disk)
    (index : Nat) (candidates : List Candidate) :
    List.Forall₂ (fun candidate event => Event.Stems conversion candidate event) candidates
      (convertAll conversion observe state disk index candidates).events := by
  induction candidates generalizing state disk index with
  | nil => exact .nil
  | cons candidate rest ih =>
    rcases convertAll_cons conversion observe state disk index candidate rest with
      ⟨file, world, performed, -, turn⟩ | ⟨failure, file, record, world, performed, skipped, -, turn⟩
    · rw [turn, events_after, List.filterMap_append, filterMap_record]
      refine .cons ⟨{ disk }, ?_⟩ (ih _ _ _)
      rw [performed]
      exact rfl
    · rw [turn, events_after, List.filterMap_append, filterMap_record]
      refine .cons ⟨{ disk }, ?_⟩ (ih _ _ _)
      rw [performed]
      exact ⟨failure, record, rfl, skipped⟩

theorem stems_of_mem {conversion : Conversion} {candidates : List Candidate} {events : List Event}
    (stems : List.Forall₂ (fun candidate event => Event.Stems conversion candidate event) candidates events)
    {event : Event} (told : event ∈ events) : ∃ candidate ∈ candidates, event.Stems conversion candidate := by
  induction stems with
  | nil => cases told
  | @cons candidate first candidates events here _ ih =>
    rcases List.mem_cons.1 told with rfl | told
    · exact ⟨candidate, List.mem_cons_self, here⟩
    · obtain ⟨candidate, chosen, stems⟩ := ih told
      exact ⟨candidate, List.mem_cons_of_mem _ chosen, stems⟩

theorem stems_of_get {conversion : Conversion} {candidates : List Candidate} {events : List Event}
    (stems : List.Forall₂ (fun candidate event => Event.Stems conversion candidate event) candidates events)
    {position : Nat} {candidate : Candidate} {event : Event}
    (chosen : candidates[position]? = some candidate) (told : events[position]? = some event) :
    event.Stems conversion candidate := by
  obtain ⟨inside, rfl⟩ := List.getElem?_eq_some_iff.1 chosen
  obtain ⟨inside', rfl⟩ := List.getElem?_eq_some_iff.1 told
  exact (List.forall₂_iff_get.1 stems).2 position inside inside'

theorem output_of_perform {conversion : Conversion} {candidate : Candidate} {world final : World}
    {file : Converted} (performed : (conversion.run candidate).perform world = (.ok file, final)) :
    file.output = conversion.outputPath candidate := by
  rcases Action.perform_bind_cases performed with ⟨failure, -, same⟩ | ⟨source, opened, -, performed⟩
  · cases same
  rcases Action.perform_bind_cases performed with ⟨failure, -, same⟩ | ⟨tally, converted, -, performed⟩
  · cases same
  rcases Action.perform_bind_cases performed with ⟨failure, -, same⟩ | ⟨⟨⟩, noted, -, performed⟩
  · cases same
  cases performed
  rfl

theorem Event.Stems.output {conversion : Conversion} {candidate : Candidate} {event : Event}
    {file : Converted} (stems : event.Stems conversion candidate) (written : event.written? = some file) :
    file.output = conversion.outputPath candidate := by
  obtain ⟨world, records⟩ := stems
  cases event with
  | fileWritten index told =>
    cases written
    exact output_of_perform (Prod.ext records rfl)
  | started total => cases written
  | fileSkipped index told => cases written
  | finished processed skipped => cases written

end Retag.Batch
