import Retag.Candidate.Selection
import Retag.Proofs.Action.Perform
import Retag.Proofs.FileSystem.Calls

/-! What selection gives. It only reads; it fails only because the source directory cannot be
listed; and what it selects are the candidates that single entries make, in order of their names.
-/

set_option autoImplicit false

namespace Retag.Selection

open Retag.Action (FailsOnly ReadsOnly)

/-- The path of an entry is looked at if its name is a text that passes the markers. -/
def looked (markers : Markers) (entry : Bytes) : Bool := entry.text?.any markers.accept

/-- The calls that an entry takes: one that comes to it, and one that looks at its path. -/
def calls (markers : Markers) (entry : Bytes) : Nat := if looked markers entry then 2 else 1

def candidate? (source : String) (markers : Markers) (suffix : String) (disk : Disk)
    (entry : Bytes) : Option Candidate :=
  match entry.text? with
  | none => none
  | some name =>
      if markers.accept name && (disk.content? (Bytes.ofText (Path.join source name))).isSome then
        some (Candidate.ofName name suffix)
      else none

/-- The entries whose paths no fault keeps from being looked at. -/
def unrefused (markers : Markers) : List Bytes → List (Option IoError) → List Bytes
  | [], _ => []
  | entry :: rest, faults =>
      let others := unrefused markers rest (faults.drop (calls markers entry))
      if looked markers entry && faults.tail.head?.join.isSome then others else entry :: others

/-- The first error met in coming to the entries and to the end behind them. -/
def stepFault? (markers : Markers) : List Bytes → List (Option IoError) → Option IoError
  | [], faults => faults.head?.join
  | entry :: rest, faults =>
      faults.head?.join <|> stepFault? markers rest (faults.drop (calls markers entry))

variable {source : String} {markers : Markers} {suffix : String}

theorem perform_examine (source : String) (markers : Markers) (suffix : String) (entry : Bytes)
    (world : World) :
    ∃ log, (examine source markers suffix entry).perform world =
      (.ok (if looked markers entry && world.disk.faults.head?.join.isSome then none
          else candidate? source markers suffix world.disk entry),
        ⟨{ world.disk with faults := world.disk.faults.drop (calls markers entry - 1) }, log⟩) := by
  rw [examine, candidate?, calls, looked]
  cases entry.text? with
  | none => exact ⟨_, rfl⟩
  | some name =>
    cases accepted : markers.accept name with
    | false => exact ⟨world.log, by simp [accepted]⟩
    | true =>
      have asked := Action.perform_ask (Disk.isFile (Bytes.ofText (Path.join source name))) world
      rw [Disk.isFile_fst, Disk.isFile_snd] at asked
      simp only [accepted, Option.any_some, Bool.true_and, if_true, Action.perform_bind_of_ok asked]
      cases world.disk.faults.head?.join with
      | some fault => exact ⟨_, by simp; rfl⟩
      | none =>
        cases world.disk.content? (Bytes.ofText (Path.join source name)) with
        | none => exact ⟨_, by simp; rfl⟩
        | some content => exact ⟨_, by simp; rfl⟩

theorem examine_readsOnly (entry : Bytes) : ReadsOnly (examine source markers suffix entry) := by
  intro world
  obtain ⟨log, performed⟩ := perform_examine source markers suffix entry world
  exact ⟨_, log, List.drop_suffix _ _, by rw [performed]⟩

theorem collect_readsOnly (entries : List Bytes) :
    ReadsOnly (collect source markers suffix entries) := by
  induction entries with
  | nil => exact .bind (.attempt Disk.proceed_reads) fun _ => .pure _
  | cons entry entries ih =>
    exact .bind (.attempt Disk.proceed_reads) fun _ => .bind (examine_readsOnly entry) fun _ =>
      .bind ih fun _ => .pure _

theorem listing_readsOnly (directory : Location) : ReadsOnly (Action.ofOutcome fun world =>
    (.ok (world.disk.files.listing directory), world)) :=
  fun world => ⟨world.disk.faults, world.log, List.suffix_rfl, rfl⟩

theorem select_readsOnly : ReadsOnly (select source markers suffix) :=
  .bind (.attempt (Disk.openDirectory_reads _)) fun _ => .bind (listing_readsOnly _) fun _ =>
    .bind (collect_readsOnly _) fun _ => .bind (.note _) fun _ => .pure _

def Blames (source : String) (failure : Failure) : Prop :=
  ∃ cause, failure = .sourceUnavailable source cause

theorem collect_failsOnly (entries : List Bytes) :
    FailsOnly (Blames source) (collect source markers suffix entries) := by
  induction entries with
  | nil => exact .bind (.attempt fun cause => ⟨cause, rfl⟩) fun _ => .pure _
  | cons entry entries ih =>
    refine .bind (.attempt fun cause => ⟨cause, rfl⟩) fun _ => .bind ?_ fun _ => .bind ih fun _ => .pure _
    intro world failure final performed
    obtain ⟨log, examined⟩ := perform_examine source markers suffix entry world
    cases performed.symm.trans examined

theorem select_failsOnly : FailsOnly (Blames source) (select source markers suffix) := by
  refine .bind (.attempt fun cause => ⟨cause, rfl⟩) fun directory => .bind ?_ fun entries =>
    .bind (collect_failsOnly entries) fun _ => .bind (.note _) fun _ => .pure _
  intro world failure final performed
  cases performed

theorem perform_proceed (world : World) :
    (Action.attempt (.sourceUnavailable source) Disk.proceed).perform world =
      (match world.disk.faults.head?.join with
        | some error => .error (.sourceUnavailable source error)
        | none => .ok (),
        { world with disk := { world.disk with faults := world.disk.faults.tail } }) := by
  rw [Action.perform_attempt, Disk.proceed, Disk.call]
  cases world.disk.faults.head?.join <;> rfl

theorem drop_calls (markers : Markers) (entry : Bytes) (faults : List (Option IoError)) :
    faults.tail.drop (calls markers entry - 1) = faults.drop (calls markers entry) := by
  rw [calls]
  split <;> simp

/-- Entries are gone through one by one, and one step behind the last of them the directory ends. -/
theorem collect_outcome (source suffix : String) (markers : Markers) (entries : List Bytes) (world : World) :
    ((collect source markers suffix entries).perform world).1 =
      match stepFault? markers entries world.disk.faults with
      | some error => .error (.sourceUnavailable source error)
      | none => .ok ((unrefused markers entries world.disk.faults).filterMap
          (candidate? source markers suffix world.disk)) := by
  induction entries generalizing world with
  | nil =>
    rw [collect, Action.perform_bind, perform_proceed, stepFault?]
    cases world.disk.faults.head?.join <;> rfl
  | cons entry entries ih =>
    rw [collect, Action.perform_bind, perform_proceed, stepFault?]
    cases world.disk.faults.head?.join with
    | some error => rfl
    | none =>
      obtain ⟨log, examined⟩ := perform_examine source markers suffix entry
        { world with disk := { world.disk with faults := world.disk.faults.tail } }
      dsimp only at examined ⊢
      rw [drop_calls] at examined
      have rest := ih ⟨{ world.disk with faults := world.disk.faults.drop (calls markers entry) }, log⟩
      rw [Action.perform_bind_of_ok examined, Action.perform_bind]
      cases collected : (collect source markers suffix entries).perform
          ⟨{ world.disk with faults := world.disk.faults.drop (calls markers entry) }, log⟩ with
      | mk outcome final =>
        rw [collected] at rest
        obtain rfl : outcome = _ := rest
        simp only [Option.orElse_eq_orElse, Option.orElse_eq_or, Option.none_or]
        cases stepFault? markers entries (world.disk.faults.drop (calls markers entry)) with
        | some error => rfl
        | none =>
          -- What an entry makes depends on the files only, not on the faults that are used up by then.
          have same (faults : List (Option IoError)) : candidate? source markers suffix
              { world.disk with faults } = candidate? source markers suffix world.disk := rfl
          simp only [same, unrefused]
          cases looked markers entry && world.disk.faults.tail.head?.join.isSome with
          | true => rfl
          | false =>
            rw [if_neg Bool.false_ne_true, if_neg Bool.false_ne_true, List.filterMap_cons]
            cases candidate? source markers suffix world.disk entry <;> rfl

theorem openDirectory_ok {path : Bytes} {disk after : Disk} {directory : Location}
    (opened : Disk.openDirectory path disk = (.ok directory, after)) :
    disk.resolve path = .ok directory ∧ disk.files.get? directory = some .directory ∧
      after = { disk with faults := disk.faults.tail } := by
  obtain ⟨files, found, rfl⟩ := Disk.call_ok opened
  obtain ⟨reached, resolved, found⟩ := bind_eq_ok_iff.1 found
  obtain ⟨stood, entered, found⟩ := bind_eq_ok_iff.1 found
  cases found
  obtain ⟨rfl, stands⟩ := FileSystem.asDirectory_eq_ok_iff.1 entered
  exact ⟨resolved, stands, rfl⟩

theorem select_outcome (source suffix : String) (markers : Markers) (world : World) :
    ((select source markers suffix).perform world).1 =
      match (Disk.openDirectory (Bytes.ofText source) world.disk).1 with
      | .error error => .error (.sourceUnavailable source error)
      | .ok directory =>
          match stepFault? markers (world.disk.files.listing directory) world.disk.faults.tail with
          | some error => .error (.sourceUnavailable source error)
          | none => .ok (sortByName
              ((unrefused markers (world.disk.files.listing directory) world.disk.faults.tail).filterMap
                (candidate? source markers suffix world.disk))) := by
  rw [select]
  cases opened : Disk.openDirectory (Bytes.ofText source) world.disk with
  | mk outcome disk =>
    cases outcome with
    | error error => rw [Action.perform_bind_of_error (Action.perform_attempt_of_error opened _)]
    | ok directory =>
      obtain ⟨-, -, rfl⟩ := openDirectory_ok opened
      have listed : (Action.ofOutcome fun world =>
          (.ok (world.disk.files.listing directory), world)).perform
            ⟨{ world.disk with faults := world.disk.faults.tail }, world.log⟩ =
              (.ok (world.disk.files.listing directory), _) := rfl
      have outcome := collect_outcome source suffix markers (world.disk.files.listing directory)
        ⟨{ world.disk with faults := world.disk.faults.tail }, world.log⟩
      rw [Action.perform_bind_of_ok (Action.perform_attempt_of_ok opened _),
        Action.perform_bind_of_ok listed, Action.perform_bind]
      cases collected : (collect source markers suffix (world.disk.files.listing directory)).perform
          ⟨{ world.disk with faults := world.disk.faults.tail }, world.log⟩ with
      | mk reached final =>
        rw [collected] at outcome
        obtain rfl : reached = _ := outcome
        dsimp only
        cases stepFault? markers (world.disk.files.listing directory) world.disk.faults.tail <;> rfl

theorem select_ok {world final : World} {candidates : List Candidate}
    (performed : (select source markers suffix).perform world = (.ok candidates, final)) :
    ∃ directory, world.disk.resolve (Bytes.ofText source) = .ok directory ∧
      world.disk.files.get? directory = some .directory ∧
      candidates = sortByName
        ((unrefused markers (world.disk.files.listing directory) world.disk.faults.tail).filterMap
          (candidate? source markers suffix world.disk)) := by
  have outcome := select_outcome source suffix markers world
  rw [performed] at outcome
  cases opened : Disk.openDirectory (Bytes.ofText source) world.disk with
  | mk reached disk =>
    rw [opened] at outcome
    cases reached with
    | error error => cases outcome
    | ok directory =>
      obtain ⟨resolved, stands, -⟩ := openDirectory_ok opened
      dsimp only at outcome
      split at outcome
      · cases outcome
      · exact ⟨directory, resolved, stands, Except.ok.inj outcome⟩

theorem unrefused_sublist (markers : Markers) (entries : List Bytes) (faults : List (Option IoError)) :
    (unrefused markers entries faults).Sublist entries := by
  induction entries generalizing faults with
  | nil => exact List.Sublist.slnil
  | cons entry entries ih =>
    rw [unrefused]
    split
    · exact (ih _).cons entry
    · exact (ih _).cons_cons entry

theorem unrefused_quiet (markers : Markers) (entries : List Bytes) : unrefused markers entries [] = entries := by
  induction entries with
  | nil => rfl
  | cons entry entries ih => simp [unrefused, ih]

theorem stepFault?_quiet (markers : Markers) (entries : List Bytes) : stepFault? markers entries [] = none := by
  induction entries with
  | nil => rfl
  | cons entry entries ih => simp [stepFault?, ih]

theorem perm_insertByName (candidate : Candidate) (candidates : List Candidate) :
    (insertByName candidate candidates).Perm (candidate :: candidates) := by
  induction candidates with
  | nil => exact .refl _
  | cons first rest ih =>
    rw [insertByName]
    split
    · exact .refl _
    · exact (ih.cons first).trans (.swap candidate first rest)

theorem perm_sortByName (candidates : List Candidate) : (sortByName candidates).Perm candidates := by
  induction candidates with
  | nil => exact .refl _
  | cons candidate candidates ih => exact (perm_insertByName candidate _).trans (ih.cons candidate)

theorem candidate?_eq_some {disk : Disk} {entry : Bytes} {candidate : Candidate}
    (made : candidate? source markers suffix disk entry = some candidate) :
    ∃ name content, entry.text? = some name ∧ candidate = Candidate.ofName name suffix ∧
      disk.content? (Bytes.ofText (Path.join source name)) = some content := by
  rw [candidate?] at made
  split at made
  · cases made
  · next name text =>
    split at made
    · next accepted =>
      cases made
      rw [Bool.and_eq_true, Option.isSome_iff_exists] at accepted
      obtain ⟨content, found⟩ := accepted.2
      exact ⟨name, content, text, rfl, found⟩
    · cases made

/-! ## The names in a directory -/

theorem listed_iff {directory location : Location} {name : Bytes} :
    (match location with
      | .plain name :: parent => if parent = directory then some name else none
      | _ => none) = some name ↔ location = .plain name :: directory := by
  split
  · next other parent =>
    simp only [Option.ite_none_right_eq_some, Option.some.injEq, List.cons.injEq, EntryName.plain.injEq]
    exact and_comm
  · next other =>
    refine iff_of_false (by simp) ?_
    rintro rfl
    exact other name directory rfl

theorem nodup_listing (files : FileSystem) (directory : Location) : (files.listing directory).Nodup := by
  have distinct : files.entries.Pairwise fun first second => first.1 ≠ second.1 :=
    List.pairwise_map.1 files.distinct
  rw [FileSystem.listing, List.Nodup, List.pairwise_filterMap]
  refine distinct.imp fun apart name found name' found' same => apart ?_
  rw [listed_iff.1 found, listed_iff.1 found', same]

theorem get?_of_mem_listing {files : FileSystem} {directory : Location} {name : Bytes}
    (member : name ∈ files.listing directory) : files.get? (.plain name :: directory) ≠ none := by
  obtain ⟨⟨location, entry⟩, listed, found⟩ := List.mem_filterMap.1 member
  obtain rfl := listed_iff.1 found
  exact FileSystem.get?_ne_none_of_mem listed

theorem ofText_name_of_candidate? {disk : Disk} {entry : Bytes} {candidate : Candidate}
    (made : candidate? source markers suffix disk entry = some candidate) :
    Bytes.ofText candidate.name = entry := by
  obtain ⟨name, content, text, rfl, -⟩ := candidate?_eq_some made
  exact (Bytes.text?_eq_some_iff.1 text).symm

theorem nodup_candidates (disk : Disk) {entries : List Bytes} (distinct : entries.Nodup) :
    (entries.filterMap (candidate? source markers suffix disk)).Nodup := by
  rw [List.Nodup, List.pairwise_filterMap]
  refine distinct.imp fun apart candidate made other made' same => apart ?_
  rw [← ofText_name_of_candidate? made, same, ofText_name_of_candidate? made']

theorem nodup_unrefused (markers : Markers) (files : FileSystem) (directory : Location)
    (faults : List (Option IoError)) : (unrefused markers (files.listing directory) faults).Nodup :=
  (nodup_listing files directory).sublist (unrefused_sublist markers _ faults)

theorem select_nodup {world final : World} {candidates : List Candidate}
    (performed : (select source markers suffix).perform world = (.ok candidates, final)) :
    candidates.Nodup := by
  obtain ⟨directory, -, -, rfl⟩ := select_ok performed
  rw [(perm_sortByName _).nodup_iff]
  exact nodup_candidates world.disk (nodup_unrefused ..)

theorem mem_select {world final : World} {candidates : List Candidate}
    (performed : (select source markers suffix).perform world = (.ok candidates, final))
    {candidate : Candidate} (chosen : candidate ∈ candidates) :
    ∃ directory content, world.disk.resolve (Bytes.ofText source) = .ok directory ∧
      world.disk.files.get? (.plain (Bytes.ofText candidate.name) :: directory) ≠ none ∧
      candidate = Candidate.ofName candidate.name suffix ∧
      world.disk.content? (Bytes.ofText (Path.join source candidate.name)) = some content := by
  obtain ⟨directory, resolved, -, rfl⟩ := select_ok performed
  obtain ⟨entry, listed, made⟩ := List.mem_filterMap.1 ((perm_sortByName _).mem_iff.1 chosen)
  replace listed := (unrefused_sublist ..).subset listed
  have named := ofText_name_of_candidate? made
  obtain ⟨name, content, -, rfl, found⟩ := candidate?_eq_some made
  exact ⟨directory, content, resolved, named ▸ get?_of_mem_listing listed, rfl, found⟩

end Retag.Selection
