import Retag.Proofs.Batch.Turns
import Retag.Proofs.Candidate.Distinct

/-! Turns on a disk without faults and links. Each finds the disk that the first one found, but for
entries of the output directory, and among those directories stay directories; so paths mean the same to
all turns. Candidates of one run have outputs of different names, so no turn finds anything of another
one's at the place of its own output, and what it leaves there stays.
-/

set_option autoImplicit false

namespace Retag.Batch

open Function (update)

/-- The later disk differs from the first at most in entries of one directory, and never in where
directories stand. -/
structure Follows (output : Location) (first later : Disk) : Prop where
  workingDirectory : later.workingDirectory = first.workingDirectory
  faults : later.faults = []
  linkFree : later.files.LinkFree
  directory : ∀ location, later.files.get? location = some .directory ↔
    first.files.get? location = some .directory
  elsewhere : ∀ location, location.tail ≠ output → later.files.get? location = first.files.get? location

namespace Follows

variable {output : Location} {first later : Disk}

theorem refl {disk : Disk} (noFaults : disk.faults = []) (linkFree : disk.files.LinkFree) :
    Follows output disk disk :=
  ⟨rfl, noFaults, linkFree, fun _ => Iff.rfl, fun _ _ => rfl⟩

theorem update {final : Disk} {name : EntryName} {put? : Option Entry} (follows : Follows output first later)
    (free : later.files.get? (name :: output) ≠ some .directory) (other : put? ≠ some .directory)
    (noLink : ∀ target, put? ≠ some (.link target))
    (becomes : later.Becomes (Function.update later.files.get? (name :: output) put?) final) :
    Follows output first final where
  workingDirectory := becomes.workingDirectory.trans follows.workingDirectory
  faults := becomes.quiet follows.faults
  linkFree := by
    rw [FileSystem.LinkFree, becomes.files]
    exact FileSystem.update_ne_link follows.linkFree noLink
  directory location := by
    rw [← follows.directory, becomes.files, Function.update_apply]
    split
    · next same =>
      subst same
      exact iff_of_false other free
    · exact Iff.rfl
  elsewhere location apart := by
    rw [becomes.files, Function.update_of_ne (by rintro rfl; exact apart rfl),
      follows.elsewhere location apart]

theorem of_becomes {final : Disk} (follows : Follows output first later)
    (becomes : later.Becomes later.files.get? final) : Follows output first final where
  workingDirectory := becomes.workingDirectory.trans follows.workingDirectory
  faults := becomes.quiet follows.faults
  linkFree := by
    intro location target
    rw [becomes.files]
    exact follows.linkFree location target
  directory location := by rw [becomes.files, follows.directory]
  elsewhere location apart := by rw [becomes.files, follows.elsewhere location apart]

theorem place?_output_iff (follows : Follows output first later) (linkFree : first.files.LinkFree)
    {conversion : Conversion} {candidate : Candidate} (flat : candidate.Flat) {place : Location} :
    later.place? (Bytes.ofText (conversion.outputPath candidate)) = some place ↔
      first.place? (Bytes.ofText (conversion.outputPath candidate)) = some place :=
  ⟨Disk.place?_join_transfer follows.linkFree linkFree follows.workingDirectory.symm
      (fun location => (follows.directory location).1) _ flat.output flat.named,
    Disk.place?_join_transfer linkFree follows.linkFree follows.workingDirectory
      (fun location => (follows.directory location).2) _ flat.output flat.named⟩

theorem content?_iff (follows : Follows output first later) (linkFree : first.files.LinkFree)
    {path content : Bytes}
    (kept : later.files.get? (first.spelled path) = first.files.get? (first.spelled path)) :
    later.content? path = some content ↔ first.content? path = some content := by
  refine ⟨Disk.content?_transfer follows.linkFree linkFree follows.workingDirectory.symm
      (fun location => (follows.directory location).1) ?_,
    Disk.content?_transfer linkFree follows.linkFree follows.workingDirectory
      (fun location => (follows.directory location).2) kept⟩
  rw [Disk.spelled_congr follows.workingDirectory, kept]

end Follows

/-! ## One turn -/

variable {conversion : Conversion} {candidate : Candidate} {disk : Disk}

theorem place_eq_of_flat (linkFree : disk.files.LinkFree) (flat : candidate.Flat) {place : Location}
    (named : disk.place? (Bytes.ofText (conversion.outputPath candidate)) = some place) :
    place = .plain (Bytes.ofText candidate.outputName) ::
      disk.spelled (Bytes.ofText conversion.outputDirectory) :=
  ((Disk.place?_join_iff linkFree _ flat.output flat.named).1 named).2.2.2.2.2.2

/-- Where the output directory is; an empty path stands for the working directory. -/
def outputLocation (conversion : Conversion) (disk : Disk) : Except IoError Location :=
  if conversion.outputDirectory.isEmpty then .ok disk.workingDirectory
  else disk.resolve (Bytes.ofText conversion.outputDirectory)

theorem outputLocation_of_place? (linkFree : disk.files.LinkFree) (flat : candidate.Flat) {place : Location}
    (named : disk.place? (Bytes.ofText (conversion.outputPath candidate)) = some place) :
    outputLocation conversion disk = .ok place.tail := by
  rw [outputLocation]
  split
  · next empty =>
    rw [place_eq_of_flat linkFree flat named, String.isEmpty_iff.1 empty]
    rfl
  · next below =>
    exact Disk.resolve_of_place?_join linkFree (mt String.isEmpty_iff.2 below) flat.output flat.named named

theorem takeTurn_follows {first : Disk} (writes : conversion.dryRun = false) (flat : candidate.Flat)
    (follows : Follows (first.spelled (Bytes.ofText conversion.outputDirectory)) first disk) :
    Follows (first.spelled (Bytes.ofText conversion.outputDirectory)) first
      (takeTurn conversion disk candidate).after := by
  obtain ⟨becomes, -⟩ := takeTurn_becomes writes follows.linkFree candidate
  cases made : (takeTurn conversion disk candidate).change? conversion with
  | none =>
    rw [made] at becomes
    exact follows.of_becomes becomes
  | some change =>
    rw [made] at becomes
    obtain ⟨location, put?⟩ := change
    obtain ⟨named, free, noDirectory, noLink⟩ := place_of_change? writes made
    obtain rfl : location = _ := place_eq_of_flat follows.linkFree flat named
    rw [Disk.spelled_congr follows.workingDirectory] at free becomes
    exact follows.update free noDirectory noLink becomes

/-! ## All turns -/

variable {candidates : List Candidate}

/-- Each turn finds what the turns before it left. -/
theorem mem_turnsOn {turn : Turn} (member : turn ∈ turnsOn conversion disk candidates) :
    ∃ earlier later, candidates = earlier ++ turn.candidate :: later ∧
      turn = takeTurn conversion (afterTurns conversion disk earlier) turn.candidate := by
  induction candidates generalizing disk with
  | nil => cases member
  | cons candidate rest ih =>
    rcases List.mem_cons.1 member with rfl | member
    · exact ⟨[], rest, rfl, rfl⟩
    · obtain ⟨earlier, later, rfl, taken⟩ := ih member
      exact ⟨candidate :: earlier, later, rfl, taken⟩

theorem eq_takeTurn {turn : Turn} (member : turn ∈ turnsOn conversion disk candidates) :
    turn = takeTurn conversion turn.before turn.candidate := by
  obtain ⟨earlier, later, -, taken⟩ := mem_turnsOn member
  rw [congrArg Turn.before taken]
  exact taken

theorem afterTurns_append (earlier later : List Candidate) : afterTurns conversion disk (earlier ++ later) =
    afterTurns conversion (afterTurns conversion disk earlier) later := List.foldl_append

theorem get?_afterTurns_of_forall_ne (writes : conversion.dryRun = false) (linkFree : disk.files.LinkFree)
    {location : Location}
    (apart : ∀ turn ∈ turnsOn conversion disk candidates, ∀ change,
      turn.change? conversion = some change → change.location ≠ location) :
    (afterTurns conversion disk candidates).files.get? location = disk.files.get? location := by
  have none_ : (changes conversion disk candidates).filter
      (fun change => change.location = location) = [] := by
    rw [List.filter_eq_nil_iff]
    intro change member
    obtain ⟨turn, taken, made⟩ := List.mem_filterMap.1 member
    simpa using apart turn taken change made
  rw [(afterTurns_becomes writes linkFree candidates).files, changed_apply, none_]
  rfl

theorem afterTurns_follows {first : Disk} (writes : conversion.dryRun = false)
    (flat : ∀ candidate ∈ candidates, candidate.Flat)
    (follows : Follows (first.spelled (Bytes.ofText conversion.outputDirectory)) first disk) :
    Follows (first.spelled (Bytes.ofText conversion.outputDirectory)) first
      (afterTurns conversion disk candidates) := by
  induction candidates generalizing disk with
  | nil => exact follows
  | cons candidate rest ih =>
    exact ih (fun candidate member => flat candidate (List.mem_cons_of_mem _ member))
      (takeTurn_follows writes (flat candidate List.mem_cons_self) follows)

/-- Candidates to convert, by no dry run, whose names are flat, and a disk without faults and links. -/
structure Quiet (conversion : Conversion) (candidates : List Candidate) (disk : Disk) : Prop where
  writes : conversion.dryRun = false
  flat : ∀ candidate ∈ candidates, candidate.Flat
  noFaults : disk.faults = []
  linkFree : disk.files.LinkFree

namespace Quiet

theorem follows (quiet : Quiet conversion candidates disk) :
    Follows (disk.spelled (Bytes.ofText conversion.outputDirectory)) disk
      (afterTurns conversion disk candidates) :=
  afterTurns_follows quiet.writes quiet.flat (.refl quiet.noFaults quiet.linkFree)

theorem among {some : List Candidate} (quiet : Quiet conversion candidates disk) (subset : some ⊆ candidates) :
    Quiet conversion some disk :=
  { quiet with flat := fun _ member => quiet.flat _ (subset member) }

theorem later {output : Location} {after : Disk} (quiet : Quiet conversion candidates disk)
    (follows : Follows output disk after) : Quiet conversion candidates after :=
  { quiet with noFaults := follows.faults, linkFree := follows.linkFree }

variable {turn : Turn}

theorem turn_flat (quiet : Quiet conversion candidates disk)
    (member : turn ∈ turnsOn conversion disk candidates) :
    turn.candidate.Flat :=
  quiet.flat _ (candidate_mem member)

theorem turn_follows (quiet : Quiet conversion candidates disk)
    (member : turn ∈ turnsOn conversion disk candidates) :
    Follows (disk.spelled (Bytes.ofText conversion.outputDirectory)) disk turn.before := by
  obtain ⟨earlier, later, rfl, taken⟩ := mem_turnsOn member
  rw [taken]
  exact (quiet.among (List.subset_append_left _ _)).follows

theorem get?_of_others (quiet : Quiet conversion candidates disk) (flat : candidate.Flat)
    (others : ∀ other ∈ candidates, other.outputName ≠ candidate.outputName) {place : Location}
    (named : disk.place? (Bytes.ofText (conversion.outputPath candidate)) = some place) :
    (afterTurns conversion disk candidates).files.get? place = disk.files.get? place := by
  refine get?_afterTurns_of_forall_ne quiet.writes quiet.linkFree fun turn member change changes same => ?_
  have follows := quiet.turn_follows member
  -- The directory of the place is the same for both, so the names would have to be.
  have there := place_eq_of_flat follows.linkFree (quiet.turn_flat member) (turn.place?_of_change? changes)
  rw [same, place_eq_of_flat quiet.linkFree flat named, Disk.spelled_congr follows.workingDirectory,
    List.cons.injEq, EntryName.plain.injEq] at there
  exact others _ (candidate_mem member) (Bytes.ofText_injective there.1).symm

/-- At the place of its output a turn finds what stood there at first, and what it leaves there stays. -/
theorem turn_settles (quiet : Quiet conversion candidates disk)
    (distinct : (candidates.map Candidate.outputName).Nodup)
    (member : turn ∈ turnsOn conversion disk candidates) {place : Location}
    (named : disk.place? (Bytes.ofText (conversion.outputPath turn.candidate)) = some place) :
    turn.before.files.get? place = disk.files.get? place ∧
      (afterTurns conversion disk candidates).files.get? place = turn.after.files.get? place := by
  have flat := quiet.turn_flat member
  have follows := quiet.turn_follows member
  have taken := eq_takeTurn member
  have onward := takeTurn_follows quiet.writes flat follows
  rw [← taken] at onward
  obtain ⟨earlier, later, rfl, begun⟩ := mem_turnsOn member
  have before : turn.before = afterTurns conversion disk earlier := congrArg Turn.before begun
  rw [List.map_append, List.map_cons, List.nodup_append, List.nodup_cons] at distinct
  -- Neither a candidate before nor one after this one shares its output's name.
  obtain ⟨-, ⟨notLater, -⟩, notEarlier⟩ := distinct
  constructor
  · rw [before]
    have quiet' := quiet.among (List.subset_append_left earlier _)
    refine quiet'.get?_of_others flat (fun other member same => ?_) named
    exact notEarlier _ (List.mem_map_of_mem member) _ List.mem_cons_self same
  · rw [afterTurns_append, afterTurns, List.foldl_cons, ← afterTurns, ← before, ← taken]
    have quiet' := (quiet.later onward).among fun other (member : other ∈ later) =>
      List.mem_append_right earlier (List.mem_cons_of_mem turn.candidate member)
    refine quiet'.get?_of_others flat (fun other member same => ?_)
      ((onward.place?_output_iff quiet.linkFree flat).2 named)
    exact notLater (same ▸ List.mem_map_of_mem member)

theorem get?_cases (quiet : Quiet conversion candidates disk) (location : Location) :
    (afterTurns conversion disk candidates).files.get? location = disk.files.get? location ∨
      ∃ turn ∈ turnsOn conversion disk candidates,
        disk.place? (Bytes.ofText (conversion.outputPath turn.candidate)) = some location := by
  refine or_iff_not_imp_right.2 fun none_ => get?_afterTurns_of_forall_ne quiet.writes quiet.linkFree ?_
  intro turn member change changes same
  refine none_ ⟨turn, member, ?_⟩
  rw [← (quiet.turn_follows member).place?_output_iff quiet.linkFree (quiet.turn_flat member), ← same]
  exact turn.place?_of_change? changes

end Quiet

/-! ## What is selected -/

theorem select_flat {source suffix : String} {markers : Markers} {final : World}
    (legalNames : disk.files.LegalNames) (noSlash : '/' ∉ suffix.toList)
    (selected : (Selection.select source markers suffix).perform { disk } = (.ok candidates, final)) :
    ∀ candidate ∈ candidates, candidate.Flat := by
  intro candidate chosen
  obtain ⟨directory, content, -, stands, made, -⟩ := Selection.mem_select selected chosen
  obtain ⟨named, noSlash', -, -⟩ := legalNames _ _ stands
  rw [made]
  refine Candidate.flat_ofName (fun empty => named ?_) (mt Bytes.slash_mem_ofText.2 noSlash') noSlash
  rw [empty]
  rfl

theorem select_distinct {source suffix : String} {markers : Markers} {final : World}
    (selected : (Selection.select source markers suffix).perform { disk } = (.ok candidates, final)) :
    (candidates.map Candidate.outputName).Nodup :=
  Selection.nodup_map_of_select (fun _ _ => Candidate.eq_of_outputName_eq) selected

end Retag.Batch
