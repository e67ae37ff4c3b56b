import Retag.Proofs.Conversion.Quiet
import Retag.Proofs.FileSystem.Reached

/-! What comes of a conversion, told from the disk that it begins on. Without faults and links there are
three calls that may be refused, and on the disk at the beginning each meets what it will meet in its
turn: the temporary copy, the removal of a previous output, the second temporary entry.
-/

set_option autoImplicit false

namespace Retag

open Function (update)

/-- How far a conversion gets. -/
inductive Verdict where
  | refused (failure : Failure)
  | stripped (failure : Failure)
  | converted
  deriving DecidableEq, Repr

namespace Conversion

instance (conversion : Conversion) (disk : Disk) : Decidable (conversion.Overlong disk) :=
  inferInstanceAs (Decidable (_ ≤ _))

def verdict (conversion : Conversion) (candidate : Candidate) (disk : Disk) : Verdict :=
  match disk.refusal? (conversion.copyCall candidate) with
  | some error => .refused (.unwritable (Path.join conversion.outputDirectory candidate.tempName) error)
  | none =>
      match disk.obstruction? (Bytes.ofText (conversion.outputPath candidate)) with
      | some error => .refused (.unwritable (conversion.outputPath candidate) error)
      | none =>
          if conversion.Overlong disk then
            .stripped (.unwritable (conversion.outputPath candidate) .nameTooLong)
          else .converted

def outcome (conversion : Conversion) (candidate : Candidate) (content : Bytes) :
    Verdict → Except Failure Converted
  | .refused failure => .error failure
  | .stripped failure => .error failure
  | .converted =>
      .ok ⟨candidate.name, conversion.outputPath candidate,
        (Document.retag conversion.table conversion.lineEnding content).2.lines,
        (Document.retag conversion.table conversion.lineEnding content).2.changedLines⟩

def leaves (conversion : Conversion) (content : Bytes) (previous : Option Entry) : Verdict → Option Entry
  | .refused _ => previous
  | .stripped _ => none
  | .converted => some (.file (Document.retag conversion.table conversion.lineEnding content).1)

theorem leaves_leaves (conversion : Conversion) (content : Bytes) (previous : Option Entry)
    (verdict : Verdict) :
    conversion.leaves content (conversion.leaves content previous verdict) verdict =
      conversion.leaves content previous verdict := by
  cases verdict <;> rfl

variable {conversion : Conversion} {candidate : Candidate} {world later : World} {source copy : Location}
  {content : Bytes}

theorem reaches_of_copying {disk : Disk} (flat : candidate.Flat) (noFaults : disk.faults = [])
    (linkFree : disk.files.LinkFree) (copying : disk.refusal? (conversion.copyCall candidate) = none) :
    disk.Reaches (Bytes.ofText conversion.outputDirectory) :=
  Disk.reaches_of_createTemporary linkFree noFaults (mt Bytes.slash_mem_ofText.1 flat.copy) copying

/-- What decides the verdict, in the order in which it is found out. -/
theorem verdict_cases {disk : Disk} (flat : candidate.Flat) (noFaults : disk.faults = [])
    (linkFree : disk.files.LinkFree) :
    (∃ error, disk.refusal? (conversion.copyCall candidate) = some error ∧ conversion.verdict candidate disk =
        .refused (.unwritable (Path.join conversion.outputDirectory candidate.tempName) error)) ∨
      disk.refusal? (conversion.copyCall candidate) = none ∧
        ((∃ error, disk.obstruction? (Bytes.ofText (conversion.outputPath candidate)) = some error ∧
            conversion.verdict candidate disk = .refused (.unwritable (conversion.outputPath candidate) error)) ∨
          ∃ place, disk.place? (Bytes.ofText (conversion.outputPath candidate)) = some place ∧
            disk.files.get? place ≠ some .directory ∧
            (if conversion.Overlong disk then
              .stripped (.unwritable (conversion.outputPath candidate) .nameTooLong) else .converted) =
              conversion.verdict candidate disk) := by
  cases copying : disk.refusal? (conversion.copyCall candidate) with
  | some error => exact .inl ⟨error, rfl, by rw [verdict, copying]⟩
  | none =>
    refine .inr ⟨rfl, ?_⟩
    cases clearing : disk.obstruction? (Bytes.ofText (conversion.outputPath candidate)) with
    | some error => exact .inl ⟨error, rfl, by simp only [verdict, copying, clearing]⟩
    | none =>
      have reaches := reaches_of_copying flat noFaults linkFree copying
      obtain ⟨place, named, free⟩ :=
        Disk.place?_of_obstruction? noFaults linkFree reaches flat.output flat.named clearing
      exact .inr ⟨place, named, free, by simp only [verdict, copying, clearing]⟩

theorem refused_or_place {disk : Disk} (flat : candidate.Flat) (noFaults : disk.faults = [])
    (linkFree : disk.files.LinkFree) :
    (∃ failure, conversion.verdict candidate disk = .refused failure) ∨
      ∃ place, disk.place? (Bytes.ofText (conversion.outputPath candidate)) = some place ∧
        disk.files.get? place ≠ some .directory ∧
        (if conversion.Overlong disk then
          .stripped (.unwritable (conversion.outputPath candidate) .nameTooLong) else .converted) =
          conversion.verdict candidate disk := by
  rcases verdict_cases flat noFaults linkFree with ⟨_, -, refused⟩ | ⟨-, ⟨_, -, refused⟩ | placed⟩
  · exact .inl ⟨_, refused⟩
  · exact .inl ⟨_, refused⟩
  · exact .inr placed

theorem run_of_write {result : Except Failure Document.Tally} (writes : conversion.dryRun = false)
    (noFaults : world.disk.faults = [])
    (resolved : world.disk.resolve (Bytes.ofText (conversion.sourcePath candidate)) = .ok source)
    (read : world.disk.files.get? source = some (.file content))
    (written : (conversion.write candidate source).perform world = (result, later)) :
    ∃ final, (conversion.run candidate).perform world =
        (result.map fun tally =>
          ⟨candidate.name, conversion.outputPath candidate, tally.lines, tally.changedLines⟩, final) ∧
      final.disk = later.disk := by
  have converted : (conversion.convert candidate source).perform world = (result, later) := by
    rw [convert, writes, if_neg Bool.false_ne_true, written]
  rw [run, Action.perform_bind_of_ok (openSource_quiet noFaults resolved read)]
  cases result with
  | error failure => exact ⟨later, Action.perform_bind_of_error converted, rfl⟩
  | ok tally =>
    obtain ⟨log, described⟩ := perform_describe conversion candidate tally later
    refine ⟨{ later with log }, ?_, rfl⟩
    rw [Action.perform_bind_of_ok converted, Action.perform_bind_of_ok described]
    rfl

theorem run_uncopied (world : World) {error : IoError} (writes : conversion.dryRun = false)
    (noFaults : world.disk.faults = [])
    (found : world.disk.content? (Bytes.ofText (conversion.sourcePath candidate)) = some content)
    (refused : world.disk.refusal? (conversion.copyCall candidate) = some error) :
    (conversion.run candidate).perform world =
      (.error (.unwritable (Path.join conversion.outputDirectory candidate.tempName) error), world) := by
  obtain ⟨source, resolved, read⟩ := Disk.content?_eq_some_iff.1 found
  have created : (conversion.createCopy candidate).perform world =
      (.error (.unwritable (Path.join conversion.outputDirectory candidate.tempName) error), world) :=
    Action.perform_attempt_of_error (Disk.call_of_refusal? noFaults refused) _
  rw [run, Action.perform_bind_of_ok (openSource_quiet noFaults resolved read), convert, writes,
    if_neg Bool.false_ne_true, write]
  exact Action.perform_bind_of_error (Action.perform_bind_of_error created)

theorem removePrevious_obstructed {error : IoError} (noFaults : world.disk.faults = [])
    (obstructed : world.disk.obstruction? (Bytes.ofText (conversion.outputPath candidate)) = some error) :
    (conversion.removePrevious candidate).perform world =
      (.error (.unwritable (conversion.outputPath candidate) error), world) := by
  rw [Disk.obstruction?, Option.filter_eq_some_iff] at obstructed
  obtain ⟨refused, other⟩ := obstructed
  have other : error ≠ .notFound := by simpa using other
  have removed : Disk.remove (Bytes.ofText (conversion.outputPath candidate)) world.disk =
      (.error error, world.disk) :=
    Disk.call_of_refusal? noFaults refused
  rw [removePrevious, Action.perform_ofOutcome, removed]
  cases error <;> first | rfl | contradiction

theorem write_obstructed {made : Disk} {error : IoError} (flat : candidate.Flat)
    (noFaults : world.disk.faults = []) (linkFree : world.disk.files.LinkFree)
    (reaches : world.disk.Reaches (Bytes.ofText conversion.outputDirectory))
    (read : world.disk.files.get? source = some (.file content))
    (creates : conversion.copyCall candidate world.disk = (.ok copy, made))
    (obstructed : world.disk.obstruction? (Bytes.ofText (conversion.outputPath candidate)) = some error) :
    ∃ later, (conversion.write candidate source).perform world =
        (.error (.unwritable (conversion.outputPath candidate) error), later) ∧
      world.disk.Becomes world.disk.files.get? later.disk := by
  obtain ⟨copied, copies, onward⟩ := write_copies noFaults read creates
  obtain ⟨⟨serial, parent, rfl⟩, absent, finds, -⟩ := Disk.createTemporary_ok creates
  have agree := FileSystem.AgreeOnPaths.of_update (by simp [absent]) copies.files
  have linkFree' : copied.disk.files.LinkFree := by
    rw [FileSystem.LinkFree, copies.files]
    exact FileSystem.update_ne_link linkFree (by simp)
  -- The copy does not stand in the way, so the path is obstructed behind it as it was before.
  have same := Disk.obstruction?_congr noFaults (copies.quiet noFaults) linkFree linkFree'
    copies.workingDirectory agree.directory reaches flat.output flat.named
  have removed : (conversion.removePrevious candidate).perform copied =
      (.error (.unwritable (conversion.outputPath candidate) error), copied) :=
    removePrevious_obstructed (copies.quiet noFaults) (same.trans obstructed)
  exact ⟨_, onward _ _ (Action.perform_bind_of_error removed),
    discard_becomes absent finds copies⟩

theorem temporaryBase_eq_stagingBase {stem : Bytes} (flat : 47 ∉ stem) :
    Disk.temporaryBase (Bytes.ofText conversion.outputDirectory) stem = conversion.stagingBase :=
  Disk.temporaryBase_congr _ flat (by decide)

theorem notMem_stagingBase (noFaults : world.disk.faults = []) (flat : candidate.Flat)
    (creates : world.disk.refusal? (conversion.copyCall candidate) = none) :
    0 ∉ conversion.stagingBase := by
  have flat' : 47 ∉ Bytes.ofText candidate.tempStem := mt Bytes.slash_mem_ofText.1 flat.copy
  intro zero
  rw [Disk.refusal?_createTemporary noFaults flat', temporaryBase_eq_stagingBase flat', if_pos] at creates
  · cases creates
  · rw [List.contains_iff_mem]
    exact List.mem_append_left _ (List.mem_append_left _ zero)

theorem refusal?_createStaging (noFaults : world.disk.faults = []) (linkFree : world.disk.files.LinkFree)
    (clear : 0 ∉ conversion.stagingBase)
    (reaches : world.disk.Reaches (Bytes.ofText conversion.outputDirectory)) :
    world.disk.refusal? (Disk.createTemporary (Bytes.ofText conversion.outputDirectory)
      (Bytes.ofText ".doxytag-") []) = if conversion.Overlong world.disk then some .nameTooLong else none := by
  have noZero : (conversion.stagingBase ++ Bytes.ofText ".doxytag-").contains 0 = false := by
    rw [← Bool.not_eq_true, List.contains_iff_mem, List.mem_append, not_or]
    exact ⟨clear, by decide⟩
  have entered : world.disk.enter (Bytes.ofText conversion.outputDirectory) (Bytes.ofText ".doxytag-") =
      .ok (world.disk.spelled (Bytes.ofText conversion.outputDirectory)) :=
    (Disk.enter_eq_ok_iff linkFree (by decide)).2 ⟨reaches, rfl⟩
  rw [Disk.refusal?_createTemporary noFaults (by decide), ← stagingBase, List.append_nil, noZero,
    if_neg Bool.false_ne_true, entered]
  rfl

theorem cleared_keeps {disk cleared : Disk} {place : Location} (linkFree : disk.files.LinkFree)
    (absent : disk.files.get? copy = none) (free : disk.files.get? place ≠ some .directory)
    (clears : disk.Becomes (update (update disk.files.get? place none) copy (some (.file content))) cleared) :
    cleared.files.LinkFree ∧ ∀ location, disk.files.get? location = some .directory →
      cleared.files.get? location = some .directory := by
  constructor
  · rw [FileSystem.LinkFree, clears.files]
    exact FileSystem.update_ne_link (FileSystem.update_ne_link linkFree (by simp)) (by simp)
  · intro location stands
    rw [clears.files, Function.update_of_ne (by rintro rfl; simp [absent] at stands),
      Function.update_of_ne (by rintro rfl; exact free stands), stands]

/-- What comes of writing once nothing obstructs the output's path: only the second temporary entry may
still have too long a path. -/
theorem write_clear {made : Disk} {place : Location} (flat : candidate.Flat)
    (noFaults : world.disk.faults = []) (linkFree : world.disk.files.LinkFree)
    (reaches : world.disk.Reaches (Bytes.ofText conversion.outputDirectory))
    (clear : 0 ∉ conversion.stagingBase) (read : world.disk.files.get? source = some (.file content))
    (creates : conversion.copyCall candidate world.disk = (.ok copy, made))
    (named : world.disk.place? (Bytes.ofText (conversion.outputPath candidate)) = some place)
    (free : world.disk.files.get? place ≠ some .directory) :
    if conversion.Overlong world.disk then
      ∃ later, (conversion.write candidate source).perform world =
          (.error (.unwritable (conversion.outputPath candidate) .nameTooLong), later) ∧
        world.disk.Becomes (update world.disk.files.get? place none) later.disk
    else ∃ tally later, (conversion.write candidate source).perform world = (.ok tally, later) := by
  obtain ⟨cleared, clears, onward⟩ := write_reaches flat noFaults read creates named free
  obtain ⟨⟨serial, parent, rfl⟩, absent, finds, stood, -⟩ := Disk.createTemporary_ok creates
  obtain ⟨linkFree', directories⟩ := cleared_keeps linkFree absent free clears
  have noFaults' := clears.quiet noFaults
  have reaches' := reaches.transfer clears.workingDirectory directories
  have staging := refusal?_createStaging noFaults' linkFree' clear reaches'
  have overlong : conversion.Overlong cleared.disk ↔ conversion.Overlong world.disk :=
    overlong_congr clears.workingDirectory
  obtain ⟨name, directory, rfl, -⟩ := Disk.exists_of_place? named
  split
  · next long =>
    rw [if_pos (overlong.2 long)] at staging
    have staged : (conversion.stage candidate (.temporary serial :: parent)).perform cleared =
        (.error (.unwritable (conversion.outputPath candidate) .nameTooLong), cleared) :=
      Action.perform_bind_of_error (Action.perform_attempt_of_error (Disk.call_of_refusal? noFaults' staging) _)
    rw [List.tail_cons] at stood
    have drops := Drops.of_discard stood finds (by rw [Function.update_of_ne (by simp), absent]) clears
    exact ⟨_, onward _ _ staged, drops.becomes_update linkFree free (by simp)⟩
  · next short =>
    rw [if_neg (mt overlong.1 short)] at staging
    have stands : cleared.disk.files.get? (.temporary serial :: parent) = some (.file content) := by
      rw [clears.files, Function.update_self]
    have creates' : ∃ staging after, Disk.createTemporary (Bytes.ofText conversion.outputDirectory)
        (Bytes.ofText ".doxytag-") [] cleared.disk = (.ok staging, after) := by
      obtain ⟨location, made⟩ := Disk.refusal?_eq_none_iff.1 staging
      exact ⟨location, _, Prod.ext made rfl⟩
    have named' := Disk.place?_join_transfer linkFree linkFree' clears.workingDirectory directories
      conversion.outputDirectory flat.output flat.named named
    have noSlash : (Path.route (Bytes.ofText (conversion.outputPath candidate))).trailing = false := by
      rw [outputPath, Path.route_join conversion.outputDirectory flat.output flat.named]
    have free' : cleared.disk.files.get? (.plain name :: directory) ≠ some .directory := by
      rw [clears.files, Function.update_of_ne (by simp), Function.update_self]
      simp
    obtain ⟨tally, reached, staged⟩ := stage_quiet noFaults' stands creates' named' noSlash free'
    exact ⟨tally, _, onward _ _ staged⟩

def settled (conversion : Conversion) (candidate : Candidate) (content : Bytes) (disk : Disk) :
    Location → Option Entry :=
  match disk.place? (Bytes.ofText (conversion.outputPath candidate)) with
  | none => disk.files.get?
  | some place => update disk.files.get? place
      (conversion.leaves content (disk.files.get? place) (conversion.verdict candidate disk))

theorem settled_of_place {disk : Disk} {place : Location}
    (named : disk.place? (Bytes.ofText (conversion.outputPath candidate)) = some place) :
    conversion.settled candidate content disk = update disk.files.get? place
      (conversion.leaves content (disk.files.get? place) (conversion.verdict candidate disk)) := by
  rw [settled, named]

theorem settled_of_refused {disk : Disk} {failure : Failure}
    (refused : conversion.verdict candidate disk = .refused failure) :
    conversion.settled candidate content disk = disk.files.get? := by
  rw [settled, refused]
  split
  · rfl
  · exact Function.update_eq_self _ _

theorem exists_of_copying (copying : world.disk.refusal? (conversion.copyCall candidate) = none) :
    ∃ copy made, conversion.copyCall candidate world.disk = (.ok copy, made) := by
  obtain ⟨copy, made⟩ := Disk.refusal?_eq_none_iff.1 copying
  exact ⟨copy, _, Prod.ext made rfl⟩

section

variable {place : Location} (writes : conversion.dryRun = false) (flat : candidate.Flat)
  (noFaults : world.disk.faults = []) (linkFree : world.disk.files.LinkFree)
  (found : world.disk.content? (Bytes.ofText (conversion.sourcePath candidate)) = some content)

include writes flat noFaults linkFree found

theorem run_obstructed {error : IoError} (copying : world.disk.refusal? (conversion.copyCall candidate) = none)
    (obstructed : world.disk.obstruction? (Bytes.ofText (conversion.outputPath candidate)) = some error) :
    ∃ final, (conversion.run candidate).perform world =
        (.error (.unwritable (conversion.outputPath candidate) error), final) ∧
      world.disk.Becomes world.disk.files.get? final.disk := by
  obtain ⟨source, resolved, read⟩ := Disk.content?_eq_some_iff.1 found
  have reaches := reaches_of_copying flat noFaults linkFree copying
  obtain ⟨copy, made, creates⟩ := exists_of_copying copying
  obtain ⟨later, written, kept⟩ := write_obstructed flat noFaults linkFree reaches read creates obstructed
  obtain ⟨final, performed, same⟩ := run_of_write writes noFaults resolved read written
  rw [← same] at kept
  exact ⟨final, performed, kept⟩

theorem run_clear {verdict : Verdict} (copying : world.disk.refusal? (conversion.copyCall candidate) = none)
    (named : world.disk.place? (Bytes.ofText (conversion.outputPath candidate)) = some place)
    (free : world.disk.files.get? place ≠ some .directory)
    (decided : (if conversion.Overlong world.disk then
      .stripped (.unwritable (conversion.outputPath candidate) .nameTooLong) else .converted) = verdict) :
    ∃ final, (conversion.run candidate).perform world = (conversion.outcome candidate content verdict, final) ∧
      world.disk.Becomes (update world.disk.files.get? place
        (conversion.leaves content (world.disk.files.get? place) verdict)) final.disk := by
  obtain ⟨source, resolved, read⟩ := Disk.content?_eq_some_iff.1 found
  have reaches := reaches_of_copying flat noFaults linkFree copying
  obtain ⟨copy, made, creates⟩ := exists_of_copying copying
  have written := write_clear flat noFaults linkFree reaches (notMem_stagingBase noFaults flat copying) read
    creates named free
  split at written
  · next long =>
    rw [if_pos long] at decided
    subst decided
    obtain ⟨later, written, stripped⟩ := written
    obtain ⟨final, performed, same⟩ := run_of_write writes noFaults resolved read written
    rw [← same] at stripped
    exact ⟨final, performed, stripped⟩
  · next short =>
    rw [if_neg short] at decided
    subst decided
    obtain ⟨tally, later, written⟩ := written
    obtain ⟨final, performed, -⟩ := run_of_write writes noFaults resolved read written
    -- What a conversion that succeeds has done is known.
    rcases run_effect writes performed with ⟨_, _, failed, _⟩ |
      ⟨source', content', place', resolved', read', named', free', same, drops⟩
    · cases failed
    cases resolved.symm.trans resolved'
    cases read.symm.trans read'
    cases named.symm.trans named'
    exact ⟨final, performed.trans (congrArg (·, final) same), drops.becomes_update linkFree free' (by simp)⟩

theorem run_overlong (copying : world.disk.refusal? (conversion.copyCall candidate) = none)
    (named : world.disk.place? (Bytes.ofText (conversion.outputPath candidate)) = some place)
    (free : world.disk.files.get? place ≠ some .directory) (overlong : conversion.Overlong world.disk) :
    ∃ failure final, (conversion.run candidate).perform world = (.error failure, final) ∧
      world.disk.Becomes (update world.disk.files.get? place none) final.disk :=
  ⟨_, run_clear writes flat noFaults linkFree found copying named free (if_pos overlong)⟩

variable (world) in
/-- Without faults and links a conversion comes to what its verdict says, which can be told from the disk
that it begins on. -/
theorem run_verdict :
    ∃ final, (conversion.run candidate).perform world =
        (conversion.outcome candidate content (conversion.verdict candidate world.disk), final) ∧
      world.disk.Becomes (conversion.settled candidate content world.disk) final.disk := by
  rcases verdict_cases flat noFaults linkFree with
    ⟨error, copying, refused⟩ | ⟨copying, ⟨error, clearing, refused⟩ | ⟨place, named, free, decided⟩⟩
  · rw [settled_of_refused refused, refused]
    exact ⟨world, run_uncopied world writes noFaults found copying, .refl _⟩
  · rw [settled_of_refused refused, refused]
    exact run_obstructed writes flat noFaults linkFree found copying clearing
  · rw [settled_of_place named]
    exact run_clear writes flat noFaults linkFree found copying named free decided

end

end Conversion

end Retag
