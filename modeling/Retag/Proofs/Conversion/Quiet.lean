import Retag.Proofs.Candidate.Names
import Retag.Proofs.Conversion.Effect
import Retag.Proofs.FileSystem.LinkFree

/-! Conversions on a disk without faults. A step that finds what it needs goes on to the next one, and once
both temporary entries are made nothing fails any more. The second one's path may be too long where the
output's own is not, for its name is longer than the output's may be.
-/

set_option autoImplicit false

namespace Retag

open Function (update)

theorem Disk.rename_quiet {disk : Disk} {path : Bytes} {source place : Location} {entry : Entry}
    (noFaults : disk.faults = []) (named : disk.place? path = some place)
    (noSlash : (Path.route path).trailing = false) (found : disk.files.get? source = some entry)
    (free : disk.files.get? place ≠ some .directory) :
    ∃ after, rename source path disk = (.ok (), after) := by
  obtain ⟨route, parsed, reached, located, isPlace⟩ := place?_eq_some_iff.1 named
  obtain rfl := route_of_parsePath parsed
  simp only [rename, call_quiet noFaults, parsed, located, isPlace, found, noSlash, free, bind, Except.bind]
  exact ⟨_, rfl⟩

namespace Conversion

variable {conversion : Conversion} {candidate : Candidate} {world final : World}

abbrev copyCall (conversion : Conversion) (candidate : Candidate) : Call Location :=
  Disk.createTemporary (Bytes.ofText conversion.outputDirectory) (Bytes.ofText candidate.tempStem)
    (Bytes.ofText candidate.extension)

def stagingBase (conversion : Conversion) : Bytes :=
  Disk.temporaryBase (Bytes.ofText conversion.outputDirectory) (Bytes.ofText ".doxytag-")

def Overlong (conversion : Conversion) (disk : Disk) : Prop :=
  pathLimit ≤ disk.leadLength (conversion.stagingBase ++ Bytes.ofText ".doxytag-") +
    (conversion.stagingBase ++ Bytes.ofText ".doxytag-").length + 6

theorem overlong_congr {first second : Disk} (same : second.workingDirectory = first.workingDirectory) :
    conversion.Overlong second ↔ conversion.Overlong first := by
  rw [Overlong, Overlong, Disk.leadLength, Disk.leadLength, same]

theorem stage_quiet {copy place : Location} {content : Bytes} (noFaults : world.disk.faults = [])
    (stands : world.disk.files.get? copy = some (.file content))
    (creates : ∃ staging after, Disk.createTemporary (Bytes.ofText conversion.outputDirectory)
      (Bytes.ofText ".doxytag-") [] world.disk = (.ok staging, after))
    (named : world.disk.place? (Bytes.ofText (conversion.outputPath candidate)) = some place)
    (noSlash : (Path.route (Bytes.ofText (conversion.outputPath candidate))).trailing = false)
    (free : world.disk.files.get? place ≠ some .directory) :
    ∃ tally final, (conversion.stage candidate copy).perform world = (.ok tally, final) := by
  obtain ⟨staging, opened, created⟩ := creates
  obtain ⟨⟨serial, parent, rfl⟩, absent, -, -, made⟩ := Disk.createTemporary_ok created
  obtain ⟨middle, begun, made⟩ : ∃ middle,
      (conversion.createStaging candidate).perform world = (.ok (.temporary serial :: parent), middle) ∧
      world.disk.Becomes (update world.disk.files.get? (.temporary serial :: parent) (some (.file [])))
        middle.disk :=
    ⟨{ world with disk := opened }, by rw [createStaging, Action.perform_attempt, created]; rfl, made⟩
  have apart : copy ≠ .temporary serial :: parent := by
    rintro rfl
    simp [absent] at stands
  have stands : middle.disk.files.get? copy = some (.file content) := by
    rw [made.files, Function.update_of_ne apart, stands]
  have emptied : middle.disk.files.get? =
      showing world.disk.files.get? (some (.temporary serial :: parent)) [] := made.files
  obtain ⟨tally, transformed, performed⟩ :=
    transform_quiet conversion candidate (made.quiet noFaults) emptied stands
  obtain ⟨text, becomes, -⟩ := transform_becomes emptied performed
  have written : world.disk.Becomes
      (update world.disk.files.get? (.temporary serial :: parent) (some (.file text))) transformed.disk :=
    made.trans becomes
  have noFaults := written.quiet noFaults
  obtain ⟨name, directory, rfl, -⟩ := Disk.exists_of_place? named
  have found : transformed.disk.files.get? (.temporary serial :: parent) = some (.file text) := by
    rw [written.files, Function.update_self]
  rw [← Disk.place?_congr (.of_update (by simp [absent]) written.files) written.workingDirectory] at named
  have free : transformed.disk.files.get? (.plain name :: directory) ≠ some .directory := by
    rwa [written.files, Function.update_of_ne (by simp)]
  obtain ⟨moved, renamed⟩ := Disk.rename_quiet noFaults named noSlash found free
  rw [stage, Action.perform_withTemporary_of_ok begun]
  refine ⟨tally, _, Prod.ext ?_ rfl⟩
  have moving : (Action.attempt (.unwritable (conversion.outputPath candidate))
      (Disk.rename (.temporary serial :: parent) (Bytes.ofText (conversion.outputPath candidate)))).perform
      transformed = (.ok (), { transformed with disk := moved }) := by
    rw [Action.perform_attempt, renamed]
    rfl
  rw [Action.perform_bind_of_ok performed, Action.perform_bind_of_ok (proceed_quiet noFaults _),
    Action.perform_bind_of_ok moving]
  rfl

/-! ## Up to the second temporary entry -/

theorem copyContent_quiet {source copy : Location} {content : Bytes} (noFaults : world.disk.faults = [])
    (read : world.disk.files.get? source = some (.file content))
    (made : world.disk.files.get? copy = some (.file [])) :
    ∃ final, (conversion.copyContent candidate source copy).perform world = (.ok (), final) := by
  rw [copyContent, Action.perform_bind_of_ok (read_quiet noFaults read _)]
  have called : Disk.append copy content world.disk =
      (.ok (), { world.disk with files := world.disk.files.put copy (.file content) }) := by
    rw [Disk.append, Disk.call_quiet noFaults, made]
    rfl
  exact ⟨_, Action.perform_attempt_of_ok called _⟩

theorem removePrevious_quiet {place : Location} (noFaults : world.disk.faults = [])
    (named : world.disk.place? (Bytes.ofText (conversion.outputPath candidate)) = some place)
    (noSlash : (Path.route (Bytes.ofText (conversion.outputPath candidate))).trailing = false)
    (free : world.disk.files.get? place ≠ some .directory) :
    ∃ final, (conversion.removePrevious candidate).perform world = (.ok (), final) ∧
      world.disk.Becomes (update world.disk.files.get? place none) final.disk := by
  obtain ⟨route, parsed, reached, located, isPlace⟩ := Disk.place?_eq_some_iff.1 named
  obtain rfl := Disk.route_of_parsePath parsed
  have below := FileSystem.ne_nil_of_get?_ne free
  cases stands : world.disk.files.get? place with
  | none =>
    have same : update world.disk.files.get? place none = world.disk.files.get? := by
      rw [← stands, Function.update_eq_self]
    have refused : Disk.remove (Bytes.ofText (conversion.outputPath candidate)) world.disk =
        (.error .notFound, world.disk) := by
      simp only [Disk.remove, Disk.call_quiet noFaults, parsed, located, isPlace, stands, bind, Except.bind]
      rfl
    refine ⟨world, ?_, (Disk.Becomes.refl _).congr same.symm⟩
    rw [removePrevious, Action.perform_ofOutcome, refused]
  | some entry =>
    have removed : ∃ after, Disk.remove (Bytes.ofText (conversion.outputPath candidate)) world.disk =
        (.ok (), after) := by
      cases entry with
      | directory => exact absurd stands free
      | file content =>
        simp only [Disk.remove, Disk.call_quiet noFaults, parsed, located, isPlace, stands, noSlash, bind,
          Except.bind]
        exact ⟨_, rfl⟩
      | link target =>
        simp only [Disk.remove, Disk.call_quiet noFaults, parsed, located, isPlace, stands, noSlash, bind,
          Except.bind]
        exact ⟨_, rfl⟩
    obtain ⟨after, removed⟩ := removed
    obtain ⟨place', entry', named', -, -, becomes⟩ := Disk.remove_ok removed
    cases named.symm.trans named'
    have told : (conversion.removePrevious candidate).perform world = (.ok (),
        { disk := after, log := world.log ++ [⟨.conversion, .debug, "removed previous output",
          [("path", conversion.outputPath candidate)]⟩] }) := by
      rw [removePrevious, Action.perform_ofOutcome, removed]
      rfl
    exact ⟨_, told, becomes⟩

/-- Once the temporary copy can be made it holds the source, and it is left to the rest what comes of the
conversion. -/
theorem write_copies {source copy : Location} {made : Disk} {content : Bytes}
    (noFaults : world.disk.faults = []) (read : world.disk.files.get? source = some (.file content))
    (creates : conversion.copyCall candidate world.disk = (.ok copy, made)) :
    ∃ copied, world.disk.Becomes (update world.disk.files.get? copy (some (.file content))) copied.disk ∧
      ∀ outcome later,
        (conversion.removePrevious candidate >>= fun _ => conversion.stage candidate copy).perform copied =
          (outcome, later) →
        (conversion.write candidate source).perform world =
          (outcome, { later with disk := later.disk.discard (conversion.copyWay candidate) copy }) := by
  obtain ⟨⟨serial, parent, rfl⟩, absent, -, -, becomes⟩ := Disk.createTemporary_ok creates
  have created : (conversion.createCopy candidate).perform world =
      (.ok (.temporary serial :: parent), { world with disk := made }) := Action.perform_attempt_of_ok creates _
  have noFaults' : made.faults = [] := becomes.quiet noFaults
  have read' : made.files.get? source = some (.file content) := by
    rw [becomes.files, Function.update_of_ne (by rintro rfl; simp [absent] at read), read]
  have empty : made.files.get? (.temporary serial :: parent) = some (.file []) := by
    rw [becomes.files, Function.update_self]
  obtain ⟨copied, performed⟩ : ∃ copied,
      (conversion.copyContent candidate source (.temporary serial :: parent)).perform
        { world with disk := made } = (.ok (), copied) := copyContent_quiet noFaults' read' empty
  obtain ⟨content', onward, same⟩ := copyContent_becomes becomes.files performed
  cases (same rfl).symm.trans read'
  have copies : world.disk.Becomes
      (update world.disk.files.get? (.temporary serial :: parent) (some (.file content))) copied.disk :=
    becomes.trans onward
  refine ⟨copied, copies, fun outcome later rest => ?_⟩
  rw [write, Action.perform_withTemporary_of_ok created, Action.perform_bind_of_ok performed,
    Action.perform_bind_of_ok (proceed_quiet (copies.quiet noFaults) _), rest]

theorem write_reaches {source copy place : Location} {made : Disk} {content : Bytes}
    (flat : candidate.Flat) (noFaults : world.disk.faults = [])
    (read : world.disk.files.get? source = some (.file content))
    (creates : conversion.copyCall candidate world.disk = (.ok copy, made))
    (named : world.disk.place? (Bytes.ofText (conversion.outputPath candidate)) = some place)
    (free : world.disk.files.get? place ≠ some .directory) :
    ∃ cleared, world.disk.Becomes
        (update (update world.disk.files.get? place none) copy (some (.file content))) cleared.disk ∧
      ∀ outcome later, (conversion.stage candidate copy).perform cleared = (outcome, later) →
        (conversion.write candidate source).perform world =
          (outcome, { later with disk := later.disk.discard (conversion.copyWay candidate) copy }) := by
  obtain ⟨copied, copies, onward⟩ := write_copies noFaults read creates
  obtain ⟨⟨serial, parent, rfl⟩, absent, -⟩ := Disk.createTemporary_ok creates
  rw [← Disk.place?_congr (.of_update (by simp [absent]) copies.files) copies.workingDirectory] at named
  obtain ⟨name, directory, rfl, -⟩ := Disk.exists_of_place? named
  have free' : copied.disk.files.get? (.plain name :: directory) ≠ some .directory := by
    rwa [copies.files, Function.update_of_ne (by simp)]
  have noSlash : (Path.route (Bytes.ofText (conversion.outputPath candidate))).trailing = false := by
    rw [outputPath, Path.route_join conversion.outputDirectory flat.output flat.named]
  obtain ⟨cleared, removed, clears⟩ := removePrevious_quiet (copies.quiet noFaults) named noSlash free'
  rw [copies.files, Function.update_comm (by simp)] at clears
  refine ⟨cleared, copies.trans clears, fun outcome later staged => onward outcome later ?_⟩
  rw [Action.perform_bind_of_ok removed, staged]

theorem openSource_quiet {source : Location} {content : Bytes} (noFaults : world.disk.faults = [])
    (resolved : world.disk.resolve (Bytes.ofText (conversion.sourcePath candidate)) = .ok source)
    (read : world.disk.files.get? source = some (.file content)) :
    (Action.attempt (.unreadable (conversion.sourcePath candidate))
      (Disk.openEntry (Bytes.ofText (conversion.sourcePath candidate)))).perform world =
        (.ok source, world) := by
  refine Action.perform_attempt_of_ok ?_ _
  rw [Disk.openEntry, Disk.call_quiet noFaults]
  simp [resolved, read, bind, Except.bind, pure, Except.pure]

end Conversion

end Retag
