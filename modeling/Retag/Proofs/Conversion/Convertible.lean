import Retag.Proofs.Conversion.Atomicity
import Retag.Proofs.Conversion.Verdict

/-! Which candidates are converted. A source that can be read and an output name that its directory can take
are not enough, even if no call fails of its own accord: the temporary copy has a name of its own, eleven
bytes longer than the candidate's. Nor may the paths get too long, or the way to the output directory lead
through a link that the output replaces. Nothing else stops a conversion.
-/

set_option autoImplicit false

namespace Retag

open Function (update)

namespace Candidate

variable {name suffix : String}

abbrev outputIn (candidate : Candidate) (directory : Location) : Location :=
  .plain (Bytes.ofText candidate.outputName) :: directory

theorem notMem_copyName {byte : UInt8} (char : Char) (small : byte.toNat < 128)
    (stands : char.toNat = byte.toNat) (apart : char ∉ "_temp".toList)
    (clear : byte ∉ Bytes.ofText (ofName name suffix).outputName) :
    byte ∉ Bytes.ofText (ofName name suffix).tempStem ++ Bytes.ofText (ofName name suffix).extension := by
  rw [← Bytes.ofText_append, tempStem_append_extension, Bytes.ascii_mem_ofText small stands]
  rw [Bytes.ascii_mem_ofText small stands] at clear
  exact fun member => (mem_tempName member).elim (fun inName => clear (mem_outputName_of_mem inName)) apart

theorem length_copyName (name suffix : String) :
    (Bytes.ofText (ofName name suffix).tempStem ++ Bytes.ofText (ofName name suffix).extension).length =
      (Bytes.ofText name).length + 5 := by
  rw [← Bytes.ofText_append, tempStem_append_extension, length_tempName]

end Candidate

namespace Conversion

variable {conversion : Conversion} {candidate : Candidate} {world : World} {disk : Disk} {directory : Location}
  {content : Bytes} {name suffix : String}

/-- What a conversion may ask for: that no call fails of its own accord, a source that can be read, and a
directory that is reached, where the output's name is a legal one and no directory has it. -/
structure Provided (conversion : Conversion) (candidate : Candidate) (disk : Disk) (content : Bytes)
    (directory : Location) : Prop where
  noFaults : disk.faults = []
  found : disk.content? (Bytes.ofText (conversion.sourcePath candidate)) = some content
  enters : disk.Enters (Bytes.ofText conversion.outputDirectory) directory
  legal : FileSystem.LegalName (Bytes.ofText candidate.outputName)
  noZero : 0 ∉ Bytes.ofText candidate.outputName
  short : (Bytes.ofText candidate.outputName).length ≤ longestName
  free : disk.files.get? (candidate.outputIn directory) ≠ some .directory

structure PathsFit (conversion : Conversion) (candidate : Candidate) (disk : Disk) : Prop where
  copy : disk.temporaryLength (Bytes.ofText conversion.outputDirectory) (Bytes.ofText candidate.tempStem)
    (Bytes.ofText candidate.extension) < pathLimit
  staging : ¬ conversion.Overlong disk
  output : (Bytes.ofText (conversion.outputPath candidate)).length < pathLimit

theorem Provided.named (provided : conversion.Provided candidate disk content directory) :
    candidate.outputName ≠ "" := fun empty => provided.legal.1 (by rw [empty]; rfl)

theorem Provided.noSlash (provided : conversion.Provided candidate disk content directory) :
    '/' ∉ candidate.outputName.toList := mt Bytes.slash_mem_ofText.2 provided.legal.2.1

theorem Provided.place?_iff {place : Location} (provided : conversion.Provided candidate disk content directory) :
    disk.place? (Bytes.ofText (conversion.outputPath candidate)) = some place ↔
      (Bytes.ofText (conversion.outputPath candidate)).length < pathLimit ∧
        place = candidate.outputIn directory := by
  rw [outputPath, Disk.place?_join_iff_enters conversion.outputDirectory provided.noSlash provided.named]
  constructor
  · rintro ⟨fits, -, -, -, -, other, enters, rfl⟩
    obtain rfl := provided.enters.unique enters
    exact ⟨fits, rfl⟩
  · rintro ⟨fits, rfl⟩
    exact ⟨fits, provided.noZero, provided.legal.2.2.1, provided.legal.2.2.2, provided.short, directory,
      provided.enters, rfl⟩

section

variable (provided : conversion.Provided (Candidate.ofName name suffix) disk content directory)

include provided

theorem Provided.copyName :
    0 ∉ Bytes.ofText (Candidate.ofName name suffix).tempStem ++
        Bytes.ofText (Candidate.ofName name suffix).extension ∧
      47 ∉ Bytes.ofText (Candidate.ofName name suffix).tempStem ∧
      47 ∉ Bytes.ofText (Candidate.ofName name suffix).extension := by
  have level : 47 ∉ Bytes.ofText (Candidate.ofName name suffix).tempStem ++
      Bytes.ofText (Candidate.ofName name suffix).extension :=
    Candidate.notMem_copyName '/' (by decide) (by decide) (by decide) provided.legal.2.1
  rw [List.mem_append, not_or] at level
  exact ⟨Candidate.notMem_copyName '\x00' (by decide) (by decide) (by decide) provided.noZero, level⟩

theorem Provided.flat : (Candidate.ofName name suffix).Flat where
  named := provided.named
  output := provided.noSlash
  copy := mt Bytes.slash_mem_ofText.2 provided.copyName.2.1

/-- Six characters are put into the name `tempName`, which is five bytes longer than the candidate's. -/
theorem Provided.copying_iff : disk.refusal? (conversion.copyCall (Candidate.ofName name suffix)) = none ↔
    disk.temporaryLength (Bytes.ofText conversion.outputDirectory)
        (Bytes.ofText (Candidate.ofName name suffix).tempStem)
        (Bytes.ofText (Candidate.ofName name suffix).extension) < pathLimit ∧
      (Bytes.ofText name).length + 11 ≤ longestName := by
  obtain ⟨clear, level, level'⟩ := provided.copyName
  rw [Disk.refusal?_createTemporary_eq_none_iff provided.noFaults provided.enters.noZero clear level level',
    Candidate.length_copyName]
  exact and_iff_right ⟨directory, provided.enters⟩

end

theorem run_of_long_name (writes : conversion.dryRun = false)
    (provided : conversion.Provided (Candidate.ofName name suffix) world.disk content directory)
    (long : longestName < (Bytes.ofText name).length + 11) :
    (conversion.run (Candidate.ofName name suffix)).perform world =
      (.error (.unwritable (Path.join conversion.outputDirectory (Candidate.ofName name suffix).tempName)
        .nameTooLong), world) := by
  obtain ⟨clear, level, level'⟩ := provided.copyName
  refine run_uncopied world writes provided.noFaults provided.found ?_
  exact Disk.refusal?_createTemporary_of_long provided.noFaults provided.enters clear level level'
    (by rwa [Candidate.length_copyName])

abbrev stagingCall (conversion : Conversion) : Call Location :=
  Disk.createTemporary (Bytes.ofText conversion.outputDirectory) (Bytes.ofText ".doxytag-") []

theorem refusal?_stagingCall_eq_none_iff (noFaults : disk.faults = [])
    (noZero : 0 ∉ Bytes.ofText conversion.outputDirectory) :
    disk.refusal? conversion.stagingCall = none ↔
      (∃ directory, disk.Enters (Bytes.ofText conversion.outputDirectory) directory) ∧
        ¬ conversion.Overlong disk := by
  rw [Disk.refusal?_createTemporary_eq_none_iff noFaults noZero (by decide) (by decide) (by decide)]
  have short : (Bytes.ofText ".doxytag-" ++ []).length + 6 ≤ longestName := by decide
  have fits : disk.temporaryLength (Bytes.ofText conversion.outputDirectory) (Bytes.ofText ".doxytag-") [] <
      pathLimit ↔ ¬ conversion.Overlong disk := by
    rw [Overlong, Nat.not_le, Disk.temporaryLength, List.append_nil, stagingBase]
  rw [fits, and_iff_left short]

section

variable {cleared : Disk} {serial : Nat} {parent : Location}
  (absent : disk.files.get? (.temporary serial :: parent) = none)
  (clears : disk.Becomes (update (update disk.files.get? (candidate.outputIn directory) none)
    (.temporary serial :: parent) (some (.file content))) cleared)

include absent clears

theorem enters_cleared_iff {path : Bytes} {other : Location} :
    cleared.Enters path other ↔ (disk.without (candidate.outputIn directory)).Enters path other := by
  refine Disk.enters_congr (.of_update ?_ (clears.files.trans (by rw [Disk.get?_without])))
    clears.workingDirectory
  rw [Disk.get?_without, Function.update_of_ne (by simp), absent]
  simp

theorem Provided.staging_iff (provided : conversion.Provided candidate disk content directory) :
    cleared.refusal? conversion.stagingCall = none ↔
      (disk.without (candidate.outputIn directory)).Enters (Bytes.ofText conversion.outputDirectory) directory ∧
        ¬ conversion.Overlong disk := by
  rw [refusal?_stagingCall_eq_none_iff (clears.quiet provided.noFaults) provided.enters.noZero,
    overlong_congr clears.workingDirectory]
  refine and_congr_left fun _ => ?_
  simp only [enters_cleared_iff absent clears]
  constructor
  · rintro ⟨other, reached⟩
    obtain rfl := provided.enters.unique (reached.within (Disk.within_without _ _ _) rfl)
    exact reached
  · exact fun reached => ⟨directory, reached⟩

end

/-- Once the temporary copy can be made and the output's place is free, it is left to the second temporary
entry whether the candidate is converted. The previous output is gone by then. -/
theorem run_converts_iff_staging (flat : candidate.Flat) (writes : conversion.dryRun = false)
    (provided : conversion.Provided candidate world.disk content directory)
    (copying : world.disk.refusal? (conversion.copyCall candidate) = none)
    (named : world.disk.place? (Bytes.ofText (conversion.outputPath candidate)) =
      some (candidate.outputIn directory)) :
    (∃ file final, (conversion.run candidate).perform world = (.ok file, final)) ↔
      (world.disk.without (candidate.outputIn directory)).Enters (Bytes.ofText conversion.outputDirectory)
          directory ∧
        ¬ conversion.Overlong world.disk := by
  have noFaults := provided.noFaults
  obtain ⟨source, resolved, read⟩ := Disk.content?_eq_some_iff.1 provided.found
  obtain ⟨copy, made, creates⟩ := exists_of_copying copying
  obtain ⟨cleared, clears, onward⟩ := write_reaches flat noFaults read creates named provided.free
  obtain ⟨⟨serial, parent, rfl⟩, absent, -⟩ := Disk.createTemporary_ok creates
  have noFaults' := clears.quiet noFaults
  have staging := provided.staging_iff absent clears
  constructor
  · rintro ⟨file, final, performed⟩
    cases refused : cleared.disk.refusal? conversion.stagingCall with
    | none => exact staging.1 refused
    | some error =>
      have called := Disk.call_of_refusal? noFaults' refused
      have staged : (conversion.stage candidate (.temporary serial :: parent)).perform cleared =
          (.error (.unwritable (conversion.outputPath candidate) error), cleared) :=
        Action.perform_bind_of_error (Action.perform_attempt_of_error called _)
      obtain ⟨_, failed, -⟩ := run_of_write writes noFaults resolved read (onward _ _ staged)
      cases performed.symm.trans failed
  · intro reached
    obtain ⟨staged, creating⟩ := Disk.refusal?_eq_none_iff.1 (staging.2 reached)
    have stands : cleared.disk.files.get? (.temporary serial :: parent) = some (.file content) := by
      rw [clears.files, Function.update_self]
    have named' : cleared.disk.place? (Bytes.ofText (conversion.outputPath candidate)) =
        some (candidate.outputIn directory) :=
      Disk.place?_join_of_enters conversion.outputDirectory flat.output flat.named named
        ((enters_cleared_iff absent clears).2 reached.1)
    have noSlash : (Path.route (Bytes.ofText (conversion.outputPath candidate))).trailing = false := by
      rw [outputPath, Path.route_join conversion.outputDirectory flat.output flat.named]
    have free' : cleared.disk.files.get? (candidate.outputIn directory) ≠ some .directory := by
      rw [clears.files, Function.update_of_ne (by simp), Function.update_self]
      simp
    obtain ⟨tally, later, staged⟩ :=
      stage_quiet noFaults' stands ⟨_, _, Prod.ext creating rfl⟩ named' noSlash free'
    obtain ⟨final, performed, -⟩ := run_of_write writes noFaults resolved read (onward _ _ staged)
    exact ⟨_, final, performed⟩

/-- A candidate for which all is provided is converted if and only if its own name leaves eleven bytes, all
paths fit, and the output directory is reached without the previous output as well. -/
theorem run_converts_iff (conversion : Conversion) (name suffix : String) (world : World) (content : Bytes)
    (directory : Location) (writes : conversion.dryRun = false)
    (provided : conversion.Provided (Candidate.ofName name suffix) world.disk content directory) :
    (∃ file final, (conversion.run (Candidate.ofName name suffix)).perform world = (.ok file, final)) ↔
      (Bytes.ofText name).length + 11 ≤ longestName ∧
      conversion.PathsFit (Candidate.ofName name suffix) world.disk ∧
      (world.disk.without ((Candidate.ofName name suffix).outputIn directory)).Enters
        (Bytes.ofText conversion.outputDirectory) directory := by
  constructor
  · rintro ⟨file, final, performed⟩
    have copying : world.disk.refusal? (conversion.copyCall (Candidate.ofName name suffix)) = none := by
      cases refused : world.disk.refusal? (conversion.copyCall (Candidate.ofName name suffix)) with
      | none => rfl
      | some error =>
        cases performed.symm.trans (run_uncopied world writes provided.noFaults provided.found refused)
    obtain ⟨copyFits, short⟩ := provided.copying_iff.1 copying
    rcases run_effect writes performed with ⟨_, _, failed, -⟩ | ⟨_, _, place, -, -, named, -⟩
    · cases failed
    obtain ⟨outputFits, rfl⟩ := provided.place?_iff.1 named
    obtain ⟨still, stagingFits⟩ :=
      (run_converts_iff_staging provided.flat writes provided copying named).1 ⟨file, final, performed⟩
    exact ⟨short, ⟨copyFits, stagingFits, outputFits⟩, still⟩
  · rintro ⟨short, paths, still⟩
    exact (run_converts_iff_staging provided.flat writes provided (provided.copying_iff.2 ⟨paths.copy, short⟩)
      (provided.place?_iff.2 ⟨paths.output, rfl⟩)).2 ⟨still, paths.staging⟩

theorem run_converts_iff_linked :
    tagging.Provided (Candidate.ofName "A.cs" "_doxy") linkedOutput (Bytes.ofText "File: a\n")
        [.plain (Bytes.ofText "o")] ∧
      ∃ file final, (tagging.run (Candidate.ofName "A.cs" "_doxy")).perform { disk := linkedOutput } =
        (.ok file, final) := by
  obtain ⟨outputName, found, reached, still, short, copyFits, stagingFits, outputFits⟩ :
      (Candidate.ofName "A.cs" "_doxy").outputName = "A_doxy.cs" ∧
        linkedOutput.content? (Bytes.ofText (tagging.sourcePath (Candidate.ofName "A.cs" "_doxy"))) =
          some (Bytes.ofText "File: a\n") ∧
        linkedOutput.files.resolve [] (Path.route (Bytes.ofText "o")) = .ok [.plain (Bytes.ofText "o")] ∧
        (linkedOutput.without [.plain (Bytes.ofText "A_doxy.cs"), .plain (Bytes.ofText "o")]).files.resolve []
          (Path.route (Bytes.ofText "o")) = .ok [.plain (Bytes.ofText "o")] ∧
        (Bytes.ofText "A.cs").length + 11 ≤ longestName ∧
        linkedOutput.temporaryLength (Bytes.ofText "o")
            (Bytes.ofText (Candidate.ofName "A.cs" "_doxy").tempStem)
            (Bytes.ofText (Candidate.ofName "A.cs" "_doxy").extension) < pathLimit ∧
        ¬ tagging.Overlong linkedOutput ∧
        (Bytes.ofText (tagging.outputPath (Candidate.ofName "A.cs" "_doxy"))).length < pathLimit := by
    decide +kernel
  have provided : tagging.Provided (Candidate.ofName "A.cs" "_doxy") linkedOutput (Bytes.ofText "File: a\n")
      [.plain (Bytes.ofText "o")] :=
    ⟨rfl, found, ⟨by decide, reached, rfl⟩, by rw [outputName]; decide, by rw [outputName]; decide,
      by rw [outputName]; decide, by rw [Candidate.outputIn, outputName]; decide⟩
  refine ⟨provided, (run_converts_iff tagging "A.cs" "_doxy" { disk := linkedOutput } _ _ rfl provided).2
    ⟨short, ⟨copyFits, stagingFits, outputFits⟩, ?_⟩⟩
  rw [Candidate.outputIn, outputName]
  exact ⟨by decide, still, rfl⟩

def longChars (ending : String) : List Char := List.replicate 242 'a' ++ ending.toList

def longName : String := String.ofList (longChars ".cs")

def longSource : Disk where
  files := ((FileSystem.empty.put [.plain (Bytes.ofText "S")] .directory).put
    [.plain (Bytes.ofChars (longChars ".cs")), .plain (Bytes.ofText "S")] (.file (Bytes.ofText "File: a\n"))).put
    [.plain (Bytes.ofText "o")] .directory
  workingDirectory := []

/-- The name has 245 bytes, the output's would have 250, and the temporary copy's would have 256. -/
theorem run_refuses_long_source :
    tagging.Provided (Candidate.ofName longName "_doxy") longSource (Bytes.ofText "File: a\n")
        [.plain (Bytes.ofText "o")] ∧
      (tagging.run (Candidate.ofName longName "_doxy")).perform { disk := longSource } =
        (.error (.unwritable (Path.join "o" (Candidate.ofName longName "_doxy").tempName) .nameTooLong),
          { disk := longSource }) := by
  -- Long texts are slow to decode, so what is evaluated below is about their characters.
  have outputName : Bytes.ofText (Candidate.ofName longName "_doxy").outputName =
      Bytes.ofChars (longChars "_doxy.cs") := by
    rw [Bytes.ofText, Candidate.toList_outputName, longName, String.toList_ofList]
    decide +kernel
  have sourcePath : Bytes.ofText (tagging.sourcePath (Candidate.ofName longName "_doxy")) =
      Bytes.ofText "S/" ++ Bytes.ofChars (longChars ".cs") := by
    have noSlash : '/' ∉ longName.toList := by
      rw [longName, String.toList_ofList]
      decide +kernel
    have apart : ("S".isEmpty = false) ∧ "S".endsWith "/" = false := by decide +kernel
    have joined : Path.join "S" longName = "S/" ++ longName := by
      rw [Path.join, Path.not_startsWith_slash noSlash, apart.1, apart.2]
      rfl
    rw [← Bytes.ofText_ofList, ← Bytes.ofText_append]
    exact congrArg Bytes.ofText joined
  obtain ⟨found, reached, legal, noZero, short, free⟩ :
      longSource.content? (Bytes.ofText "S/" ++ Bytes.ofChars (longChars ".cs")) =
          some (Bytes.ofText "File: a\n") ∧
        longSource.files.resolve [] (Path.route (Bytes.ofText "o")) = .ok [.plain (Bytes.ofText "o")] ∧
        FileSystem.LegalName (Bytes.ofChars (longChars "_doxy.cs")) ∧
        0 ∉ Bytes.ofChars (longChars "_doxy.cs") ∧
        (Bytes.ofChars (longChars "_doxy.cs")).length ≤ longestName ∧
        longSource.files.get? [.plain (Bytes.ofChars (longChars "_doxy.cs")), .plain (Bytes.ofText "o")] ≠
          some .directory := by
    decide +kernel
  rw [← outputName] at legal noZero short free
  have provided : tagging.Provided (Candidate.ofName longName "_doxy") longSource (Bytes.ofText "File: a\n")
      [.plain (Bytes.ofText "o")] :=
    ⟨rfl, by rw [sourcePath, found], ⟨by decide, reached, rfl⟩, legal, noZero, short, free⟩
  refine ⟨provided, run_of_long_name rfl provided ?_⟩
  rw [longName, Bytes.ofText_ofList]
  decide +kernel

end Conversion

end Retag
