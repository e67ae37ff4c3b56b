import Retag.Proofs.Batch.Steady

/-! What a whole batch comes to when its output directory is not its source directory, and no call fails of
its own accord. Every converted file stands complete at its output's place, made from the source as it
was before the run; sources stay as they were, and so does everything else but for directories made on
the way to the output directory. A skipped file leaves a previous output alone with one exception, which
takes an output directory whose path is nearly as long as paths may be.
-/

set_option autoImplicit false

namespace Retag

/-- A directory that was made on the way of a path. -/
def Disk.Made (first final : Disk) (path : Bytes) (location : Location) : Prop :=
  first.files.get? location = none ∧ final.files.get? location = some .directory ∧
    first.OnTheWay path location

/-- A previous output that is gone because the path of the second temporary entry was too long. -/
def Conversion.Lost (conversion : Conversion) (first final : Disk) (location : Location) : Prop :=
  conversion.Overlong first ∧ final.files.get? location = none ∧
    ∃ entry, first.files.get? location = some entry ∧ entry ≠ .directory

namespace Batch

open FileSystem (Leads)

/-- What a report says about the disk behind the run, and what else is different there. -/
structure Accomplished (conversion : Conversion) (candidates : List Candidate) (source : Location)
    (report : Report) (first final : Disk) : Prop where
  processed : ∀ file ∈ report.processed, ∃ candidate ∈ candidates, ∃ content place,
    first.content? (Bytes.ofText (conversion.sourcePath candidate)) = some content ∧
    final.place? (Bytes.ofText (conversion.outputPath candidate)) = some place ∧
    final.files.get? place = some (.file (Document.retag conversion.table conversion.lineEnding content).1) ∧
    file = ⟨candidate.name, conversion.outputPath candidate,
      (Document.retag conversion.table conversion.lineEnding content).2.lines,
      (Document.retag conversion.table conversion.lineEnding content).2.changedLines⟩
  sources : ∀ name entry, first.files.get? (name :: source) = some entry →
    final.files.get? (name :: source) = some entry
  skipped : ∀ file ∈ report.skipped, ∃ candidate ∈ candidates, candidate.name = file.name ∧
    ∀ place, final.place? (Bytes.ofText (conversion.outputPath candidate)) = some place →
      final.files.get? place = first.files.get? place ∨
      first.Made final (Bytes.ofText conversion.outputDirectory) place ∨ conversion.Lost first final place
  elsewhere : ∀ location, final.files.get? location = first.files.get? location ∨
    first.Made final (Bytes.ofText conversion.outputDirectory) location ∨
    (∃ file ∈ report.processed, final.place? (Bytes.ofText file.output) = some location) ∨
    ∃ file ∈ report.skipped, ∃ candidate ∈ candidates, candidate.name = file.name ∧
      final.place? (Bytes.ofText (conversion.outputPath candidate)) = some location ∧
      conversion.Lost first final location
  temporary : ∀ serial parent, final.files.get? (.temporary serial :: parent) =
    first.files.get? (.temporary serial :: parent)

variable {conversion : Conversion} {candidates : List Candidate} {disk : Disk}

theorem ready_cases (writes : conversion.dryRun = false) (linkFree : disk.files.LinkFree) {final : Disk}
    {location : Location} (stays : final.files.get? location = (ready conversion disk).files.get? location) :
    final.files.get? location = disk.files.get? location ∨
      disk.Made final (Bytes.ofText conversion.outputDirectory) location := by
  rw [stays]
  refine ((ready_gains conversion disk).added location).imp_right fun ⟨absent, made⟩ =>
    ⟨absent, stays.trans made, ?_⟩
  refine Disk.createDirectories_onTheWay linkFree absent ?_
  obtain ⟨faults, -, same⟩ := ready_eq writes disk
  rw [same] at made
  rw [made]
  exact Option.some_ne_none _

/-- A quiet batch whose output directory, once prepared, is not the directory that its sources are in. -/
structure Apart (conversion : Conversion) (candidates : List Candidate) (source : Location)
    (disk : Disk) : Prop extends Quiet conversion candidates disk where
  distinct : (candidates.map Candidate.outputName).Nodup
  content : ∀ candidate ∈ candidates, ∃ content,
    disk.content? (Bytes.ofText (conversion.sourcePath candidate)) = some content
  location : ∀ candidate ∈ candidates,
    (disk.spelled (Bytes.ofText (conversion.sourcePath candidate))).tail = source
  elsewhere : outputLocation conversion (ready conversion disk) ≠ .ok source

namespace Apart

variable {source : Location} {turn : Turn}

theorem begins (apart : Apart conversion candidates source disk) :
    Quiet conversion candidates (ready conversion disk) :=
  have gains := ready_gains conversion disk
  { apart.toQuiet with
    noFaults := gains.quiet apart.noFaults
    linkFree := gains.linkFree apart.linkFree }

theorem place?_iff (apart : Apart conversion candidates source disk)
    (member : turn ∈ turnsOn conversion (ready conversion disk) candidates) {place : Location} :
    (afterTurns conversion (ready conversion disk) candidates).place?
        (Bytes.ofText (conversion.outputPath turn.candidate)) = some place ↔
      (ready conversion disk).place? (Bytes.ofText (conversion.outputPath turn.candidate)) = some place :=
  apart.begins.follows.place?_output_iff apart.begins.linkFree (apart.begins.turn_flat member)

theorem tail_ne (apart : Apart conversion candidates source disk)
    (member : turn ∈ turnsOn conversion (ready conversion disk) candidates) {place : Location}
    (named : (ready conversion disk).place? (Bytes.ofText (conversion.outputPath turn.candidate)) =
      some place) : place.tail ≠ source := by
  rintro rfl
  exact apart.elsewhere (outputLocation_of_place? apart.begins.linkFree (apart.begins.turn_flat member) named)

theorem steady (apart : Apart conversion candidates source disk) :
    Steady conversion candidates (ready conversion disk) where
  toQuiet := apart.begins
  distinct := apart.distinct
  content candidate chosen := by
    obtain ⟨content, found⟩ := apart.content candidate chosen
    exact ⟨content, (ready_gains conversion disk).content?_eq_some apart.linkFree found⟩
  away candidate chosen other chosen' named := by
    obtain ⟨turn, member, rfl⟩ : ∃ turn ∈ turnsOn conversion (ready conversion disk) candidates,
        turn.candidate = candidate := mem_turnsOn_of_mem chosen
    refine apart.tail_ne member named ?_
    rw [Disk.spelled_congr (ready_gains conversion disk).workingDirectory]
    exact apart.location other chosen'

theorem converted (apart : Apart conversion candidates source disk) {file : Converted}
    (member : turn ∈ turnsOn conversion (ready conversion disk) candidates)
    (converted : turn.outcome = .ok file) :
    ∃ content place, disk.content? (Bytes.ofText (conversion.sourcePath turn.candidate)) = some content ∧
      (ready conversion disk).place? (Bytes.ofText (conversion.outputPath turn.candidate)) = some place ∧
      (afterTurns conversion (ready conversion disk) candidates).files.get? place =
        some (.file (Document.retag conversion.table conversion.lineEnding content).1) ∧
      file = ⟨turn.candidate.name, conversion.outputPath turn.candidate,
        (Document.retag conversion.table conversion.lineEnding content).2.lines,
        (Document.retag conversion.table conversion.lineEnding content).2.changedLines⟩ := by
  obtain ⟨content, found⟩ := apart.content _ (candidate_mem member)
  obtain ⟨outcome, leaves⟩ := apart.steady.turn_verdict member
    ((ready_gains conversion disk).content?_eq_some apart.linkFree found)
  rw [converted] at outcome
  rcases Conversion.refused_or_place (apart.begins.turn_flat member) apart.begins.noFaults
    apart.begins.linkFree with ⟨_, refused⟩ | ⟨place, named, -, decided⟩
  · rw [refused] at outcome
    cases outcome
  · have stands := leaves place named
    rw [← decided] at outcome stands
    split at outcome
    · cases outcome
    · next short =>
      rw [if_neg short] at stands
      exact ⟨content, place, found, named, stands, Except.ok.inj outcome⟩

theorem failed (apart : Apart conversion candidates source disk) {failure : Failure}
    (member : turn ∈ turnsOn conversion (ready conversion disk) candidates)
    (failed : turn.outcome = .error failure) {place : Location}
    (named : (ready conversion disk).place? (Bytes.ofText (conversion.outputPath turn.candidate)) =
      some place) :
    (afterTurns conversion (ready conversion disk) candidates).files.get? place = disk.files.get? place ∨
      disk.Made (afterTurns conversion (ready conversion disk) candidates)
        (Bytes.ofText conversion.outputDirectory) place ∨
      conversion.Lost disk (afterTurns conversion (ready conversion disk) candidates) place := by
  have gains := ready_gains conversion disk
  obtain ⟨content, found⟩ := apart.content _ (candidate_mem member)
  obtain ⟨outcome, leaves⟩ :=
    apart.steady.turn_verdict member (gains.content?_eq_some apart.linkFree found)
  have left := leaves place named
  rw [failed] at outcome
  rcases Conversion.refused_or_place (apart.begins.turn_flat member) apart.begins.noFaults
    apart.begins.linkFree with ⟨_, refused⟩ | ⟨place', named', free, decided⟩
  · rw [refused] at left
    exact (ready_cases apart.writes apart.linkFree left).imp_right .inl
  · cases named.symm.trans named'
    rw [← decided] at outcome left
    split at outcome
    · next overlong =>
      rw [if_pos overlong] at left
      have gone : (afterTurns conversion (ready conversion disk) candidates).files.get? place = none := left
      -- What is gone stood there before the run, unless nothing stood there at all.
      rcases gains.added place with same | ⟨-, made⟩
      · cases stood : disk.files.get? place with
        | none => exact .inl gone
        | some entry =>
          rw [same, stood] at free
          exact .inr (.inr ⟨(Conversion.overlong_congr gains.workingDirectory).1 overlong, gone, entry, stood,
            fun isDirectory => free (congrArg some isDirectory)⟩)
      · exact absurd made free
    · cases outcome

theorem accomplished (apart : Apart conversion candidates source disk) {report : Report}
    (processed : report.processed =
      (turnsOn conversion (ready conversion disk) candidates).filterMap Turn.converted?)
    (skipped : report.skipped.map Skipped.name =
      (turnsOn conversion (ready conversion disk) candidates).filterMap Turn.failed?) :
    Accomplished conversion candidates source report disk
      (afterTurns conversion (ready conversion disk) candidates) := by
  refine ⟨fun file reported => ?_, fun name entry stood => ?_, fun file reported => ?_, fun location => ?_,
    fun serial parent => ?_⟩
  · rw [processed] at reported
    obtain ⟨turn, member, converted⟩ := List.mem_filterMap.1 reported
    obtain ⟨content, place, found, named, stands, made⟩ :=
      apart.converted member (turn.converted?_eq_some_iff.1 converted)
    exact ⟨turn.candidate, candidate_mem member, content, place, found, (apart.place?_iff member).2 named,
      stands, made⟩
  · rcases apart.begins.get?_cases (name :: source) with stays | ⟨turn, member, named⟩
    · rw [stays]
      exact (ready_gains conversion disk).kept stood
    · exact absurd rfl (apart.tail_ne member named)
  · have named : file.name ∈ report.skipped.map Skipped.name := List.mem_map_of_mem reported
    rw [skipped] at named
    obtain ⟨turn, member, failing⟩ := List.mem_filterMap.1 named
    obtain ⟨⟨failure, failed⟩, same⟩ := turn.failed?_eq_some_iff.1 failing
    exact ⟨turn.candidate, candidate_mem member, same, fun place named =>
      apart.failed member failed ((apart.place?_iff member).1 named)⟩
  · rcases apart.begins.get?_cases location with stays | ⟨turn, member, named⟩
    · exact (ready_cases apart.writes apart.linkFree stays).imp_right .inl
    have named' := (apart.place?_iff member).2 named
    -- Each turn is listed on one side of the report.
    cases outcome : turn.outcome with
    | ok file =>
      obtain ⟨_, _, -, -, -, made⟩ := apart.converted member outcome
      refine .inr (.inr (.inl ⟨file, ?_, by rw [made]; exact named'⟩))
      rw [processed]
      exact List.mem_filterMap.2 ⟨turn, member, turn.converted?_eq_some_iff.2 outcome⟩
    | error failure =>
      have listed : turn.candidate.name ∈ report.skipped.map Skipped.name := by
        rw [skipped]
        exact List.mem_filterMap.2 ⟨turn, member, turn.failed?_eq_some_iff.2 ⟨⟨failure, outcome⟩, rfl⟩⟩
      obtain ⟨file, reported, same⟩ := List.mem_map.1 listed
      refine (apart.failed member outcome named).imp_right (Or.imp_right fun lost => .inr ?_)
      exact ⟨file, reported, turn.candidate, candidate_mem member, same.symm, named', lost⟩
  · rcases apart.begins.get?_cases (.temporary serial :: parent) with stays | ⟨turn, member, named⟩
    · rw [stays]
      exact (ready_gains conversion disk).temporary serial parent
    · obtain ⟨name, directory, other, -⟩ := Disk.exists_of_place? named
      cases other

end Apart

theorem select_location {source suffix : String} {markers : Markers} {final : World} {directory : Location}
    (linkFree : disk.files.LinkFree) (legalNames : disk.files.LegalNames)
    (selected : (Selection.select source markers suffix).perform { disk } = (.ok candidates, final))
    (resolved : disk.resolve (Bytes.ofText source) = .ok directory) :
    ∀ candidate ∈ candidates,
      (disk.spelled (Bytes.ofText (Path.join source candidate.name))).tail = directory := by
  intro candidate chosen
  obtain ⟨reached, content, same, stands, -, found⟩ := Selection.mem_select selected chosen
  cases same.symm.trans resolved
  obtain ⟨named, noSlash, notHere, notUp⟩ := legalNames _ _ stands
  obtain ⟨location, led, -⟩ := Disk.content?_eq_some_iff.1 found
  have spelled := Disk.eq_spelled_of_resolve linkFree led
  rw [Disk.resolve_join_iff linkFree source (mt Bytes.slash_mem_ofText.2 noSlash)
    (fun empty => named (by rw [empty]; rfl)) notHere notUp] at led
  rw [← spelled, led.2.2.2.2.2, List.tail_cons, ← Disk.eq_spelled_of_resolve linkFree resolved]

theorem apart_of_select {suffix : String} {markers : Markers} {world : World}
    (writes : conversion.dryRun = false) (noFaults : disk.faults = []) (linkFree : disk.files.LinkFree)
    (legalNames : disk.files.LegalNames) (noSlash : '/' ∉ suffix.toList)
    (elsewhere : outputLocation conversion (ready conversion disk) ≠
      disk.resolve (Bytes.ofText conversion.sourceDirectory))
    (selected : (Selection.select conversion.sourceDirectory markers suffix).perform { disk } =
      (.ok candidates, world)) :
    world.disk = disk ∧ ∃ source, disk.resolve (Bytes.ofText conversion.sourceDirectory) = .ok source ∧
      Apart conversion candidates source disk := by
  obtain ⟨source, resolved, -⟩ := Selection.select_ok selected
  obtain ⟨faults, isSuffix, same⟩ := Selection.select_readsOnly.disk_eq selected
  refine ⟨?_, source, resolved, ?_⟩
  · -- Selection only uses up faults, and there are none.
    rw [noFaults, List.suffix_nil] at isSuffix
    rw [same, isSuffix, ← noFaults]
  · exact
      { writes, noFaults, linkFree
        flat := select_flat legalNames noSlash selected
        distinct := select_distinct selected
        content := fun candidate chosen =>
          have ⟨_, content, _, _, _, found⟩ := Selection.mem_select selected chosen
          ⟨content, found⟩
        location := select_location linkFree legalNames selected resolved
        elsewhere := by rwa [← resolved] }

/-- A run to the end, from a file system without links and with no faults to come, accomplishes what its
report says if the output directory is not the source directory and the suffix has no slash. That a name
drawn for a temporary entry differs from every name that the run uses is an assumption of `EntryName`. -/
theorem run_accomplishes {settings : Settings} {disk : Disk} {report : Report}
    (converts : settings.conversion false = .ok conversion) (noFaults : disk.faults = [])
    (linkFree : disk.files.LinkFree) (legalNames : disk.files.LegalNames)
    (noSlash : '/' ∉ settings.suffix.toList)
    (elsewhere : outputLocation conversion (ready conversion disk) ≠
      disk.resolve (Bytes.ofText conversion.sourceDirectory))
    (finished : (run settings false watch () disk).outcome = .ok report) :
    ∃ candidates source,
      ((Selection.select conversion.sourceDirectory settings.markers settings.suffix).perform { disk }).1 =
        .ok candidates ∧
      disk.resolve (Bytes.ofText conversion.sourceDirectory) = .ok source ∧
      Accomplished conversion candidates source report disk (run settings false watch () disk).disk := by
  obtain ⟨_, candidates, world, converts', -, writes, selected, -, final, processed, skipped⟩ :=
    run_watch finished
  cases converts'.symm.trans converts
  obtain ⟨quiet, source, resolved, apart⟩ :=
    apart_of_select writes noFaults linkFree legalNames noSlash elsewhere selected
  rw [quiet] at final processed skipped
  refine ⟨candidates, source, by rw [selected], resolved, ?_⟩
  rw [final]
  exact apart.accomplished processed skipped

/-- Of two candidates here one is converted, and a directory stands where the other one's output goes. -/
def occupiedDisk : Disk where
  files := ((((FileSystem.empty.put [.plain (Bytes.ofText "S")] .directory).put
    [.plain (Bytes.ofText "A.cs"), .plain (Bytes.ofText "S")] (.file (Bytes.ofText "File: a\n"))).put
    [.plain (Bytes.ofText "B.cs"), .plain (Bytes.ofText "S")] (.file (Bytes.ofText "b\n"))).put
    [.plain (Bytes.ofText "o")] .directory).put
    [.plain (Bytes.ofText "B_doxy.cs"), .plain (Bytes.ofText "o")] .directory
  workingDirectory := []

def occupiedSettings : Settings := { source := some "S", output := "o" }

theorem run_accomplishes_occupied :
    ∃ candidates source, Accomplished ⟨"S", "o", Table.builtin, .lf, false⟩ candidates source
      ⟨[⟨"A.cs", "o/A_doxy.cs", 1, 1⟩],
        [⟨"B.cs", .writeFailed, "cannot write o/B_doxy.cs: Is a directory (os error 21)"⟩]⟩
      occupiedDisk (run occupiedSettings false watch () occupiedDisk).disk := by
  have converts : occupiedSettings.conversion false = .ok ⟨"S", "o", Table.builtin, .lf, false⟩ := rfl
  have finished : (run occupiedSettings false watch () occupiedDisk).outcome =
      .ok ⟨[⟨"A.cs", "o/A_doxy.cs", 1, 1⟩],
        [⟨"B.cs", .writeFailed, "cannot write o/B_doxy.cs: Is a directory (os error 21)"⟩]⟩ := by
    decide +kernel
  obtain ⟨candidates, source, -, -, accomplished⟩ :=
    run_accomplishes converts rfl (by decide +kernel) (by decide +kernel) (by decide +kernel)
      (by decide +kernel) finished
  exact ⟨candidates, source, accomplished⟩

/-! ## Skipped candidates

What stands at the place of a skipped candidate's output may change in both ways that the statement
leaves open.
-/

/-- A run under all conditions that skips its only candidate, and what stands at the place of the
candidate's output before and behind the run. -/
def SkipsOver (settings : Settings) (disk : Disk) (candidate : Candidate)
    (before behind : Option Entry) : Prop :=
  ∃ conversion report place, settings.conversion false = .ok conversion ∧ disk.faults = [] ∧
    disk.files.LinkFree ∧ disk.files.LegalNames ∧ '/' ∉ settings.suffix.toList ∧
    outputLocation conversion (ready conversion disk) ≠
      disk.resolve (Bytes.ofText conversion.sourceDirectory) ∧
    (run settings false watch () disk).outcome = .ok report ∧
    report.skipped.map Skipped.name = [candidate.name] ∧
    (run settings false watch () disk).disk.place? (Bytes.ofText (conversion.outputPath candidate)) =
      some place ∧
    disk.files.get? place = before ∧ (run settings false watch () disk).disk.files.get? place = behind

def enclosingSettings : Settings := { source := some "S", output := "o/A_doxy.cs/.." }

def enclosingDisk : Disk where
  files := (FileSystem.empty.put [.plain (Bytes.ofText "S")] .directory).put
    [.plain (Bytes.ofText "A.cs"), .plain (Bytes.ofText "S")] (.file (Bytes.ofText "a\n"))
  workingDirectory := []

theorem skipsOver_enclosing :
    SkipsOver enclosingSettings enclosingDisk ⟨"A.cs", "A_temp.cs", "A_doxy.cs"⟩ none (some .directory) :=
  ⟨⟨"S", "o/A_doxy.cs/..", Table.builtin, .lf, false⟩,
    ⟨[], [⟨"A.cs", .writeFailed, "cannot write o/A_doxy.cs/../A_doxy.cs: Is a directory (os error 21)"⟩]⟩,
    [.plain (Bytes.ofText "A_doxy.cs"), .plain (Bytes.ofText "o")], rfl, by decide +kernel⟩

def slashed (count : Nat) : String := String.ofList ('o' :: List.replicate count '/')

theorem ofText_slashed (count : Nat) : Bytes.ofText (slashed count) = 111 :: List.replicate count 47 := by
  have slashes : (List.replicate count '/').flatMap String.utf8EncodeChar = List.replicate count 47 := by
    induction count with
    | zero => rfl
    | succ count ih =>
      rw [List.replicate_succ, List.flatMap_cons, ih]
      rfl
  rw [slashed, Bytes.ofText, String.toList_ofList, Bytes.ofChars, List.flatMap_cons, slashes]
  rfl

theorem route_slashed (count : Nat) : (Path.route (Bytes.ofText (slashed count))).absolute = false ∧
    (Path.route (Bytes.ofText (slashed count))).parts = [[111]] := by
  rw [ofText_slashed]
  refine ⟨rfl, ?_⟩
  induction count with
  | zero => rfl
  | succ count ih =>
    rw [List.replicate_succ', ← List.cons_append, Path.route_parts_append_slash, ih]

theorem temporaryBase_slashed (count : Nat) {stem : Bytes} (front : stem.head? ≠ some 47) :
    Disk.temporaryBase (Bytes.ofText (slashed (count + 1))) stem = Bytes.ofText (slashed (count + 1)) := by
  rw [ofText_slashed]
  simp [Disk.temporaryBase, front, List.getLast?_cons, List.replicate_succ']

theorem place?_slashed {disk : Disk} (linkFree : disk.files.LinkFree) (atRoot : disk.workingDirectory = [])
    (stands : disk.files.get? [.plain (Bytes.ofText "o")] = some .directory) {count : Nat}
    (short : count + 4 < pathLimit) :
    disk.place? (Bytes.ofText (Path.join (slashed count) "ab")) =
      some [.plain (Bytes.ofText "ab"), .plain (Bytes.ofText "o")] := by
  obtain ⟨absolute, parts⟩ := route_slashed count
  have start : FileSystem.start disk.workingDirectory (Path.route (Bytes.ofText (slashed count))) = [] := by
    rw [FileSystem.start, absolute, atRoot]
    rfl
  have leads : Leads disk.files [] [Bytes.ofText "o"] [.plain (Bytes.ofText "o")] :=
    .down rfl (by decide) (by decide) (by decide) (by rw [stands]; exact Option.some_ne_none _) .done
  have spelled : disk.spelled (Bytes.ofText (slashed count)) = [.plain (Bytes.ofText "o")] := by
    rw [Disk.spelled, start, parts]
    exact leads.eq_descend.symm
  have parsed : ∃ route,
      FileSystem.parsePath (Bytes.ofText (Path.join (slashed count) "ab")) = .ok route := by
    obtain ⟨between, isPrefix, joined⟩ := Path.ofText_join (slashed count) (by decide : '/' ∉ "ab".toList)
    have length := isPrefix.length_le
    have noZero : (0 : UInt8) ∉ between := fun zero => by simpa using isPrefix.subset zero
    rw [joined, ofText_slashed]
    refine ⟨_, Disk.parsePath_eq_ok_iff.2 ⟨?_, by simp, ?_, rfl⟩⟩
    · have noZero' : (0 : UInt8) ∉ Bytes.ofText "ab" := by decide
      simp [noZero, noZero']
    · have two : (Bytes.ofText "ab").length = 2 := by decide
      rw [List.length_singleton] at length
      simp only [List.length_append, List.length_cons, List.length_replicate, two]
      omega
  refine (Disk.place?_join_iff linkFree _ (by decide) (by decide)).2
    ⟨parsed, by decide, by decide, by decide, ?_, ?_, ?_⟩
  · rw [start, parts, spelled]
    exact leads
  · rw [spelled, stands]
  · rw [spelled]

def previousDisk : Disk where
  files := (((FileSystem.empty.put [.plain (Bytes.ofText "S")] .directory).put
    [.plain (Bytes.ofText "a"), .plain (Bytes.ofText "S")] (.file (Bytes.ofText "x\n"))).put
    [.plain (Bytes.ofText "o")] .directory).put
    [.plain (Bytes.ofText "ab"), .plain (Bytes.ofText "o")] (.file (Bytes.ofText "x\n"))
  workingDirectory := []

def slashedSettings (count : Nat) : Settings :=
  { source := some "S", output := slashed count, includes := "a", excludes := "", suffix := "b" }

def slashedConversion (count : Nat) : Conversion := ⟨"S", slashed count, Table.builtin, .lf, false⟩

theorem conditions_previous :
    previousDisk.files.LinkFree ∧ previousDisk.files.LegalNames ∧
      previousDisk.files.get? [.plain (Bytes.ofText "o")] = some .directory ∧
      previousDisk.files.get? [.plain (Bytes.ofText "ab"), .plain (Bytes.ofText "o")] =
        some (.file (Bytes.ofText "x\n")) ∧
      previousDisk.content? (Bytes.ofText (Path.join "S" "a")) = some (Bytes.ofText "x\n") ∧
      previousDisk.resolve (Bytes.ofText "S") = .ok [.plain (Bytes.ofText "S")] ∧
      ((Selection.select "S" ⟨"a", ""⟩ "b").perform { disk := previousDisk }).1 =
        .ok [⟨"a", "a_temp", "ab"⟩] := by
  decide +kernel

theorem quiet_slashed (count : Nat) : Quiet (slashedConversion count) [⟨"a", "a_temp", "ab"⟩]
    (ready (slashedConversion count) previousDisk) := by
  have gains := ready_gains (slashedConversion count) previousDisk
  have flat : Candidate.Flat ⟨"a", "a_temp", "ab"⟩ := ⟨by decide, by decide, by decide⟩
  exact ⟨rfl, by simpa using flat, gains.quiet rfl, gains.linkFree conditions_previous.1⟩

theorem output_slashed {count : Nat} (short : count < 4082) :
    (ready (slashedConversion count) previousDisk).place?
        (Bytes.ofText ((slashedConversion count).outputPath ⟨"a", "a_temp", "ab"⟩)) =
      some [.plain (Bytes.ofText "ab"), .plain (Bytes.ofText "o")] := by
  have gains := ready_gains (slashedConversion count) previousDisk
  obtain ⟨-, -, stands, -⟩ := conditions_previous
  exact place?_slashed (quiet_slashed count).linkFree gains.workingDirectory (gains.kept stands)
    (by rw [pathLimit]; omega)

theorem leadLength_slashed {disk : Disk} (atRoot : disk.workingDirectory = []) (count : Nat)
    (stem : Bytes) :
    disk.leadLength (Bytes.ofText (slashed count) ++ stem) + (Bytes.ofText (slashed count) ++ stem).length =
      count + 2 + stem.length := by
  rw [ofText_slashed, Disk.leadLength, atRoot]
  simp
  omega

theorem refusal?_copy_slashed {count : Nat} (short : count + 1 < 4082) :
    (ready (slashedConversion (count + 1)) previousDisk).refusal?
      (Disk.createTemporary (Bytes.ofText (slashed (count + 1))) (Bytes.ofText "a_temp") (Bytes.ofText "")) =
        none := by
  have quiet := quiet_slashed (count + 1)
  have atRoot : (ready (slashedConversion (count + 1)) previousDisk).workingDirectory = [] :=
    (ready_gains (slashedConversion (count + 1)) previousDisk).workingDirectory
  have reaches := Disk.reaches_of_place?_join quiet.linkFree (by decide) (by decide) (output_slashed short)
  have base := temporaryBase_slashed count (by decide : (Bytes.ofText "a_temp").head? ≠ some 47)
  refine Disk.refusal?_createTemporary_eq_none quiet.noFaults quiet.linkFree reaches (by decide) (by decide)
    ?_ ?_ (by decide)
  · have noZero : (0 : UInt8) ∉ Bytes.ofText "a_temp" ++ Bytes.ofText "" := by decide
    rw [base, ofText_slashed, List.append_assoc, List.mem_append, not_or]
    exact ⟨by simp, noZero⟩
  · have six : (Bytes.ofText "a_temp" ++ Bytes.ofText "").length = 6 := by decide
    rw [base, List.append_assoc, leadLength_slashed atRoot, six, pathLimit]
    omega

theorem overlong_slashed {count : Nat} (long : 4079 ≤ count + 1) {disk : Disk}
    (atRoot : disk.workingDirectory = []) : (slashedConversion (count + 1)).Overlong disk := by
  have base : (slashedConversion (count + 1)).stagingBase = Bytes.ofText (slashed (count + 1)) :=
    temporaryBase_slashed count (by decide)
  have nine : (Bytes.ofText ".doxytag-").length = 9 := by decide
  rw [Conversion.Overlong, base, leadLength_slashed atRoot, nine, pathLimit]
  omega

/-- So the turn of the candidate only removes the previous output. -/
theorem takeTurn_slashed {count : Nat} (short : count + 1 < 4082) (long : 4079 ≤ count + 1) : ∃ failure,
    (takeTurn (slashedConversion (count + 1)) (ready (slashedConversion (count + 1)) previousDisk)
      ⟨"a", "a_temp", "ab"⟩).outcome = .error failure ∧
    (takeTurn (slashedConversion (count + 1)) (ready (slashedConversion (count + 1)) previousDisk)
      ⟨"a", "a_temp", "ab"⟩).after.files.get?
        [.plain (Bytes.ofText "ab"), .plain (Bytes.ofText "o")] = none := by
  have gains := ready_gains (slashedConversion (count + 1)) previousDisk
  have quiet := quiet_slashed (count + 1)
  obtain ⟨linkFree, -, -, stood, original, -⟩ := conditions_previous
  have previous := gains.kept stood
  have found := gains.content?_eq_some linkFree original
  obtain ⟨failure, final, performed, becomes⟩ : ∃ failure final,
      ((slashedConversion (count + 1)).run ⟨"a", "a_temp", "ab"⟩).perform
        { disk := ready (slashedConversion (count + 1)) previousDisk } = (.error failure, final) ∧ _ :=
    Conversion.run_overlong rfl (quiet.flat _ List.mem_cons_self) quiet.noFaults quiet.linkFree found
      (refusal?_copy_slashed short) (output_slashed short)
      (by rw [previous]; simp) (overlong_slashed long gains.workingDirectory)
  rw [takeTurn, performed]
  refine ⟨failure, rfl, ?_⟩
  rw [becomes.files, Function.update_self]

theorem skipsOver_slashed {count : Nat} (short : count + 1 < 4082) (long : 4079 ≤ count + 1) :
    SkipsOver (slashedSettings (count + 1)) previousDisk ⟨"a", "a_temp", "ab"⟩
      (some (.file (Bytes.ofText "x\n"))) none := by
  obtain ⟨linkFree, legalNames, -, stood, -, source, listed⟩ := conditions_previous
  have converts : (slashedSettings (count + 1)).conversion false = .ok (slashedConversion (count + 1)) := rfl
  obtain ⟨report, finished⟩ : ∃ report,
      (run (slashedSettings (count + 1)) false watch () previousDisk).outcome = .ok report :=
    run_finishes watch () rfl converts (Prod.ext listed rfl)
  obtain ⟨conversion, candidates, world, converts', -, -, selected, ⟨faults, isSuffix, same⟩, final, -,
    skipped⟩ := run_watch finished
  cases converts.symm.trans converts'
  obtain rfl : candidates = [⟨"a", "a_temp", "ab"⟩] :=
    Except.ok.inj ((congrArg Prod.fst selected).symm.trans listed)
  obtain rfl := List.suffix_nil.1 isSuffix
  rw [show world.disk = previousDisk from same] at final skipped
  obtain ⟨failure, failed, gone⟩ := takeTurn_slashed short long
  have quiet := quiet_slashed (count + 1)
  have named := output_slashed short
  have flat := quiet.flat _ List.mem_cons_self
  refine ⟨slashedConversion (count + 1), report, [.plain (Bytes.ofText "ab"), .plain (Bytes.ofText "o")],
    converts, rfl, linkFree, legalNames, (by decide : '/' ∉ "b".toList), ?_, finished, ?_, ?_, stood, ?_⟩
  · change _ ≠ previousDisk.resolve (Bytes.ofText "S")
    rw [outputLocation_of_place? quiet.linkFree flat named, source]
    decide
  · simp only [skipped, turnsOn, List.filterMap_cons, List.filterMap_nil, Turn.failed?, failed]
    rfl
  · rw [final]
    exact (quiet.follows.place?_output_iff quiet.linkFree flat).2 named
  · rw [final]
    exact gone

theorem skipped_outputs_differ :
    SkipsOver enclosingSettings enclosingDisk ⟨"A.cs", "A_temp.cs", "A_doxy.cs"⟩ none (some .directory) ∧
      SkipsOver (slashedSettings 4080) previousDisk ⟨"a", "a_temp", "ab"⟩
        (some (.file (Bytes.ofText "x\n"))) none :=
  ⟨skipsOver_enclosing, skipsOver_slashed (by decide) (by decide)⟩

end Batch

end Retag
