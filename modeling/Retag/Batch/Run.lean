import Retag.Batch.Report
import Retag.Candidate.Selection
import Retag.Settings.Basic

/-!
Running a batch. Candidates are selected once, at the start, and then converted one after another.
A file that cannot be read or written is recorded and the batch goes on. An observer sees every
event as it happens and may change the disk before the next step.
-/

set_option autoImplicit false

namespace Retag.Batch

abbrev Observer (State : Type) := Event → State → Disk → State × Disk

structure Run (State : Type) where
  outcome : Except Failure Report
  notices : List Notice
  state : State
  disk : Disk

variable {State : Type}

namespace Run

def after (earlier : List Notice) (run : Run State) : Run State :=
  { run with notices := earlier ++ run.notices }

def adding (processed : List Converted) (skipped : List Skipped) (run : Run State) : Run State :=
  { run with outcome := run.outcome.map fun report =>
      ⟨processed ++ report.processed, skipped ++ report.skipped⟩ }

end Run

def skip (candidate : Candidate) (failure : Failure) : Except Failure (Skipped × Log.Record) :=
  let fields := [("file", candidate.name), ("error", failure.message)]
  match failure with
  | .unreadable _ _ =>
      .ok (⟨candidate.name, .unreadable, failure.message⟩,
        ⟨.batch, .warn, "skipping unreadable file", fields⟩)
  | .unwritable _ _ =>
      .ok (⟨candidate.name, .writeFailed, failure.message⟩,
        ⟨.batch, .error, "failed to write output", fields⟩)
  | fatal => .error fatal

/-- Converts candidates whose positions count from `index`. -/
def convertAll (conversion : Conversion) (observe : Observer State) (state : State) (disk : Disk)
    (index : Nat) : List Candidate → Run State
  | [] => ⟨.ok ⟨[], []⟩, [], state, disk⟩
  | candidate :: rest =>
      let (outcome, world) := (conversion.run candidate).perform { disk }
      let log := world.log.map Notice.record
      match outcome with
      | .ok file =>
          let event := Event.fileWritten index file
          let (state, disk) := observe event state world.disk
          (convertAll conversion observe state disk (index + 1) rest).adding [file] []
            |>.after (log ++ [.event event])
      | .error failure =>
          match skip candidate failure with
          | .error fatal => ⟨.error fatal, log, state, world.disk⟩
          | .ok (file, record) =>
              let event := Event.fileSkipped index file
              let (state, disk) := observe event state world.disk
              (convertAll conversion observe state disk (index + 1) rest).adding [] [file]
                |>.after (log ++ [.record record, .event event])

/-- Makes the output directory if it is missing. A failure is only told: every file will then fail
to be written. -/
def prepareOutput (source output : String) (disk : Disk) : List Log.Record × Disk :=
  match Disk.createDirectories (Bytes.ofText output) disk with
  | (.error error, disk) =>
      ([⟨.batch, .error, "cannot create output directory",
        [("dir", output), ("error", error.message)]⟩], disk)
  | (.ok (), disk) =>
      let (sourceLocation, disk) := Disk.realPath (Bytes.ofText source) disk
      let (outputLocation, disk) := Disk.realPath (Bytes.ofText output) disk
      match sourceLocation, outputLocation with
      | .ok sourceLocation, .ok outputLocation =>
          if sourceLocation = outputLocation then
            ([⟨.batch, .warn,
              "output directory is the source directory, outputs will be picked up by the next run",
              [("dir", output)]⟩], disk)
          else ([], disk)
      | _, _ => ([], disk)

def runSelected (conversion : Conversion) (observe : Observer State) (state : State) (disk : Disk)
    (candidates : List Candidate) : Run State :=
  let preparation :=
    if conversion.dryRun then ([], disk)
    else prepareOutput conversion.sourceDirectory conversion.outputDirectory disk
  let starting : Log.Record := ⟨.batch, .debug, "starting batch",
    [("source", conversion.sourceDirectory), ("output", conversion.outputDirectory),
      ("rules", toString conversion.table.length)]⟩
  let started := Event.started candidates.length
  let (state, disk) := observe started state preparation.2
  let run := convertAll conversion observe state disk 0 candidates
    |>.after ((preparation.1 ++ [starting]).map Notice.record ++ [.event started])
  match run.outcome with
  | .error _ => run
  | .ok report =>
      let finished := Event.finished report.processed.length report.skipped.length
      let (state, disk) := observe finished run.state run.disk
      let record : Log.Record := ⟨.batch, .info, "batch finished",
        [("processed", toString report.processed.length),
          ("skipped", toString report.skipped.length)]⟩
      ⟨run.outcome, run.notices ++ [.record record, .event finished], state, disk⟩

def listCandidates (settings : Settings) : Action (List Candidate) := do
  (settings.validate : Except Failure Unit)
  let source ← (settings.sourceDirectory : Except Failure String)
  Selection.select source settings.markers settings.suffix

def run (settings : Settings) (dryRun : Bool) (observe : Observer State) (state : State)
    (disk : Disk) : Run State :=
  match settings.validate, settings.conversion dryRun with
  | .error failure, _ => ⟨.error failure, [], state, disk⟩
  | _, .error failure => ⟨.error failure, [], state, disk⟩
  | .ok (), .ok conversion =>
      let (selection, world) :=
        (Selection.select conversion.sourceDirectory settings.markers settings.suffix).perform { disk }
      let log := world.log.map Notice.record
      match selection with
      | .error failure => ⟨.error failure, log, state, world.disk⟩
      | .ok candidates =>
          (runSelected conversion observe state world.disk candidates).after log

def watch : Observer Unit := fun _ state disk => (state, disk)

end Retag.Batch
