import Retag.Action
import Retag.Candidate.Basic
import Retag.Document.Retagging

/-!
Converting one file. The source is only ever read. Its bytes go to a temporary copy in the output
directory first, the output is written to a second temporary entry from that copy, and only a
complete output is moved to its path. A previous output is removed in between. A dry run reads and
counts in the same way and writes nothing.
-/

set_option autoImplicit false

namespace Retag

structure Conversion where
  sourceDirectory : String
  outputDirectory : String
  table : Table
  lineEnding : LineEnding := .lf
  dryRun : Bool := false
  deriving Repr

structure Converted where
  name : String
  output : String
  /-- Lines read, and therefore lines written. -/
  lines : Nat
  changedLines : Nat
  deriving DecidableEq, Repr

namespace Conversion

def sourcePath (conversion : Conversion) (candidate : Candidate) : String :=
  Path.join conversion.sourceDirectory candidate.name

def outputPath (conversion : Conversion) (candidate : Candidate) : String :=
  Path.join conversion.outputDirectory candidate.outputName

def emit (conversion : Conversion) (candidate : Candidate) (target? : Option Location)
    (bytes : Bytes) : Action Unit :=
  match target? with
  | none => pure ()
  | some target =>
      Action.attempt (.unwritable (conversion.outputPath candidate)) (Disk.append target bytes)

/-- Retags pieces one after another, each behind one read, and writes each to the target, if there
is one. -/
def transfer (conversion : Conversion) (candidate : Candidate) (target? : Option Location)
    (tally : Document.Tally) : List Bytes → Action Document.Tally
  | [] => do
      Action.attempt (.unreadable (conversion.sourcePath candidate)) Disk.proceed
      return tally
  | piece :: rest => do
      Action.attempt (.unreadable (conversion.sourcePath candidate)) Disk.proceed
      let (written, tally) := Document.retagPiece conversion.table conversion.lineEnding tally piece
      conversion.emit candidate target? written
      conversion.transfer candidate target? tally rest

def transform (conversion : Conversion) (candidate : Candidate) (source : Location)
    (target? : Option Location) : Action Document.Tally := do
  let content ← Action.attempt (.unreadable (conversion.sourcePath candidate)) (Disk.read source)
  conversion.transfer candidate target? (Document.Tally.start conversion.table)
    (Document.pieces content)

def createCopy (conversion : Conversion) (candidate : Candidate) : Action Location :=
  Action.attempt (.unwritable (Path.join conversion.outputDirectory candidate.tempName))
    (Disk.createTemporary (Bytes.ofText conversion.outputDirectory)
      (Bytes.ofText candidate.tempStem) (Bytes.ofText candidate.extension))

def copyWay (conversion : Conversion) (candidate : Candidate) : Path.Route :=
  Disk.temporaryRoute (Bytes.ofText conversion.outputDirectory) (Bytes.ofText candidate.tempStem)

/-- A temporary entry of the output directory for the output to grow in. -/
def createStaging (conversion : Conversion) (candidate : Candidate) : Action Location :=
  Action.attempt (.unwritable (conversion.outputPath candidate))
    (Disk.createTemporary (Bytes.ofText conversion.outputDirectory) (Bytes.ofText ".doxytag-") [])

def stagingWay (conversion : Conversion) : Path.Route :=
  Disk.temporaryRoute (Bytes.ofText conversion.outputDirectory) (Bytes.ofText ".doxytag-")

/-- Copies the source's bytes; an error of either side counts as the source's. -/
def copyContent (conversion : Conversion) (candidate : Candidate) (source copy : Location) :
    Action Unit := do
  let failure := Failure.unreadable (conversion.sourcePath candidate)
  let content ← Action.attempt failure (Disk.read source)
  Action.attempt failure (Disk.append copy content)

/-- Removes what stands at the output path; that nothing stands there is no failure. -/
def removePrevious (conversion : Conversion) (candidate : Candidate) : Action Unit :=
  let path := conversion.outputPath candidate
  Action.ofOutcome fun world =>
    match Disk.remove (Bytes.ofText path) world.disk with
    | (.ok (), disk) =>
        (Action.note ⟨.conversion, .debug, "removed previous output", [("path", path)]⟩).perform
          { world with disk }
    | (.error .notFound, disk) => (.ok (), { world with disk })
    | (.error error, disk) => (.error (.unwritable path error), { world with disk })

/-- Retags the copy into a second temporary entry, and moves that to the output path once it is
complete. -/
def stage (conversion : Conversion) (candidate : Candidate) (copy : Location) :
    Action Document.Tally :=
  let unwritable := Failure.unwritable (conversion.outputPath candidate)
  Action.withTemporary conversion.stagingWay (conversion.createStaging candidate) fun staging => do
    let tally ← conversion.transform candidate copy staging
    -- What is still buffered goes out before the entry is moved.
    Action.attempt unwritable Disk.proceed
    Action.attempt unwritable
      (Disk.rename staging (Bytes.ofText (conversion.outputPath candidate)))
    return tally

def write (conversion : Conversion) (candidate : Candidate) (source : Location) :
    Action Document.Tally :=
  Action.withTemporary (conversion.copyWay candidate) (conversion.createCopy candidate) fun copy => do
    conversion.copyContent candidate source copy
    -- The copy is opened once more for reading; from here on the source plays no part, so the
    -- previous output may go even if the source was that very entry.
    Action.attempt (.unreadable (conversion.sourcePath candidate)) Disk.proceed
    conversion.removePrevious candidate
    conversion.stage candidate copy

/-- Retags an open source: a dry run only reads and counts. -/
def convert (conversion : Conversion) (candidate : Candidate) (source : Location) :
    Action Document.Tally :=
  if conversion.dryRun then conversion.transform candidate source none
  else conversion.write candidate source

def describe (conversion : Conversion) (candidate : Candidate) (tally : Document.Tally) :
    List Log.Record :=
  let nonUtf8 : List Log.Record :=
    if tally.nonUtf8Lines = 0 then []
    else [⟨.conversion, .debug, "non-UTF-8 lines copied unchanged outside matches",
      [("file", candidate.name), ("lines", toString tally.nonUtf8Lines)]⟩]
  let hits : List Log.Record := (conversion.table.zip tally.ruleHits).filterMap fun (rule, count) =>
    if count = 0 then none
    else some ⟨.conversion, .debug, "rule hits",
      [("file", candidate.name), ("pattern", rule.pattern), ("hits", toString count)]⟩
  nonUtf8 ++ hits ++ [⟨.conversion, .info, "rewrote file",
    [("file", candidate.name), ("output", conversion.outputPath candidate),
      ("lines", toString tally.lines), ("changed", toString tally.changedLines),
      ("dry_run", toString conversion.dryRun)]⟩]

def run (conversion : Conversion) (candidate : Candidate) : Action Converted := do
  let source ← Action.attempt (.unreadable (conversion.sourcePath candidate))
    (Disk.openEntry (Bytes.ofText (conversion.sourcePath candidate)))
  let tally ← conversion.convert candidate source
  (conversion.describe candidate tally).forM Action.note
  return ⟨candidate.name, conversion.outputPath candidate, tally.lines, tally.changedLines⟩

end Conversion

end Retag
