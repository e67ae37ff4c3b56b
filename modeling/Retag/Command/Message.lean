import Retag.Batch.Report
import Retag.Json
import Retag.Settings.Warning

/-!
What the command line tells other programs: one JSON object a message, with its kind in the field
`event` and all fields in alphabetical order.
-/

set_option autoImplicit false

namespace Retag.Command

inductive Message where
  | warning (told : Settings.Warning)
  | batch (event : Batch.Event)
  | converted (dryRun : Bool) (report : Batch.Report)
  | candidate (name output : String)
  | rule (index : Nat) (applied : Rule)
  deriving DecidableEq, Repr

namespace Message

def convertedJson (file : Converted) : Json :=
  .object
    [ ("changed_lines", .number file.changedLines),
      ("lines", .number file.lines),
      ("name", .string file.name),
      ("output", .string file.output) ]

def reasonName : Batch.SkipReason → String
  | .unreadable => "unreadable"
  | .writeFailed => "write_failed"

def skippedJson (file : Batch.Skipped) : Json :=
  .object
    [ ("message", .string file.message),
      ("name", .string file.name),
      ("reason", .string (reasonName file.reason)) ]

def eventJson : Batch.Event → Json
  | .started total => .object [("event", .string "started"), ("total", .number total)]
  | .fileWritten index file =>
      .object
        [ ("event", .string "file_written"), ("file", convertedJson file), ("index", .number index) ]
  | .fileSkipped index file =>
      .object
        [ ("event", .string "file_skipped"), ("file", skippedJson file), ("index", .number index) ]
  | .finished processed skipped =>
      .object
        [ ("event", .string "finished"),
          ("processed", .number processed),
          ("skipped", .number skipped) ]

def json : Message → Json
  | .warning told =>
      .object
        [ ("event", .string "config_warning"),
          ("file", .string told.file),
          ("key", .string told.key),
          ("line", Json.ofOption .number told.line?),
          ("suggestion", Json.ofOption .string told.suggestion?) ]
  | .batch event => eventJson event
  | .converted dryRun report =>
      .object
        [ ("dry_run", .boolean dryRun),
          ("event", .string "convert"),
          ("processed", .number report.processed.length),
          ("skipped", .number report.skipped.length),
          ("status", .string (if report.isSuccess then "success" else "partial")),
          ("write_failures", .number report.writeFailures) ]
  | .candidate name output =>
      .object
        [("event", .string "candidate"), ("name", .string name), ("output", .string output)]
  | .rule index applied =>
      .object
        [ ("event", .string "rule"),
          ("index", .number index),
          ("pattern", .string applied.pattern),
          ("replacement", .string applied.replacement) ]

end Message

end Retag.Command
