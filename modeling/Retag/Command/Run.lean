import Retag.Batch.Run
import Retag.Command.Arguments
import Retag.Command.Outcome
import Retag.Settings.Load

/-!
Running a command line. Settings are loaded and their warnings told first, then the verb does its
work. The exit status is zero for success, one for a failure of the whole command and two for a
refused command line or a batch that skipped files.
-/

set_option autoImplicit false

namespace Retag.Command

def failedStatus : Nat := 1

/-- Status of a command that did part of its work, or refused its command line. -/
def partialStatus : Nat := 2

def warningText (warning : Settings.Warning) : String :=
  let location := match warning.line? with
    | some line => warning.file ++ ":" ++ toString line
    | none => warning.file
  let hint := match warning.suggestion? with
    | some suggestion => " (did you mean '" ++ suggestion ++ "'?)"
    | none => ""
  "⚠ unknown config key '" ++ warning.key ++ "' in " ++ location ++ hint

def warningLine (json : Bool) (warning : Settings.Warning) : Line :=
  if json then (Message.warning warning).line else .err (warningText warning)

/-- An event for people; the last one is told by the summary. -/
def eventLine? (dryRun : Bool) : Batch.Event → Option Line
  | .started total => some (.out ("✓ Found " ++ toString total ++ " candidate files"))
  | .fileWritten _ file =>
      let verb := if dryRun then " would write " else " -> "
      some (.out ("  ✓ " ++ file.name ++ verb ++ file.output ++ " (" ++ toString file.lines ++
        " lines, " ++ toString file.changedLines ++ " changed)"))
  | .fileSkipped _ file => some (.err ("  ✗ " ++ file.name ++ ": " ++ file.message))
  | .finished _ _ => none

def noticeLines (json dryRun : Bool) (filter : Log.Filter) : Batch.Notice → List Line
  | .record told => logLines filter [told]
  | .event happened =>
      if json then [(Message.batch happened).line] else (eventLine? dryRun happened).toList

def heading (settings : Settings) (dryRun : Bool) : List Line :=
  [.out "📦 doxytag convert", .out ("Source: " ++ settings.source.getD ""),
    .out ("Output: " ++ settings.output)] ++
    (if dryRun then [.out "Mode: Dry run"] else []) ++ [.out ""]

def closing (settings : Settings) (json dryRun : Bool) (report : Batch.Report) : List Line :=
  if json then [(Message.converted dryRun report).line]
  else
    [.out "", .out ("Summary: " ++ toString report.processed.length ++ " converted, " ++
      toString report.skipped.length ++ " skipped")] ++
    if report.writeFailures = 0 then []
    else [.out ("🔴 " ++ toString report.writeFailures ++
      " output file(s) could not be written. Check that '" ++ settings.output ++ "' is writable.")]

def convert (settings : Settings) (json dryRun : Bool) (filter : Log.Filter) (disk : Disk) :
    Outcome :=
  match settings.validate with
  | .error failure => ⟨Trouble.ofFailure failure, failedStatus, disk⟩
  | .ok () =>
      let run := Batch.run settings dryRun Batch.watch () disk
      let told := (if json then [] else heading settings dryRun) ++
        run.notices.flatMap (noticeLines json dryRun filter)
      match run.outcome with
      | .error failure => ⟨told ++ Trouble.ofFailure failure, failedStatus, run.disk⟩
      | .ok report =>
          ⟨told ++ closing settings json dryRun report,
            if report.isSuccess then 0 else partialStatus, run.disk⟩

def plannedOutput (settings : Settings) (candidate : Candidate) : String :=
  Path.join settings.output candidate.outputName

def candidateLines (settings : Settings) (json : Bool) (candidates : List Candidate) : List Line :=
  if json then
    candidates.map fun candidate =>
      (Message.candidate candidate.name (plannedOutput settings candidate)).line
  else
    [.out ("🔍 Candidates in " ++ settings.source.getD ""), .out ""] ++
    candidates.map (fun candidate =>
      .out ("  " ++ candidate.name ++ " -> " ++ plannedOutput settings candidate)) ++
    [.out "", .out ("Found " ++ toString candidates.length ++ " candidate files")]

def list (settings : Settings) (json : Bool) (filter : Log.Filter) (disk : Disk) : Outcome :=
  let (outcome, world) := (Batch.listCandidates settings).perform { disk }
  let told := logLines filter world.log
  match outcome with
  | .error failure => ⟨told ++ Trouble.ofFailure failure, failedStatus, world.disk⟩
  | .ok candidates => ⟨told ++ candidateLines settings json candidates, 0, world.disk⟩

def ruleText (width index : Nat) (rule : Rule) : String :=
  Column.right 3 (toString (index + 1)) ++ ". " ++
    Column.left width ("\"" ++ rule.pattern ++ "\"") ++ "  ->  \"" ++ rule.replacement ++ "\""

def patternColumn (table : Table) : Nat :=
  table.foldl (fun width rule => max width rule.pattern.utf8ByteSize) 0 + 2

def ruleLines (json : Bool) (table : Table) : List Line :=
  table.zipIdx.map fun (rule, index) =>
    if json then (Message.rule index rule).line
    else .out (ruleText (patternColumn table) index rule)

def Request.settings (request : Request) (environment : Environment) : Action Settings.Loaded := do
  let (settings, warnings) ← Settings.resolve environment request.config
  return (settings.withOverrides request.order.overrides, warnings)

def perform (request : Request) (settings : Settings) (filter : Log.Filter) (disk : Disk) :
    Outcome :=
  match request.order with
  | .convert _ dryRun => convert settings request.json dryRun filter disk
  | .list _ => list settings request.json filter disk
  | .rules => ⟨ruleLines request.json settings.table, 0, disk⟩

def fulfil (request : Request) (environment : Environment) (disk : Disk) : Outcome :=
  let filter := Log.Filter.choose environment request.verbosity
  let (loaded, world) := (request.settings environment).perform { disk }
  let told := logLines filter world.log
  match loaded with
  | .error failure => ⟨told ++ Trouble.ofLoading failure, failedStatus, world.disk⟩
  | .ok (settings, warnings) =>
      (perform request settings filter world.disk).after
        (told ++ warnings.map (warningLine request.json))

def replyOutcome (disk : Disk) : Reply → Outcome
  | .help topic => ⟨(Help.lines topic).map Line.out, 0, disk⟩
  | .version => ⟨[.out versionText], 0, disk⟩
  | .refusal refusal =>
      ⟨[.err ("error: " ++ refusal.message), .err "",
        .err "For more information, try '--help'."], partialStatus, disk⟩
  | .nothingAsked => ⟨(Help.lines .program).map Line.err, partialStatus, disk⟩

def run (words : List String) (environment : Environment) (disk : Disk) : Outcome :=
  match Arguments.read words with
  | .error reply => replyOutcome disk reply
  | .ok request => fulfil request environment disk

end Retag.Command
