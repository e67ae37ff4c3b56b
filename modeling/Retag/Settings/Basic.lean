import Retag.Candidate.Basic
import Retag.Conversion.Basic
import Retag.Failure
import Retag.Rule.Table

/-!
Settings of a run after all layers are merged, and the check that a run makes of them first. Paths are
texts here, and those given on the command line are too: one that is not UTF-8 is not spoken of.
-/

set_option autoImplicit false

namespace Retag

structure Settings where
  source : Option String := none
  output : String := "doxygenFiles"
  includes : String := ".cs"
  excludes : String := ".meta"
  suffix : String := "_doxy"
  lineEnding : LineEnding := .lf
  /-- The configured rules; none means the builtin table. -/
  rules : Table := []
  deriving DecidableEq, Repr, Inhabited

namespace Settings

def table (settings : Settings) : Table :=
  if settings.rules.isEmpty then Table.builtin else settings.rules

def markers (settings : Settings) : Markers := ⟨settings.includes, settings.excludes⟩

/-- Named in failures of the merged settings, which no single file holds. -/
def mergedOrigin : String := "<merged settings>"

def sourceDirectory (settings : Settings) : Except Failure String :=
  match settings.source with
  | some source => .ok source
  | none => .error (.invalidSettings mergedOrigin .noSource)

/-- The first reason to refuse the settings: no source, an empty include marker, an empty suffix,
then a rule with an empty pattern. -/
def problem? (settings : Settings) : Option SettingsProblem :=
  if settings.source.isNone then some .noSource
  else if settings.includes.isEmpty then some .emptyInclude
  else if settings.suffix.isEmpty then some .emptySuffix
  else settings.rules.firstEmptyPattern?.map .emptyPattern

def validate (settings : Settings) : Except Failure Unit :=
  match settings.problem? with
  | some problem => .error (.invalidSettings mergedOrigin problem)
  | none => .ok ()

def conversion (settings : Settings) (dryRun : Bool) : Except Failure Conversion := do
  let source ← settings.sourceDirectory
  return {
    sourceDirectory := source
    outputDirectory := settings.output
    table := settings.table
    lineEnding := settings.lineEnding
    dryRun }

end Settings

end Retag
