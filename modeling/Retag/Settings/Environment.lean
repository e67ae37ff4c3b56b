import Retag.Environment
import Retag.Settings.Basic
import Retag.Text.Lowercase

/-!
What the environment changes in the settings. Each variable that is set replaces its one setting,
even by an empty text; only a line ending must have a known name, in any case.
-/

set_option autoImplicit false

namespace Retag

def Environment.userSettings? (environment : Environment) : Option Bytes :=
  environment.configDirectory?.map fun directory =>
    Path.joinRaw (Path.joinRaw directory (Bytes.ofText "doxytag")) (Bytes.ofText "config.toml")

def LineEnding.ofName? (name : String) : Option LineEnding :=
  if name = "lf" then some .lf else if name = "crlf" then some .crlf else none

namespace Settings

def lineEndingVariable : String := "DOXYTAG_LINE_ENDING"

def lineEndingOverride (environment : Environment) : Except Failure (Option LineEnding) :=
  match environment.get? lineEndingVariable with
  | none => .ok none
  | some written =>
      let name := Letter.lowercase written
      match LineEnding.ofName? name with
      | some ending => .ok (some ending)
      | none => .error (.invalidSettings lineEndingVariable (.unknownLineEnding name))

def withEnvironment (settings : Settings) (environment : Environment) : Except Failure Settings := do
  let ending? ← lineEndingOverride environment
  let source? := environment.get? "DOXYTAG_SOURCE"
  return { settings with
    source := source? <|> settings.source
    output := (environment.get? "DOXYTAG_OUTPUT").getD settings.output
    includes := (environment.get? "DOXYTAG_INCLUDE").getD settings.includes
    excludes := (environment.get? "DOXYTAG_EXCLUDE").getD settings.excludes
    suffix := (environment.get? "DOXYTAG_SUFFIX").getD settings.suffix
    lineEnding := ending?.getD settings.lineEnding }

end Settings

end Retag
