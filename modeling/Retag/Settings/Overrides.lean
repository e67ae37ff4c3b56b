import Retag.Settings.Basic

/-!
Settings given on the command line. Each one that is given replaces its setting, whatever file or
environment said. Paths among them are texts, as in the settings.
-/

set_option autoImplicit false

namespace Retag

structure Overrides where
  source : Option String := none
  output : Option String := none
  includes : Option String := none
  excludes : Option String := none
  suffix : Option String := none
  crlf : Bool := false
  deriving DecidableEq, Repr

def Settings.withOverrides (settings : Settings) (overrides : Overrides) : Settings :=
  { settings with
    source := overrides.source <|> settings.source
    output := overrides.output.getD settings.output
    includes := overrides.includes.getD settings.includes
    excludes := overrides.excludes.getD settings.excludes
    suffix := overrides.suffix.getD settings.suffix
    lineEnding := if overrides.crlf then .crlf else settings.lineEnding }

end Retag
