import Retag.FileSystem.Error

/-!
What can go wrong in a run, as causes, and the text shown for each. A failure of one file lets the
batch go on; every other failure ends it.
-/

set_option autoImplicit false

namespace Retag

inductive SettingsProblem where
  | noSource
  | emptyInclude
  | emptySuffix
  /-- The rule at this position, counted from zero, has an empty pattern. -/
  | emptyPattern (index : Nat)
  | unknownLineEnding (name : String)
  | notToml
  /-- The document is TOML but holds a value of a wrong kind; the report shows where. -/
  | misshapen (report : String)
  deriving DecidableEq, Repr

def SettingsProblem.message : SettingsProblem → String
  | .noSource => "no source directory configured (use --source or [paths] source)"
  | .emptyInclude => "filter.include must not be empty"
  | .emptySuffix => "output.suffix must not be empty, outputs would shadow their sources"
  | .emptyPattern index => "rule " ++ toString (index + 1) ++ " has an empty pattern"
  | .unknownLineEnding name => "unknown line ending '" ++ name ++ "', expected 'lf' or 'crlf'"
  | .notToml => "TOML parse error"
  | .misshapen report => report

inductive Failure where
  | sourceUnavailable (path : String) (cause : IoError)
  | unreadable (path : String) (cause : IoError)
  | unwritable (path : String) (cause : IoError)
  /-- Settings from a file, a variable or all layers together are refused. -/
  | invalidSettings (origin : String) (problem : SettingsProblem)
  | io (cause : IoError)
  deriving DecidableEq, Repr

namespace Failure

def message : Failure → String
  | .sourceUnavailable path cause => "source directory unavailable: " ++ path ++ ": " ++ cause.message
  | .unreadable path cause => "cannot read " ++ path ++ ": " ++ cause.message
  | .unwritable path cause => "cannot write " ++ path ++ ": " ++ cause.message
  | .invalidSettings origin problem => "invalid configuration in " ++ origin ++ ": " ++ problem.message
  | .io cause => "IO error: " ++ cause.message

/-- Whether the failure ends the batch rather than one file. -/
def isFatal : Failure → Bool
  | .unreadable _ _ => false
  | .unwritable _ _ => false
  | _ => true

def cause? : Failure → Option IoError
  | .sourceUnavailable _ cause => some cause
  | .unreadable _ cause => some cause
  | .unwritable _ cause => some cause
  | .invalidSettings _ _ => none
  | .io cause => some cause

end Failure

end Retag
