/-!
Log records: what is worth telling about a run, which part tells it, and how grave it is. The text
of a record is its severity, its message and its fields in order, all of them as they are.
-/

set_option autoImplicit false

namespace Retag.Log

inductive Severity where
  | error
  | warn
  | info
  | debug
  | trace
  deriving DecidableEq, Repr

def Severity.rank : Severity → Nat
  | .error => 1
  | .warn => 2
  | .info => 3
  | .debug => 4
  | .trace => 5

def Severity.name : Severity → String
  | .error => "ERROR"
  | .warn => "WARN"
  | .info => "INFO"
  | .debug => "DEBUG"
  | .trace => "TRACE"

inductive Part where
  | settings
  | selection
  | conversion
  | batch
  deriving DecidableEq, Repr

def Part.target : Part → String
  | .settings => "doxytag::config::loader"
  | .selection => "doxytag::selector"
  | .conversion => "doxytag::rewriter"
  | .batch => "doxytag::batch"

structure Record where
  part : Part
  severity : Severity
  message : String
  fields : List (String × String)
  deriving DecidableEq, Repr

/-- The message counts as a field too. -/
def Record.fieldNames (record : Record) : List String :=
  "message" :: record.fields.map Prod.fst

def Record.text (record : Record) : String :=
  record.fields.foldl (fun text field => text ++ " " ++ field.1 ++ "=" ++ field.2)
    (record.severity.name ++ " " ++ record.message)

end Retag.Log
