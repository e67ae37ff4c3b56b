import Retag.Environment
import Retag.Log.Directive

/-!
Which log records are shown. A filter is a list of directives, of which the one that speaks most
closely of a record decides about it. It is written as directives with commas between them. A filter
in the environment is used if it can be read, otherwise the one that the verbosity stands for.
-/

set_option autoImplicit false

namespace Retag.Log

def writtenDefault (verbosity : Nat) : String :=
  let level := match verbosity with
    | 0 => "warn"
    | 1 => "info"
    | 2 => "debug"
    | _ => "trace"
  "doxytag=" ++ level

def directiveTexts (written : List Char) : List (List Char) :=
  (written.splitOn ',').filter (! ·.isEmpty)

abbrev Filter := List Directive

namespace Filter

/-- The filter behind a text; one unreadable directive makes all of it unreadable. -/
def ofText? (written : String) : Option Filter :=
  (directiveTexts written.toList).mapM Directive.ofText?

def choose (environment : Environment) (verbosity : Nat) : Filter :=
  match (environment.get? "RUST_LOG").bind ofText? with
  | some filter => filter
  | none => (ofText? (writtenDefault verbosity)).getD []

/-- The directive that decides about a record, the later of equals. -/
def deciding? (filter : Filter) (record : Record) : Option Directive :=
  (filter.filter fun directive => directive.covers record).foldl
    (fun best? directive =>
      match best? with
      | none => some directive
      | some best => if directive.yieldsTo best then some best else some directive)
    none

/-- Without a directive that speaks of a record, the record is not shown. -/
def shows (filter : Filter) (record : Record) : Bool :=
  match filter.deciding? record with
  | none => false
  | some directive => record.severity.rank ≤ directive.most

end Filter

end Retag.Log
