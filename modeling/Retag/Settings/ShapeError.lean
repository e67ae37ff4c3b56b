import Retag.Text.Quoted
import Retag.Decimal.Shortest
import Retag.Toml.Document

/-!
Values of a wrong shape in a settings document, and the report that shows where one stands: its line,
with the value underlined as far as it stands on that line.
-/

set_option autoImplicit false

namespace Retag

inductive Misfit where
  | kind (found expected : String)
  | missingPattern
  | emptyRule
  | unknownLineEnding (name : String)
  | wantedTextOrTable
  | noKey
  | severalKeys
  | wantedTable (found : String)
  | tableNotEmpty
  | tablesNotEmpty
  deriving DecidableEq, Repr

def Misfit.message : Misfit → String
  | .kind found expected => "invalid type: " ++ found ++ ", expected " ++ expected
  | .missingPattern => "missing field `pattern`"
  | .emptyRule => "invalid length 0, expected struct SubstitutionRule with 2 elements"
  | .unknownLineEnding name => "unknown variant `" ++ name ++ "`, expected `lf` or `crlf`"
  | .wantedTextOrTable => "wanted string or table"
  | .noKey => "wanted exactly 1 element, found 0 elements"
  | .severalKeys => "wanted exactly 1 element, more than 1 element"
  | .wantedTable found => "expected table, found " ++ found
  | .tableNotEmpty => "expected empty table"
  | .tablesNotEmpty => "expected empty array"

def Toml.Node.shown : Toml.Node → String
  | .text _ value => "string " ++ Quoted.encode value
  | .integer _ value => "integer `" ++ toString value ++ "`"
  | .float _ value => "floating point `" ++ value.text ++ "`"
  | .boolean _ value => "boolean `" ++ toString value ++ "`"
  | .moment _ => "map"
  | .array _ _ => "sequence"
  | .table _ _ _ => "map"
  | .tables _ => "sequence"

structure ShapeError where
  misfit : Misfit
  /-- Where the value stands, as far as it is known yet. -/
  span? : Option Toml.Span
  deriving DecidableEq, Repr

namespace ShapeError

/-- The error inside something larger, which stands for it when its own place is not known. -/
def within (span? : Option Toml.Span) (error : ShapeError) : ShapeError :=
  { error with span? := error.span? <|> span? }

def wrongKind (node : Toml.Node) (expected : String) : ShapeError :=
  ⟨.kind node.shown expected, node.span?⟩

def byteLength (chars : List Char) : Nat := (String.ofList chars).utf8ByteSize

def lineSoFar (before : List Char) : List Char :=
  (before.reverse.takeWhile (· ≠ '\n')).reverse

/-- The position of a span and its line in a document, with the span underlined. -/
def excerpt (document : List Char) (span : Toml.Span) : String :=
  let start := document.length - span.leftAtStart
  let before := document.take start
  let behind := document.drop start
  let width := byteLength (behind.take (span.leftAtStart - span.leftAtEnd))
  let soFar := lineSoFar before
  let line := soFar ++ behind.takeWhile (· ≠ '\n')
  let number := toString (before.count '\n' + 1)
  let column := soFar.length
  let margin := String.ofList (List.replicate (number.length + 1) ' ') ++ "|"
  let underlined := max 1 (min width (byteLength line - column))
  "TOML parse error at line " ++ number ++ ", column " ++ toString (column + 1) ++ "\n" ++
    margin ++ "\n" ++
    number ++ " | " ++ String.ofList line ++ "\n" ++
    margin ++ String.ofList (List.replicate (column + 1) ' ' ++ List.replicate underlined '^') ++ "\n"

def report (document : String) (error : ShapeError) : String :=
  let place := match error.span? with
    | some span => excerpt document.toList span
    | none => ""
  place ++ error.misfit.message ++ "\n"

end ShapeError

end Retag
