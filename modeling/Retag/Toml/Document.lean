import Retag.Decimal.Binary64

/-!
TOML documents as trees. Every value remembers the stretch of the document that it was written in;
a table that only came up on the way to another one was written nowhere and has none.
-/

set_option autoImplicit false

namespace Retag.Toml

/-- A stretch of a document, given by how many characters are left where it starts and ends. -/
structure Span where
  leftAtStart : Nat
  leftAtEnd : Nat
  deriving DecidableEq, Repr, Inhabited

structure Key where
  name : String
  span : Span
  deriving DecidableEq, Repr

inductive Form where
  | inline
  | inlineDotted
  | header
  /-- On the way to a header below it. -/
  | implied
  | dotted
  deriving DecidableEq, Repr

namespace Form

/-- Whether the table was made by the way, so that more keys may still be added to it. -/
def isImplicit : Form → Bool
  | .inlineDotted => true
  | .implied => true
  | .dotted => true
  | _ => false

def isDotted : Form → Bool
  | .inlineDotted => true
  | .dotted => true
  | _ => false

def isInline : Form → Bool
  | .inline => true
  | .inlineDotted => true
  | _ => false

/-- Whether a path whose missing tables get the form `made` may lead through a table: braces close a
table to everything outside, and a dotted key passes only tables made by the way. -/
def passes (made form : Form) : Bool :=
  (made.isInline || !form.isInline) && (!made.isDotted || form.isImplicit)

end Form

inductive Node where
  | text (span : Span) (value : String)
  | integer (span : Span) (value : Int)
  | float (span : Span) (value : Binary64)
  | boolean (span : Span) (value : Bool)
  | moment (span : Span)
  | array (span : Span) (items : List Node)
  | table (span? : Option Span) (form : Form) (entries : List (Key × Node))
  | tables (items : List Node)
  deriving Repr

abbrev Entries := List (Key × Node)

namespace Node

def spanning? (spans : List (Option Span)) : Option Span :=
  match spans.head?.join, spans.getLast?.join with
  | some first, some last => some ⟨first.leftAtStart, last.leftAtEnd⟩
  | _, _ => none

def ownSpan? : Node → Option Span
  | .text span _ => some span
  | .integer span _ => some span
  | .float span _ => some span
  | .boolean span _ => some span
  | .moment span => some span
  | .array span _ => some span
  | .table span? _ _ => span?
  | .tables _ => none

def span? : Node → Option Span
  | .tables items => spanning? (items.map ownSpan?)
  | node => node.ownSpan?

def kind : Node → String
  | .text _ _ => "string"
  | .integer _ _ => "integer"
  | .float _ _ => "float"
  | .boolean _ _ => "boolean"
  | .moment _ => "datetime"
  | .array _ _ => "array"
  | .table _ form _ => if form.isInline then "inline table" else "table"
  | .tables _ => "array of tables"

end Node

end Retag.Toml
