import Retag.Settings.Environment
import Retag.Settings.ShapeError

/-!
Settings from a TOML document. A section is a table of its fields or an array of them in order, and a
rule likewise; a missing field keeps its default, except a rule's pattern. Keys that no section knows
are passed over, whatever stands below them, and collected apart.
-/

set_option autoImplicit false

namespace Retag.Settings

open Toml (Node Key Entries)

abbrev Decoded (Result : Type) := Except ShapeError Result

variable {Section : Type}

/-- One field of a section: its key and what a value of it changes. -/
structure Field (Section : Type) where
  key : String
  accept : Node → Section → Decoded Section

/-- A field's value; an error without a place is placed at the value or else at its key. -/
def Field.acceptAt (field : Field Section) (span? : Option Toml.Span) (node : Node)
    (state : Section) : Decoded Section :=
  (field.accept node state).mapError (·.within (node.span? <|> span?))

def acceptEntries (fields : List (Field Section)) : Entries → Section → Decoded Section
  | [], state => .ok state
  | (key, node) :: rest, state =>
      match fields.find? fun field => field.key = key.name with
      | none => acceptEntries fields rest state
      | some field =>
          match field.acceptAt (some key.span) node state with
          | .error error => .error error
          | .ok state => acceptEntries fields rest state

/-- The items of a section's array, one for each field; more are passed over. -/
def acceptItems : List (Field Section) → List Node → Section → Decoded Section
  | field :: fields, item :: items, state =>
      match field.acceptAt none item state with
      | .error error => .error error
      | .ok state => acceptItems fields items state
  | _, _, state => .ok state

/-- A section in either form. A date or time counts as a table without known keys. -/
def acceptSection (name : String) (fields : List (Field Section)) (state : Section) (node : Node) :
    Decoded Section :=
  Except.mapError (·.within node.span?) <|
    match node with
    | .table _ _ entries => acceptEntries fields entries state
    | .array _ items => acceptItems fields items state
    | .tables items => acceptItems fields items state
    | .moment _ => .ok state
    | other => .error (.wrongKind other ("struct " ++ name))

def decodeText (expected : String) : Node → Decoded String
  | .text _ value => .ok value
  | other => .error (.wrongKind other expected)

def textField (key expected : String) (change : String → Section → Section) : Field Section where
  key
  accept node state := (decodeText expected node).map fun value => change value state

def decodeUnit : Node → Decoded Unit
  | .table span? _ entries => if entries.isEmpty then .ok () else .error ⟨.tableNotEmpty, span?⟩
  | .array span items => if items.isEmpty then .ok () else .error ⟨.tableNotEmpty, some span⟩
  | .tables items =>
      if items.isEmpty then .ok () else .error ⟨.tablesNotEmpty, (Node.tables items).span?⟩
  | other => .error ⟨.wantedTable other.kind, other.span?⟩

def decodeEndingName (name : String) (span : Toml.Span) : Decoded LineEnding :=
  match LineEnding.ofName? name with
  | some ending => .ok ending
  | none => .error ⟨.unknownLineEnding name, some span⟩

/-- A line ending: its name, or a table with the name as its only key. -/
def decodeLineEnding : Node → Decoded LineEnding
  | .text span name => decodeEndingName name span
  | .table span? _ [] => .error ⟨.noKey, span?⟩
  | .table span? _ [(key, node)] => do
      let ending ← decodeEndingName key.name key.span
      (decodeUnit node).mapError (·.within span?)
      return ending
  | .table span? _ _ => .error ⟨.severalKeys, span?⟩
  | other => .error ⟨.wantedTextOrTable, other.span?⟩

def pathsFields : List (Field Settings) :=
  [ textField "source" "path string" fun value settings => { settings with source := some value },
    textField "output" "path string" fun value settings => { settings with output := value } ]

def filterFields : List (Field Settings) :=
  [ textField "include" "a string" fun value settings => { settings with includes := value },
    textField "exclude" "a string" fun value settings => { settings with excludes := value } ]

def outputFields : List (Field Settings) :=
  [ textField "suffix" "a string" fun value settings => { settings with suffix := value },
    { key := "line_ending"
      accept node settings := (decodeLineEnding node).map fun lineEnding =>
        { settings with lineEnding } } ]

structure PartialRule where
  pattern? : Option String := none
  replacement : String := ""

def ruleFields : List (Field PartialRule) :=
  [ textField "pattern" "a string" fun value rule => { rule with pattern? := some value },
    textField "replacement" "a string" fun value rule => { rule with replacement := value } ]

def decodeRule (node : Node) : Decoded Rule := do
  let rule ← acceptSection "SubstitutionRule" ruleFields {} node
  match rule.pattern? with
  | some pattern => return ⟨pattern, rule.replacement⟩
  | none =>
      let misfit := match node with
        | .array _ _ => Misfit.emptyRule
        | .tables _ => .emptyRule
        | _ => .missingPattern
      throw ⟨misfit, node.span?⟩

def decodeRules (node : Node) : Decoded (List Rule) :=
  match node with
  | .array _ items => (items.mapM decodeRule).mapError (·.within node.span?)
  | .tables items => (items.mapM decodeRule).mapError (·.within node.span?)
  | other => .error (.wrongKind other "a sequence")

def topFields : List (Field Settings) :=
  [ { key := "paths"
      accept node settings := acceptSection "PathsConfig" pathsFields settings node },
    { key := "filter"
      accept node settings := acceptSection "FilterConfig" filterFields settings node },
    { key := "output"
      accept node settings := acceptSection "OutputConfig" outputFields settings node },
    { key := "rules"
      accept node settings := (decodeRules node).map fun rules => { settings with rules } } ]

def decode (document : Entries) : Decoded Settings := acceptEntries topFields document {}

/-- The key that a date or time shows when it is read as a table. -/
def momentKey : String := "$__toml_private_datetime"

def unknownInSection (fields : List (Field Section)) : Node → List String
  | .table _ _ entries =>
      (entries.filter fun entry => !fields.any fun field => field.key = entry.1.name).map fun entry =>
        entry.1.name
  | .moment _ => [momentKey]
  | _ => []

def unknownInRules : Node → List String
  | .array _ items => items.flatMap (unknownInSection ruleFields)
  | .tables items => items.flatMap (unknownInSection ruleFields)
  | _ => []

/-- Keys of a document that mean nothing, in the order in which they stand; keys below one of them
are not listed. -/
def unknownKeys (document : Entries) : List String :=
  document.flatMap fun (key, node) =>
    match key.name with
    | "paths" => unknownInSection pathsFields node
    | "filter" => unknownInSection filterFields node
    | "output" => unknownInSection outputFields node
    | "rules" => unknownInRules node
    | other => [other]

end Retag.Settings
