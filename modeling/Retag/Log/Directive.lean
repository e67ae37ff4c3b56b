import Retag.Log.Condition
import Retag.Log.Record
import Retag.Text.Alphanumeric
import Retag.Text.Character
import Retag.Text.Bytes

/-!
Directives about log records, and how they are written. A directive lets records through up to a
severity; it speaks of the targets that start with some text and may ask for a field or for a span
around the record. It is written as a level alone, or as a target, then a span and a field in square
brackets, then an equals sign and a level, where the parts may be left out.
-/

set_option autoImplicit false

namespace Retag.Log

structure Directive where
  target : String
  span? : Option String
  field? : Option FieldCondition
  /-- The rank of the most detailed severity let through; zero lets nothing through. -/
  most : Nat
  deriving DecidableEq, Repr

namespace Directive

/-- Whether the directive speaks of the record. Values are asked of spans only, and no record of
this program lies in a span. -/
def covers (directive : Directive) (record : Record) : Bool :=
  directive.span?.isNone && record.part.target.startsWith directive.target &&
    match directive.field? with
    | none => true
    | some condition => condition.value?.isNone && record.fieldNames.contains condition.name

/-- Whether another directive decides rather than this one: a longer target does, and for the same
target a field, of two fields the one whose name comes later. -/
def yieldsTo (directive other : Directive) : Bool :=
  if directive.target.length = other.target.length then
    match directive.field?, other.field? with
    | none, none => false
    | none, some _ => true
    | some _, none => false
    | some condition, some stronger => decide (condition.name < stronger.name)
  else directive.target.length < other.target.length

end Directive

def numberRank? (name : String) : Option Nat :=
  let digits := match name.toList with
    | '+' :: digits => digits
    | digits => digits
  let number := Digits.value 10 digits
  if !digits.isEmpty && digits.all Char.isDigit && number ≤ Severity.trace.rank then some number
  else none

def levelRank? (name : String) : Option Nat :=
  match numberRank? name with
  | some rank => some rank
  | none =>
      [("off", 0), ("error", 1), ("warn", 2), ("info", 3), ("debug", 4), ("trace", 5)].lookup
        name.toLower

/-- A directive while it is read. Its parts are found in the `guide`, the written directive without
the blanks around it, but what they hold is taken from the same place of the `source`, the whole of
it. Blanks in front thus move the parts against what they hold. -/
structure Reading where
  guide : List Char
  source : Bytes

namespace Reading

def start (written : List Char) : Reading := ⟨Blank.trim written, Bytes.ofChars written⟩

def pass (reading : Reading) : Reading := ⟨reading.guide.drop 1, reading.source.drop 1⟩

def before? (reading : Reading) (stops : List Char) : Option (String × Reading) :=
  let front := reading.guide.takeWhile fun char => !stops.contains char
  let size := (Bytes.ofChars front).length
  (Bytes.text? (reading.source.take size)).map fun text =>
    (text, ⟨reading.guide.drop front.length, reading.source.drop size⟩)

/-- The level that ends a directive; an empty one is the most detailed. -/
def level? (reading : Reading) : Option Nat := do
  let name ← Bytes.text? reading.source
  if name.isEmpty then return Severity.trace.rank else levelRank? name

def ending? (reading : Reading) : Option Nat :=
  match reading.guide with
  | [] => some Severity.trace.rank
  | '=' :: _ => reading.pass.level?
  | _ => none

end Reading

namespace Directive

/-- A word alone is a level for all targets, or else a target at the most detailed level. -/
def ofWord (word : String) : Directive :=
  match levelRank? word with
  | some most => ⟨"", none, none, most⟩
  | none => ⟨word, none, none, Severity.trace.rank⟩

/-- Reads on behind the opening bracket. Empty brackets ask for a span without a name, an empty name
before a field asks for none. -/
def ofBrackets? (target : String) (reading : Reading) : Option Directive := do
  let (span, reading) ← reading.before? [']', '\x7b']
  match reading.guide with
  | ']' :: _ => return ⟨target, some span, none, ← reading.pass.ending?⟩
  | '\x7b' :: _ =>
      let (field, reading) ← reading.pass.before? ['\x7d']
      let condition ← FieldCondition.ofText? field
      match reading.guide with
      | '\x7d' :: ']' :: _ =>
          let span? := if span.isEmpty then none else some span
          return ⟨target, span?, some condition, ← reading.pass.pass.ending?⟩
      | _ => none
  | _ => none

def startsTarget (char : Char) : Bool :=
  Alphanumeric.isAlphanumeric char || char = '-' || char = ':' || char = '_'

def ofText? (written : List Char) : Option Directive :=
  let reading := Reading.start written
  match reading.guide with
  | [] => none
  | '[' :: _ => ofBrackets? "" reading.pass
  | first :: _ =>
      if !startsTarget first then none
      else if reading.guide.any ['=', '['].contains then do
        let (target, reading) ← reading.before? ['=', '[']
        match reading.guide with
        | '=' :: _ => return ⟨target, none, none, ← reading.pass.level?⟩
        | _ => ofBrackets? target reading.pass
      else some (ofWord (String.ofList written))

end Directive

end Retag.Log
