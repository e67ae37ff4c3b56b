import Retag.Toml.Number
import Retag.Toml.Table
import Retag.Toml.Text

/-!
Keys and values of a document. Arrays may run over several lines; a table between braces stands on
one. Both may lie within each other up to a fixed depth.
-/

set_option autoImplicit false

namespace Retag.Toml

/-- Dotted keys and nested values stay below this depth. -/
def depthLimit : Nat := 80

def isBareChar (char : Char) : Bool := char.isAlphanum || char = '-' || char = '_'

def bareKey : Reader (List Char) := fun input =>
  let name := input.takeWhile isBareChar
  if name.isEmpty then none else some (name, input.dropWhile isBareChar)

def simpleKey : Reader Key := fun input => do
  let reader : Reader (List Char) :=
    if input.head? = some '"' ∨ input.head? = some '\'' then lineText else bareKey
  let ((name, span), rest) ← Reader.withSpan reader input
  return (⟨String.ofList name, span⟩, rest)

def keyPartsWithin : (fuel : Nat) → Reader (List Key)
  | 0, _ => none
  | fuel + 1, input => do
      let (key, rest) ← simpleKey (skipBlanks input)
      match skipBlanks rest with
      | '.' :: rest =>
          let (more, rest) ← keyPartsWithin fuel rest
          return (key :: more, rest)
      | rest => return ([key], rest)

def dottedKey : Reader (List Key × Key) := fun input => do
  let (parts, rest) ← keyPartsWithin (depthLimit - 1) input
  let last ← parts.getLast?
  return ((parts.dropLast, last), rest)

/-- The items of an array behind its bracket, at most `fuel`; a comma may follow the last one. -/
def itemsWithin (value : Reader Node) : (fuel : Nat) → Reader (List Node)
  | 0, _ => none
  | fuel + 1, input => do
      let input ← skipLines input
      match input with
      | ']' :: rest => return ([], rest)
      | input =>
          let (item, rest) ← value input
          match ← skipLines rest with
          | ',' :: rest =>
              let (more, rest) ← itemsWithin value fuel rest
              return (item :: more, rest)
          | ']' :: rest => return ([item], rest)
          | _ => none

def keyValue (value : Reader Node) : Reader (List Key × Key × Node) := fun input => do
  let ((path, key), rest) ← dottedKey input
  let ((), rest) ← Reader.char '=' rest
  let (node, rest) ← value (skipBlanks rest)
  return ((path, key, node), rest)

def pairsWithin (value : Reader Node) : (fuel : Nat) → Entries → Reader Entries
  | 0, _, _ => none
  | fuel + 1, entries, input => do
      let ((path, key, node), rest) ← keyValue value input
      let entries ← entries.addAt .inlineDotted path key node .inline
      match skipBlanks rest with
      | ',' :: rest => pairsWithin value fuel entries rest
      | '\x7d' :: rest => return (entries, rest)
      | _ => none

def inlineTable (value : Reader Node) : Reader Entries := fun input =>
  match skipBlanks input with
  | '\x7d' :: rest => some ([], rest)
  | input => pairsWithin value (input.length + 1) [] input

def scalar : Reader Node := fun input => do
  match input with
  | 't' :: _ =>
      let (((), span), rest) ← Reader.withSpan (Reader.word "true".toList) input
      return (.boolean span true, rest)
  | 'f' :: _ =>
      let (((), span), rest) ← Reader.withSpan (Reader.word "false".toList) input
      return (.boolean span false, rest)
  | '"' :: _ | '\'' :: _ =>
      let ((value, span), rest) ← Reader.withSpan quotedText input
      return (.text span (String.ofList value), rest)
  | _ =>
      match Reader.withSpan moment input with
      | some (((), span), rest) => return (.moment span, rest)
      | none =>
          let ((value, span), rest) ← Reader.withSpan number input
          match value with
          | .integer value => return (.integer span value, rest)
          | .float value => return (.float span value, rest)

/-- A value with at most `depth` arrays and tables within each other. -/
def value : (depth : Nat) → Reader Node
  | 0 => scalar
  | depth + 1 => fun input =>
      match input with
      | '[' :: rest => do
          let (items, rest) ← itemsWithin (value depth) (rest.length + 1) rest
          return (.array ⟨input.length, rest.length⟩ items, rest)
      | '\x7b' :: rest => do
          let (entries, rest) ← inlineTable (value depth) rest
          return (.table (some ⟨input.length, rest.length⟩) .inline entries, rest)
      | input => scalar input

end Retag.Toml
