import Retag.Document.Line
import Retag.Text.Distance
import Retag.Text.Occurrence

/-!
Warnings about unknown keys of a settings file, each with a line and, where a known key is near, a
suggestion. A dotted key is known by its last part. The line is the first one that holds the key's
text anywhere.
-/

set_option autoImplicit false

namespace Retag.Settings

structure Warning where
  key : String
  file : String
  line? : Option Nat
  suggestion? : Option String
  deriving DecidableEq, Repr

/-- Every key that means something somewhere, in the order in which suggestions prefer them. -/
def knownKeys : List String :=
  [ "paths", "source", "output", "filter", "include", "exclude", "suffix", "line_ending", "rules",
    "pattern", "replacement" ]

def suggestionLimit : Nat := 2

def nearest (candidates : List (String × Nat)) : Option (String × Nat) :=
  candidates.foldl (fun best? candidate =>
    match best? with
    | none => some candidate
    | some best => if candidate.2 < best.2 then some candidate else some best) none

def suggest? (unknown : String) : Option String :=
  let distances := knownKeys.map fun known => (known, Edit.distance unknown.toList known.toList)
  (nearest (distances.filter fun candidate => candidate.2 ≤ suggestionLimit)).map Prod.fst

def lastPart (key : String) : String :=
  String.ofList (key.toList.reverse.takeWhile (· ≠ '.')).reverse

/-- The number, from one, of the first line that holds the key's text. -/
def lineOf? (content key : String) : Option Nat :=
  ((Document.lines (Bytes.ofText content)).findIdx? fun line =>
    Occurrence.contains (Bytes.ofText key) line).map (· + 1)

def Warning.ofKey (file content unknown : String) : Warning :=
  let key := lastPart unknown
  { key, file, line? := lineOf? content key, suggestion? := suggest? key }

end Retag.Settings
