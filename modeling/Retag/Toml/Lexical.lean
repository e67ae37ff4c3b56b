import Retag.Text.Character
import Retag.Toml.Document

/-!
Readers of the smallest parts of a document: blanks, line ends, comments and runs of digits. A
reader takes the characters that are left and gives what it read and what is left behind it, or
nothing when the document is not TOML there.
-/

set_option autoImplicit false

namespace Retag.Toml

abbrev Reader (Result : Type) := List Char → Option (Result × List Char)

namespace Reader

variable {Result : Type}

def withSpan (reader : Reader Result) : Reader (Result × Span) := fun input => do
  let (result, rest) ← reader input
  return ((result, ⟨input.length, rest.length⟩), rest)

def char (expected : Char) : Reader Unit
  | [] => none
  | found :: rest => if found = expected then some ((), rest) else none

def word : (expected : List Char) → Reader Unit
  | [], input => some ((), input)
  | expected :: more, input => do
      let ((), rest) ← char expected input
      word more rest

end Reader

def isBlank (char : Char) : Bool := char = ' ' || char = '\t'

def isCommentChar (char : Char) : Bool :=
  char = '\t' || (0x20 ≤ char.toNat && char.toNat ≠ 0x7F)

def skipBlanks (input : List Char) : List Char := input.dropWhile isBlank

def newline : Reader Unit
  | '\n' :: rest => some ((), rest)
  | '\r' :: '\n' :: rest => some ((), rest)
  | _ => none

def skipComment : List Char → List Char
  | '#' :: rest => rest.dropWhile isCommentChar
  | input => input

def lineEnd : Reader Unit := fun input =>
  match skipComment (skipBlanks input) with
  | [] => some ((), [])
  | rest => newline rest

/-- Skips at most `fuel` blank lines and comments up to the next other character. A comment must end
with its line. -/
def skipLinesWithin : (fuel : Nat) → List Char → Option (List Char)
  | 0, input => some input
  | fuel + 1, input =>
      match skipBlanks input with
      | '#' :: rest => do
          let ((), next) ← newline (rest.dropWhile isCommentChar)
          skipLinesWithin fuel next
      | '\n' :: rest => skipLinesWithin fuel rest
      | '\r' :: rest => do
          let ((), next) ← newline ('\r' :: rest)
          skipLinesWithin fuel next
      | rest => some rest

def skipLines (input : List Char) : Option (List Char) := skipLinesWithin (input.length + 1) input

/-- More digits of a run; single underscores may stand between two digits. -/
def digitsAfter (isDigit : Char → Bool) : List Char → Option (List Char × List Char)
  | '_' :: digit :: rest =>
      if isDigit digit then (digitsAfter isDigit rest).map fun (more, rest) => (digit :: more, rest)
      else none
  | ['_'] => none
  | digit :: rest =>
      if isDigit digit then (digitsAfter isDigit rest).map fun (more, rest) => (digit :: more, rest)
      else some ([], digit :: rest)
  | [] => some ([], [])

def digits (isDigit : Char → Bool) : Reader (List Char)
  | digit :: rest =>
      if isDigit digit then (digitsAfter isDigit rest).map fun (more, rest) => (digit :: more, rest)
      else none
  | [] => none

def decimals (count : Nat) : Reader Nat := fun input =>
  let front := input.take count
  if front.length = count ∧ front.all Char.isDigit then some (Digits.value 10 front, input.drop count)
  else none

end Retag.Toml
