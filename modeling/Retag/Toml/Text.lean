import Retag.Toml.Lexical

/-!
Quoted texts of a document: basic ones with escapes and literal ones without, each on one line or on
several. Line ends inside a text of several lines are read as line feeds.
-/

set_option autoImplicit false

namespace Retag.Toml

def isTextChar (char : Char) : Bool := isCommentChar char

def numberedChar (count : Nat) : Reader Char := fun input =>
  let front := input.take count
  let code := Digits.value 16 front
  if front.length = count ∧ front.all Digits.isHex ∧ code.isValidChar then
    some (Char.ofNat code, input.drop count)
  else none

def escape : Reader Char
  | 'b' :: rest => some ('\x08', rest)
  | 't' :: rest => some ('\t', rest)
  | 'n' :: rest => some ('\n', rest)
  | 'f' :: rest => some ('\x0c', rest)
  | 'r' :: rest => some ('\r', rest)
  | '"' :: rest => some ('"', rest)
  | '\\' :: rest => some ('\\', rest)
  | 'u' :: rest => numberedChar 4 rest
  | 'U' :: rest => numberedChar 8 rest
  | _ => none

def basicWithin : (fuel : Nat) → Reader (List Char)
  | 0, _ => none
  | _ + 1, [] => none
  | fuel + 1, char :: rest =>
      if char = '"' then some ([], rest)
      else if char = '\\' then do
        let (escaped, rest) ← escape rest
        let (more, rest) ← basicWithin fuel rest
        return (escaped :: more, rest)
      else if isTextChar char then do
        let (more, rest) ← basicWithin fuel rest
        return (char :: more, rest)
      else none

def literalRest : Reader (List Char)
  | [] => none
  | char :: rest =>
      if char = '\'' then some ([], rest)
      else if isTextChar char then (literalRest rest).map fun (more, rest) => (char :: more, rest)
      else none

/-- How a run of quotes goes on a text of several lines: one or two belong to it, three end it, and
one or two more in front of those belong to it still. -/
def closing (quote : Char) (input : List Char) : Option (Nat × List Char) :=
  let run := (input.takeWhile (· = quote)).length
  if run < 3 then none
  else
    let kept := min (run - 3) 2
    some (kept, input.drop (kept + 3))

def endsLine (input : List Char) : Bool := (newline (skipBlanks input)).isSome

/-- Behind a backslash at the end of a line: everything up to the next visible character. -/
def skipWhite : List Char → List Char
  | '\r' :: '\n' :: rest => skipWhite rest
  | char :: rest => if isBlank char || char = '\n' then skipWhite rest else char :: rest
  | [] => []

def basicLinesWithin : (fuel : Nat) → Reader (List Char)
  | 0, _ => none
  | _ + 1, [] => none
  | fuel + 1, char :: rest =>
      if char = '"' then
        match closing '"' (char :: rest) with
        | some (kept, rest) => some (List.replicate kept '"', rest)
        | none => (basicLinesWithin fuel rest).map fun (more, rest) => (char :: more, rest)
      else if char = '\\' then
        if endsLine rest then basicLinesWithin fuel (skipWhite rest)
        else do
          let (escaped, rest) ← escape rest
          let (more, rest) ← basicLinesWithin fuel rest
          return (escaped :: more, rest)
      else if isTextChar char then
        (basicLinesWithin fuel rest).map fun (more, rest) => (char :: more, rest)
      else do
        let ((), rest) ← newline (char :: rest)
        let (more, rest) ← basicLinesWithin fuel rest
        return ('\n' :: more, rest)

def literalLinesWithin : (fuel : Nat) → Reader (List Char)
  | 0, _ => none
  | _ + 1, [] => none
  | fuel + 1, char :: rest =>
      if char = '\'' then
        match closing '\'' (char :: rest) with
        | some (kept, rest) => some (List.replicate kept '\'', rest)
        | none => (literalLinesWithin fuel rest).map fun (more, rest) => (char :: more, rest)
      else if isTextChar char then
        (literalLinesWithin fuel rest).map fun (more, rest) => (char :: more, rest)
      else do
        let ((), rest) ← newline (char :: rest)
        let (more, rest) ← literalLinesWithin fuel rest
        return ('\n' :: more, rest)

/-- A line end right behind the opening quotes is not part of the text. -/
def skipFirstNewline (input : List Char) : List Char :=
  match newline input with
  | some ((), rest) => rest
  | none => input

def lineText : Reader (List Char)
  | '"' :: rest => basicWithin (rest.length + 1) rest
  | '\'' :: rest => literalRest rest
  | _ => none

def quotedText : Reader (List Char)
  | '"' :: '"' :: '"' :: rest =>
      let body := skipFirstNewline rest
      basicLinesWithin (body.length + 1) body
  | '\'' :: '\'' :: '\'' :: rest =>
      let body := skipFirstNewline rest
      literalLinesWithin (body.length + 1) body
  | input => lineText input

end Retag.Toml
