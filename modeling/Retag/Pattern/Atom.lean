import Retag.Pattern.Mode
import Retag.Text.Character

/-!
Atoms of a pattern: single characters, written as themselves, behind a backslash or by number, and
what else a backslash starts. Tables of letter case and of kinds of characters are not at hand, so
an atom that needs them stands only where the pattern speaks of bytes; there in turn it must not
take a character apart.
-/

set_option autoImplicit false

namespace Retag.Pattern

inductive Atom where
  /-- One character, which a number of two digits gives as a byte. -/
  | char (char : Char) (asByte : Bool)
  | shorthand (negated : Bool)
  /-- A place between characters, such as the end of a word. -/
  | edge (ofWord : Bool)
  deriving DecidableEq, Repr

def Modes.hexNumber? (modes : Modes) :
    (count number : Nat) → List Char → Option (Nat × List Char)
  | 0, number, rest => some (number, rest)
  | count + 1, number, rest =>
      match modes.skip rest with
      | digit :: rest =>
          if Digits.isHex digit then
            modes.hexNumber? count (16 * number + Digits.digitValue digit) rest
          else none
      | [] => none

def Modes.numbered? (modes : Modes) (count : Nat) (rest : List Char) :
    Option (Atom × List Char) := do
  let (number, rest) ← modes.hexNumber? count 0 rest
  if number.isValidChar then some (.char (Char.ofNat number) (count == 2), rest) else none

/-- What a letter behind a backslash stands for, numbers aside. Named kinds of characters are not
offered. -/
def Atom.ofLetter? : Char → Option Atom
  | 'a' => some (.char '\x07' false)
  | 'f' => some (.char '\x0c' false)
  | 't' => some (.char '\t' false)
  | 'n' => some (.char '\n' false)
  | 'r' => some (.char '\r' false)
  | 'v' => some (.char '\x0b' false)
  | 'd' => some (.shorthand false)
  | 's' => some (.shorthand false)
  | 'w' => some (.shorthand false)
  | 'D' => some (.shorthand true)
  | 'S' => some (.shorthand true)
  | 'W' => some (.shorthand true)
  | 'A' => some (.edge false)
  | 'z' => some (.edge false)
  | 'b' => some (.edge true)
  | 'B' => some (.edge true)
  | '<' => some (.edge true)
  | '>' => some (.edge true)
  | _ => none

/-- What follows a backslash. Other punctuation and controls stand for themselves there. -/
def Modes.escape? (modes : Modes) : List Char → Option (Atom × List Char)
  | 'x' :: rest => modes.numbered? 2 rest
  | 'u' :: rest => modes.numbered? 4 rest
  | 'U' :: rest => modes.numbered? 8 rest
  | char :: rest =>
      match Atom.ofLetter? char with
      | some atom => some (atom, rest)
      | none =>
          if char.isAlphanum || 128 ≤ char.toNat then none else some (.char char false, rest)
  | [] => none

def Modes.admits (modes : Modes) : Atom → Bool
  | .char char asByte =>
      if modes.ofCharacters then !modes.anyCase else char.toNat < 128 || !asByte
  | .shorthand negated => !modes.ofCharacters && !negated
  | .edge ofWord => !(ofWord && modes.ofCharacters)

end Retag.Pattern
