import Retag.Pattern.Bracket
import Retag.Text.Alphanumeric

/-!
The form of patterns, which are regular expressions: branches of pieces, where a piece is an atom, a
class, a group or a repetition of another piece. `isPattern` tells which texts are patterns. Counted
repetitions are left out, and with them everything in braces.
-/

set_option autoImplicit false

namespace Retag.Pattern

/-- A piece as far as what follows it can ask. -/
structure Piece where
  depth : Nat
  repeatable : Bool
  deriving DecidableEq, Repr

structure Progress where
  rest : List Char
  modes : Modes
  names : List (List Char)

def branchDepth (pieces : List Piece) : Nat := nesting (pieces.map Piece.depth)

def isName : List Char → Bool
  | [] => false
  | first :: rest =>
      (first = '_' || Alphanumeric.isLetter first) &&
        rest.all fun char => ['_', '.', '[', ']'].contains char || Alphanumeric.isAlphanumeric char

inductive Opening where
  | group
  /-- Only switches, up to the end of the group around them. -/
  | switches

namespace Progress

def named? (progress : Progress) : Option Progress :=
  let name := progress.rest.takeWhile fun char => char != '>'
  match progress.rest.drop name.length with
  | '>' :: rest =>
      if isName name && !progress.names.contains name then
        some { progress with rest, names := name :: progress.names }
      else none
  | _ => none

def switched? (progress : Progress) : Option (Opening × Progress) :=
  let switches := progress.rest.takeWhile fun char => char != ':' && char != ')'
  let modes := progress.modes.switch switches
  if areSwitches switches then
    match progress.rest.drop switches.length with
    | ':' :: rest => some (.group, { progress with rest, modes })
    | ')' :: rest =>
        if switches.isEmpty then none else some (.switches, { progress with rest, modes })
    | _ => none
  else none

/-- Reads on behind an opening parenthesis. Looking around is not offered. -/
def opening? (progress : Progress) : Option (Opening × Progress) :=
  match progress.modes.skip progress.rest with
  | '?' :: '<' :: '=' :: _ => none
  | '?' :: '<' :: '!' :: _ => none
  | '?' :: 'P' :: '<' :: rest =>
      ({ progress with rest } : Progress).named?.map fun progress => (.group, progress)
  | '?' :: '<' :: rest =>
      ({ progress with rest } : Progress).named?.map fun progress => (.group, progress)
  | '?' :: rest => ({ progress with rest } : Progress).switched?
  | rest => some (.group, { progress with rest })

def single? (progress : Progress) : Option (Nat × Progress) :=
  let modes := progress.modes
  let atom (found : Atom × List Char) : Option (Nat × Progress) :=
    if modes.admits found.1 then some (0, { progress with rest := found.2 }) else none
  match progress.rest with
  | [] => none
  | '[' :: rest =>
      (modes.bracket? (2 * rest.length + 2) rest).map fun (depth, rest) =>
        (depth, { progress with rest })
  | '\\' :: rest => (modes.escape? rest).bind atom
  | '^' :: rest => atom (.edge false, rest)
  | '$' :: rest => atom (.edge false, rest)
  | '.' :: rest => if modes.ofCharacters then some (0, { progress with rest }) else none
  | char :: rest => atom (.char char false, rest)

/-- Reads branches up to a closing parenthesis or to the end, at most `fuel` pieces: behind those
branches with the given nesting, and behind those pieces, the nearest first. -/
def branches? : (fuel : Nat) → Progress → List Nat → List Piece → Option (Nat × Progress)
  | 0, _, _, _ => none
  | fuel + 1, progress, branches, pieces =>
      let progress := { progress with rest := progress.modes.skip progress.rest }
      let done := branchDepth pieces :: branches
      match progress.rest with
      | [] => some (nesting done, progress)
      | ')' :: _ => some (nesting done, progress)
      | '|' :: rest => branches? fuel { progress with rest } done []
      | '(' :: rest => do
          let (opening, inside) ← ({ progress with rest } : Progress).opening?
          match opening with
          | .switches => branches? fuel inside branches (⟨0, false⟩ :: pieces)
          | .group =>
              let (depth, inside) ← branches? fuel inside [] []
              match inside.rest with
              | ')' :: rest =>
                  branches? fuel { inside with rest, modes := progress.modes } branches
                    (⟨depth + 1, true⟩ :: pieces)
              | _ => none
      | char :: rest =>
          if char = '*' || char = '+' || char = '?' then
            match pieces with
            | ⟨depth, true⟩ :: pieces =>
                -- A question mark behind a repetition makes it take as little as it can.
                let rest := match rest with
                  | '?' :: rest => rest
                  | rest => rest
                branches? fuel { progress with rest } branches (⟨depth + 1, true⟩ :: pieces)
            | _ => none
          else if char = '\x7b' then none
          else do
            let (depth, progress) ← progress.single?
            branches? fuel progress branches (⟨depth, true⟩ :: pieces)

end Progress

def greatestDepth : Nat := 250

def isPattern (text : List Char) : Bool :=
  match Progress.branches? (text.length + 1) ⟨text, Modes.initial, []⟩ [] [] with
  | some (depth, progress) => progress.rest.isEmpty && decide (depth ≤ greatestDepth)
  | none => false

end Retag.Pattern
