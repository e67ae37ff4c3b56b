import Retag.Pattern.Atom

/-!
Classes of characters in brackets: members beside each other, ranges, further classes, and
operations between such sets. Reading one gives how deep it is nested.
-/

set_option autoImplicit false

namespace Retag.Pattern

/-- How deep parts beside each other are nested. One alone adds nothing. -/
def nesting : List Nat → Nat
  | [] => 0
  | [depth] => depth
  | depths => depths.foldl max 0 + 1

/-- How deep a set is nested, the second of an operation if another stands in front. -/
def operated (left? : Option Nat) (right : Nat) : Nat :=
  match left? with
  | none => right
  | some left => max left right + 1

def kindNames : List String :=
  ["alnum", "alpha", "ascii", "blank", "cntrl", "digit", "graph", "lower", "print", "punct",
    "space", "upper", "word", "xdigit"]

def kind? : List Char → Option (Bool × List Char)
  | ':' :: rest =>
      let (negated, rest) := match rest with
        | '^' :: rest => (true, rest)
        | rest => (false, rest)
      let name := rest.takeWhile fun char => char != ':'
      match rest.drop name.length with
      | ':' :: ']' :: rest =>
          if kindNames.contains (String.ofList name) then some (negated, rest) else none
      | _ => none
  | _ => none

namespace Modes

/-- Whether a class may be negated. Of bytes this would take characters apart. -/
def admitsNegation (modes : Modes) (negated : Bool) : Bool := modes.ofCharacters || !negated

def admitsMember (modes : Modes) (char : Char) : Bool :=
  if modes.ofCharacters then !modes.anyCase else char.toNat < 128

def admitsKind (modes : Modes) (negated : Bool) : Bool :=
  modes.admitsNegation negated && !(modes.ofCharacters && modes.anyCase)

/-- An atom in a class, where only the backslash has a meaning of its own. -/
def classAtom? (modes : Modes) : List Char → Option (Atom × List Char)
  | '\\' :: rest => modes.escape? rest
  | char :: rest => some (.char char false, rest)
  | [] => none

def admitsAlone (modes : Modes) : Atom → Bool
  | .char char _ => modes.admitsMember char
  | .shorthand negated => modes.admits (.shorthand negated)
  | .edge _ => false

def admitsRange (modes : Modes) : Atom → Atom → Bool
  | .char first _, .char last _ =>
      first ≤ last && modes.admitsMember first && modes.admitsMember last
  | _, _ => false

/-- Reads a member: a range, or an atom alone, also where a minus sign in front of another one or of
the closing bracket follows. -/
def member? (modes : Modes) (rest : List Char) : Option (List Char) := do
  let (first, rest) ← modes.classAtom? rest
  let rest := modes.skip rest
  let alone := if modes.admitsAlone first then some rest else none
  match rest with
  | [] => none
  | '-' :: behind =>
      if [some ']', some '-'].contains (modes.glance behind) then alone
      else do
        let (last, rest) ← modes.classAtom? (modes.skip behind)
        if modes.admitsRange first last then some rest else none
  | _ => alone

def leadingMinus (modes : Modes) : (fuel : Nat) → (count : Nat) → List Char → Nat × List Char
  | 0, count, rest => (count, rest)
  | fuel + 1, count, rest =>
      match rest with
      | '-' :: rest => modes.leadingMinus fuel (count + 1) (modes.skip rest)
      | rest => (count, rest)

/-- The start of a class, behind its bracket, with the nesting of the members found there. A closing
bracket that comes first stands for itself. -/
def classStart? (modes : Modes) (rest : List Char) : Option (List Nat × List Char) :=
  let rest := modes.skip rest
  let (negated, rest) := match rest with
    | '^' :: rest => (true, modes.skip rest)
    | rest => (false, rest)
  let (count, rest) := modes.leadingMinus rest.length 0 rest
  let (count, rest) := match count, rest with
    | 0, ']' :: rest => (1, modes.skip rest)
    | count, rest => (count, rest)
  if modes.admitsNegation negated && (count = 0 || modes.admitsMember '-') then
    some (List.replicate count 0, rest)
  else none

mutual

def bracket? (modes : Modes) : (fuel : Nat) → List Char → Option (Nat × List Char)
  | 0, _ => none
  | fuel + 1, rest => do
      let (depths, rest) ← modes.classStart? rest
      let (depth, rest) ← modes.members? fuel depths none rest
      return (depth + 1, rest)

/-- Reads the members of a class to its end, behind those with the given nesting and behind the left
side of an operation. -/
def members? (modes : Modes) :
    (fuel : Nat) → List Nat → Option Nat → List Char → Option (Nat × List Char)
  | 0, _, _, _ => none
  | fuel + 1, depths, left?, rest =>
      let set := operated left? (nesting depths)
      match modes.skip rest with
      | [] => none
      | ']' :: rest => some (set, rest)
      | '[' :: rest =>
          match kind? rest with
          | some (negated, rest) =>
              if modes.admitsKind negated then modes.members? fuel (0 :: depths) left? rest
              else none
          | none => do
              let (depth, rest) ← modes.bracket? fuel rest
              modes.members? fuel (depth :: depths) left? rest
      | '&' :: '&' :: rest => modes.members? fuel [] (some set) rest
      | '-' :: '-' :: rest => modes.members? fuel [] (some set) rest
      | '~' :: '~' :: rest => modes.members? fuel [] (some set) rest
      | rest => do
          let rest ← modes.member? rest
          modes.members? fuel (0 :: depths) left? rest

end

end Modes

end Retag.Pattern
