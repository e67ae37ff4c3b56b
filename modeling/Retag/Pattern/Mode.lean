import Retag.Text.Character

/-!
Modes of a pattern, under which the same characters are read in another way. A list of switches
turns modes on, and off those whose letters stand behind a minus sign.
-/

set_option autoImplicit false

namespace Retag.Pattern

structure Modes where
  /-- Letters stand for both of their cases. -/
  anyCase : Bool
  /-- A pattern speaks of characters, otherwise of bytes. -/
  ofCharacters : Bool
  spaced : Bool
  deriving DecidableEq, Repr

def Modes.initial : Modes := ⟨false, true, false⟩

/-- Whether switches are well written: known letters and at most one minus sign, none of them twice,
and something behind the minus sign. -/
def areSwitches (switches : List Char) : Bool :=
  switches.all (fun switch => ['i', 'm', 's', 'U', 'u', 'R', 'x', '-'].contains switch) &&
    decide switches.Nodup && switches.getLast? != some '-'

def switched (switches : List Char) (letter : Char) (before : Bool) : Bool :=
  if switches.contains letter then (switches.takeWhile fun switch => switch != '-').contains letter
  else before

namespace Modes

def switch (modes : Modes) (switches : List Char) : Modes where
  anyCase := switched switches 'i' modes.anyCase
  ofCharacters := switched switches 'u' modes.ofCharacters
  spaced := switched switches 'x' modes.spaced

def skipSpaced : (inComment : Bool) → List Char → List Char
  | _, [] => []
  | true, char :: rest => skipSpaced (char != '\n') rest
  | false, char :: rest =>
      if Blank.isBlank char then skipSpaced false rest
      else if char = '#' then skipSpaced true rest
      else char :: rest

def skip (modes : Modes) (rest : List Char) : List Char :=
  if modes.spaced then skipSpaced false rest else rest

/-- The character that seems to count next. Of a comment this sees only the sign that starts it. -/
def glance (modes : Modes) (rest : List Char) : Option Char :=
  if modes.spaced then
    let behind := match rest.dropWhile Blank.isBlank with
      | '#' :: comment => comment.dropWhile Blank.isBlank
      | behind => behind
    behind.head? <|> rest.head?
  else rest.head?

end Modes

end Retag.Pattern
