import Retag.Text.CaseTable
import Retag.Text.Character

/-!
Lowercase of a text. Each character goes to its lowercase partner; only the capital sigma depends on
its neighbours, as it has a form of its own at the end of a word, and only the dotted capital I
becomes two characters.
-/

set_option autoImplicit false

namespace Retag.Letter

def isCased (char : Char) : Bool := Ranges.contains casedRanges char

def isCaseIgnorable (char : Char) : Bool := Ranges.contains caseIgnorableRanges char

def CaseRun.lower? (run : CaseRun) (char : Char) : Option Char :=
  let code := char.toNat
  if run.first ≤ code ∧ code ≤ run.last ∧ (code - run.first) % run.step = 0 then
    some (Char.ofNat (code + run.offset).toNat)
  else none

def lower (char : Char) : List Char :=
  if char.toNat = 0x130 then ['i', Char.ofNat 0x307]
  else [((caseRuns.findSome? fun run => run.lower? char)).getD char]

/-- Whether the nearest character that counts is a letter with case. -/
def meetsCased (neighbours : List Char) : Bool :=
  match neighbours.dropWhile isCaseIgnorable with
  | char :: _ => isCased char
  | [] => false

/-- Lowercase of what follows the characters `before`, nearest first. -/
def lowerAfter (before : List Char) : List Char → List Char
  | [] => []
  | char :: rest =>
      let lowered :=
        if char = 'Σ' then
          if meetsCased before && !meetsCased rest then ['ς'] else ['σ']
        else lower char
      lowered ++ lowerAfter (char :: before) rest

def lowercase (text : String) : String := String.ofList (lowerAfter [] text.toList)

end Retag.Letter
