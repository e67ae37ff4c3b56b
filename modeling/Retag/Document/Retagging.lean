import Retag.Document.Line
import Retag.Rule.Table

/-!
Retagging a whole document line by line. Every line goes through the rule table and is written with
one terminator, while a tally counts lines, changed lines, lines that are not UTF-8 and rule hits.
-/

set_option autoImplicit false

namespace Retag.Document

structure Tally where
  lines : Nat
  changedLines : Nat
  nonUtf8Lines : Nat
  ruleHits : List Nat
  deriving DecidableEq, Repr, Inhabited

def Tally.start (table : Table) : Tally := ⟨0, 0, 0, List.replicate table.length 0⟩

def Tally.addHits (counts : List Nat) (hits : List Nat) : List Nat :=
  hits.foldl (fun counts index => counts.modify index (· + 1)) counts

def Tally.add (tally : Tally) (line : Bytes) (retagged : Table.Retagged) : Tally where
  lines := tally.lines + 1
  changedLines := tally.changedLines + if retagged.bytes = line then 0 else 1
  nonUtf8Lines := tally.nonUtf8Lines + if line.chars?.isSome then 0 else 1
  ruleHits := Tally.addHits tally.ruleHits retagged.hits

def retagPiece (table : Table) (ending : LineEnding) (tally : Tally) (piece : Bytes) :
    Bytes × Tally :=
  let line := stripTerminator piece
  let retagged := table.retag line
  (retagged.bytes ++ ending.bytes, tally.add line retagged)

def retagPieces (table : Table) (ending : LineEnding) (tally : Tally) :
    List Bytes → Bytes × Tally
  | [] => ([], tally)
  | piece :: rest =>
      let (written, tally) := retagPiece table ending tally piece
      let (more, tally) := retagPieces table ending tally rest
      (written ++ more, tally)

def retag (table : Table) (ending : LineEnding) (content : Bytes) : Bytes × Tally :=
  retagPieces table ending (Tally.start table) (pieces content)

end Retag.Document
