import Retag.Rule.Basic

/-!
An ordered list of rules. Each rule sees the line as the rules before it left it, so a narrow
pattern in front of a wider one uses up the text that the wider one would match.
-/

set_option autoImplicit false

namespace Retag

abbrev Table := List Rule

namespace Table

/-- Tags of LPK comments and the Doxygen tags that stand for them. -/
def builtin : Table :=
  [ -- file header block
    ⟨"File:", "\\file"⟩,
    ⟨"Authors:", "\\author"⟩,
    ⟨"Last Updated:", "\\date"⟩,
    ⟨"Last Version:", "\\version"⟩,
    ⟨"Description:", "\\brief"⟩,
    ⟨"Copyright", "\\copyright"⟩,
    -- class block
    ⟨"CLASS NAME  :", "\\class"⟩,
    ⟨"DESCRIPTION :", "\\brief"⟩,
    -- function block
    ⟨"FUNCTION NAME:", "\\fn"⟩,
    ⟨"DESCRIPTION  :", "\\brief"⟩,
    ⟨"INPUTS       : None", ""⟩,
    ⟨"INPUTS       :", "\\param"⟩,
    ⟨"OUTPUTS      : None", ""⟩,
    ⟨"OUTPUTS      :", "\\return"⟩ ]

def firstEmptyPattern? (table : Table) : Option Nat :=
  table.findIdx? fun rule => rule.pattern.isEmpty

def retagText (table : Table) (line : String) : String :=
  table.foldl (fun current rule => (rule.replaceText? current).getD current) line

/-- A retagged raw line and the positions of the rules that matched, in order. -/
structure Retagged where
  bytes : Bytes
  hits : List Nat
  deriving DecidableEq, Repr

def retagFrom (index : Nat) : Table → Bytes → Retagged
  | [], line => ⟨line, []⟩
  | rule :: table, line =>
      match rule.replaceBytes? line with
      | none => retagFrom (index + 1) table line
      | some next =>
          let rest := retagFrom (index + 1) table next
          ⟨rest.bytes, index :: rest.hits⟩

def retag (table : Table) (line : Bytes) : Retagged := retagFrom 0 table line

end Table

end Retag
