import Retag.Text.Bytes
import Retag.Text.Occurrence

/-!
A substitution rule replaces the first occurrence of its pattern in a line. It acts on texts and on
raw bytes; bytes outside the match are kept, whether or not the line is UTF-8.
-/

set_option autoImplicit false

namespace Retag

structure Rule where
  pattern : String
  replacement : String
  deriving DecidableEq, Repr, Inhabited

namespace Rule

def replaceText? (rule : Rule) (line : String) : Option String :=
  (Occurrence.replaceFirst? rule.pattern.toList rule.replacement.toList line.toList).map
    String.ofList

def replaceBytes? (rule : Rule) (line : Bytes) : Option Bytes :=
  Occurrence.replaceFirst? (Bytes.ofText rule.pattern) (Bytes.ofText rule.replacement) line

end Rule

end Retag
