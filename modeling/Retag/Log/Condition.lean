import Retag.Pattern.Form

/-!
Conditions on the fields of a record: that there is one with some name, and what its value is. The
value asked for is a truth value, a number or a pattern; only whether it is one of them matters, as
no value is ever compared.
-/

set_option autoImplicit false

namespace Retag.Log

structure FieldCondition where
  name : String
  value? : Option String
  deriving DecidableEq, Repr

/-- Whether characters are a decimal number with an exponent or without, where digits may be missing
on one side of the point. -/
def isDecimal (chars : List Char) : Bool :=
  let whole := chars.takeWhile Char.isDigit
  let (places, rest) := match chars.drop whole.length with
    | '.' :: rest => (rest.takeWhile Char.isDigit, rest.dropWhile Char.isDigit)
    | rest => ([], rest)
  let isExponent : Bool := match rest with
    | [] => true
    | 'e' :: '+' :: digits => !digits.isEmpty && digits.all Char.isDigit
    | 'e' :: '-' :: digits => !digits.isEmpty && digits.all Char.isDigit
    | 'e' :: digits => !digits.isEmpty && digits.all Char.isDigit
    | _ => false
  !(whole ++ places).isEmpty && isExponent

/-- Whether characters are a number with a plus sign, the only numbers that are no patterns. -/
def isPositiveNumber : List Char → Bool
  | '+' :: number =>
      let number := number.map Char.toLower
      isDecimal number ||
        ["inf", "infinity", "nan"].contains (String.ofList number)
  | _ => false

/-- A name, or a name and a value behind an equals sign; a second equals sign ends the value. -/
def FieldCondition.ofText? (written : String) : Option FieldCondition :=
  match written.toList.splitOn '=' with
  | name :: value :: _ =>
      if Pattern.isPattern value || isPositiveNumber value then
        some ⟨String.ofList name, some (String.ofList value)⟩
      else none
  | _ => if written.isEmpty then none else some ⟨written, none⟩

end Retag.Log
