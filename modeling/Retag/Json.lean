/-!
JSON values and their text on one line, without blanks. Fields stand in the order of the value. A
string escapes quotes, backslashes and controls, so a written value holds no line break.
-/

set_option autoImplicit false

namespace Retag

inductive Json where
  | null
  | boolean (value : Bool)
  | number (value : Nat)
  | string (value : String)
  | object (fields : List (String × Json))
  deriving Repr, Inhabited

namespace Json

def escapeChar (char : Char) : List Char :=
  if char = '"' then ['\\', '"']
  else if char = '\\' then ['\\', '\\']
  else if char = '\n' then ['\\', 'n']
  else if char = '\r' then ['\\', 'r']
  else if char = '\t' then ['\\', 't']
  else if char = '\x08' then ['\\', 'b']
  else if char = '\x0c' then ['\\', 'f']
  else if char.toNat < 32 then
    ['\\', 'u', '0', '0', Nat.digitChar (char.toNat / 16), Nat.digitChar (char.toNat % 16)]
  else [char]

def writtenString (value : String) : List Char :=
  '"' :: value.toList.flatMap escapeChar ++ ['"']

mutual

def written : Json → List Char
  | .null => "null".toList
  | .boolean value => (toString value).toList
  | .number value => (toString value).toList
  | .string value => writtenString value
  | .object fields => '\x7b' :: writtenFields fields ++ ['\x7d']

def writtenFields : List (String × Json) → List Char
  | [] => []
  | [field] => writtenField field
  | field :: next :: rest => writtenField field ++ ',' :: writtenFields (next :: rest)

def writtenField : String × Json → List Char
  | (name, value) => writtenString name ++ ':' :: written value

end

def text (value : Json) : String := String.ofList value.written

def ofOption {Value : Type} (encode : Value → Json) : Option Value → Json
  | some value => encode value
  | none => .null

end Json

end Retag
