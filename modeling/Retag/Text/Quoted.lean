import Retag.Text.HiddenTable
import Retag.Text.Character

/-!
Quoted texts: a text in double quotes on one line. Quotes and backslashes get a backslash, common
controls their letter, and every other character without a visible form its number in hex.
-/

set_option autoImplicit false

namespace Retag.Quoted

def isHidden (char : Char) : Bool := Ranges.contains hiddenRanges char

def hexDigits (code : Nat) : List Char := Nat.toDigits 16 code

def encodeChar (char : Char) : List Char :=
  if char = '\x00' then ['\\', '0']
  else if char = '\t' then ['\\', 't']
  else if char = '\r' then ['\\', 'r']
  else if char = '\n' then ['\\', 'n']
  else if char = '\\' then ['\\', '\\']
  else if char = '"' then ['\\', '"']
  else if isHidden char then "\\u\x7b".toList ++ hexDigits char.toNat ++ "\x7d".toList
  else [char]

def encode (text : String) : String :=
  "\"" ++ String.ofList (text.toList.flatMap encodeChar) ++ "\""

end Retag.Quoted
