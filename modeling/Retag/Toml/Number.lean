import Retag.Toml.Lexical

/-!
Numbers, dates and times of a document. Integers have 64 bits. A number with a fraction or an
exponent is a floating point number, and one too great to be finite is refused unless it is negative.
-/

set_option autoImplicit false

namespace Retag.Toml

/-- A number as read: integers keep their value, others the nearest floating point number. -/
inductive Number where
  | integer (value : Int)
  | float (value : Binary64)
  deriving DecidableEq, Repr

/-- A sign, if there is one: whether it is a minus, and what follows. -/
def sign : List Char → Bool × List Char
  | '+' :: rest => (false, rest)
  | '-' :: rest => (true, rest)
  | rest => (false, rest)

/-- Decimal digits without a zero in front, unless zero is all there is. -/
def plainDigits : Reader (List Char)
  | '0' :: rest => some (['0'], rest)
  | input => digits Char.isDigit input

def fraction : Reader (Option (List Char))
  | '.' :: rest => (digits Char.isDigit rest).map fun (places, rest) => (some places, rest)
  | rest => some (none, rest)

def exponent : Reader (Option Int)
  | [] => some (none, [])
  | char :: rest =>
      if char = 'e' ∨ char = 'E' then do
        let (negative, rest) := sign rest
        let (power, rest) ← digits Char.isDigit rest
        let power : Int := Digits.value 10 power
        return (some (if negative then -power else power), rest)
      else some (none, char :: rest)

def ofMagnitude? (negative : Bool) (magnitude : Nat) : Option Int :=
  let value : Int := if negative then -magnitude else magnitude
  if -(Nat.pow 2 63 : Int) ≤ value ∧ value < Nat.pow 2 63 then some value else none

def based (base : Nat) (isDigit : Char → Bool) : Reader Number := fun input => do
  let (read, rest) ← digits isDigit input
  let value ← ofMagnitude? false (Digits.value base read)
  return (.integer value, rest)

/-- An exponent of so many digits that the number is zero or infinite whatever its digits are is cut
to this. -/
def exponentBound : Int := Nat.pow 2 32

def special? : List Char → Option (Binary64 × List Char)
  | 'i' :: 'n' :: 'f' :: rest => some (.infinite false, rest)
  | 'n' :: 'a' :: 'n' :: rest => some (.nan, rest)
  | _ => none

def negate : Binary64 → Binary64
  | .infinite negative => .infinite (!negative)
  | .finite negative significand exponent => .finite (!negative) significand exponent
  | .nan => .nan

def decimalNumber : Reader Number := fun input => do
  let (negative, unsigned) := sign input
  match special? unsigned with
  | some (value, rest) => return (.float (if negative then negate value else value), rest)
  | none =>
      let (whole, rest) ← plainDigits unsigned
      let (places?, rest) ← fraction rest
      let (power?, rest) ← exponent rest
      if places?.isNone ∧ power?.isNone then
        let value ← ofMagnitude? negative (Digits.value 10 whole)
        return (.integer value, rest)
      else
        let places := places?.getD []
        let power := max (-exponentBound) (min exponentBound (power?.getD 0))
        let value := Binary64.ofDecimal negative (Digits.value 10 (whole ++ places)) (power - places.length)
        if value = .infinite false then none else return (.float value, rest)

def number : Reader Number
  | '0' :: 'x' :: rest => based 16 Digits.isHex rest
  | '0' :: 'o' :: rest => based 8 (fun char => '0' ≤ char && char ≤ '7') rest
  | '0' :: 'b' :: rest => based 2 (fun char => char = '0' || char = '1') rest
  | input => decimalNumber input

def daysInMonth (year month : Nat) : Nat :=
  if month = 2 then
    if year % 4 = 0 ∧ (year % 100 ≠ 0 ∨ year % 400 = 0) then 29 else 28
  else if month = 4 ∨ month = 6 ∨ month = 9 ∨ month = 11 then 30
  else 31

def date : Reader Unit := fun input => do
  let (year, rest) ← decimals 4 input
  let ((), rest) ← Reader.char '-' rest
  let (month, rest) ← decimals 2 rest
  let ((), rest) ← Reader.char '-' rest
  let (day, rest) ← decimals 2 rest
  if 1 ≤ month ∧ month ≤ 12 ∧ 1 ≤ day ∧ day ≤ daysInMonth year month then return ((), rest) else none

/-- Hours and minutes; the minute that would be the sixtieth is refused. -/
def hoursMinutes : Reader Unit := fun input => do
  let (hour, rest) ← decimals 2 input
  let ((), rest) ← Reader.char ':' rest
  let (minute, rest) ← decimals 2 rest
  if hour ≤ 23 ∧ minute ≤ 59 then return ((), rest) else none

/-- A time of day; a leap second is a second. -/
def time : Reader Unit := fun input => do
  let ((), rest) ← hoursMinutes input
  let ((), rest) ← Reader.char ':' rest
  let (second, rest) ← decimals 2 rest
  if 60 < second then none
  else
    match rest with
    | '.' :: places =>
        let places' := places.dropWhile Char.isDigit
        if places'.length < places.length then return ((), places') else none
    | rest => return ((), rest)

def offset : Reader Unit
  | [] => some ((), [])
  | char :: rest =>
      if char = 'Z' ∨ char = 'z' then some ((), rest)
      else if char = '+' ∨ char = '-' then hoursMinutes rest
      else some ((), char :: rest)

def timeFollows : List Char → Bool
  | separator :: first :: second :: ':' :: _ =>
      (separator = 'T' || separator = 't' || separator = ' ') && first.isDigit && second.isDigit
  | _ => false

def moment : Reader Unit := fun input =>
  match date input with
  | some ((), rest) =>
      if timeFollows rest then do
        let ((), rest) ← time (rest.drop 1)
        offset rest
      else some ((), rest)
  | none => time input

end Retag.Toml
