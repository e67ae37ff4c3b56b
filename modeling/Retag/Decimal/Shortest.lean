import Retag.Decimal.Binary64

/-!
Shortest decimal texts of binary floating point numbers. The digits are the fewest that lead back to
the number, and of those the nearest to it; the text is positional, however many zeros it takes.
-/

set_option autoImplicit false

namespace Retag.Binary64

structure Decimal where
  digits : Nat
  exponent : Int
  deriving DecidableEq, Repr

/-- Compares decimals with a number given in quarters of its last place: `grid count` and
`value quarters` are in proportion to the decimal value and to the number. -/
structure Scale where
  grid : Nat
  value : Nat

def Scale.make (binary decimal : Int) : Scale where
  grid := Nat.pow 10 decimal.toNat * Nat.pow 2 (2 - binary).toNat
  value := Nat.pow 2 (binary - 2).toNat * Nat.pow 10 (-decimal).toNat

/-- The position of a positive number's first digit: the greatest power of ten not above it. The
search starts at `decimal` and goes down `fuel` steps. -/
def firstPlace (significand : Nat) (binary : Int) : (fuel : Nat) → (decimal : Int) → Int
  | 0, decimal => decimal
  | fuel + 1, decimal =>
      let scale := Scale.make binary decimal
      if scale.grid ≤ 4 * significand * scale.value then decimal
      else firstPlace significand binary fuel (decimal - 1)

/-- The point of the grid with steps of ten to the `decimal` that leads back to the number. If two
do it is the nearer one, and the greater of equally near ones. -/
def onGrid? (significand : Nat) (binary decimal : Int) : Option Decimal :=
  let scale := Scale.make binary decimal
  let value := 4 * significand * scale.value
  let below := if significand = significandLimit / 2 ∧ leastExponent < binary then 1 else 2
  let low := (4 * significand - below) * scale.value
  let high := (4 * significand + 2) * scale.value
  let inside (count : Nat) : Bool :=
    let point := count * scale.grid
    if significand % 2 = 0 then low ≤ point && point ≤ high else low < point && point < high
  let down := value / scale.grid
  let up := down + 1
  let upNearer : Bool := decide (up * scale.grid - value ≤ value - down * scale.grid)
  match inside down, inside up with
  | true, true => some ⟨if upNearer then up else down, decimal⟩
  | true, false => some ⟨down, decimal⟩
  | false, true => some ⟨up, decimal⟩
  | false, false => none

def firstGrid (significand : Nat) (binary : Int) : (fuel : Nat) → (decimal : Int) → Decimal
  | 0, decimal => ⟨0, decimal⟩
  | fuel + 1, decimal =>
      match onGrid? significand binary decimal with
      | some found => found
      | none => firstGrid significand binary fuel (decimal - 1)

/-- The shortest decimal that leads back to a positive number; seventeen digits always do. The power
of ten above the number is tried first: a number just below it may be what it leads to. -/
def shortest (significand : Nat) (binary : Int) : Decimal :=
  firstGrid significand binary 18 (firstPlace significand binary 700 310 + 1)

def Decimal.text (decimal : Decimal) : String :=
  let digits := Nat.toDigits 10 decimal.digits
  let zeros (count : Nat) : List Char := List.replicate count '0'
  if 0 ≤ decimal.exponent then String.ofList (digits ++ zeros decimal.exponent.toNat) ++ ".0"
  else
    let places := (-decimal.exponent).toNat
    let padded := zeros (places + 1 - digits.length) ++ digits
    String.ofList (padded.take (padded.length - places)) ++ "." ++
      String.ofList (padded.drop (padded.length - places))

/-- The text of a number; a whole one keeps one zero behind the point. -/
def text : Binary64 → String
  | .nan => "NaN"
  | .infinite negative => if negative then "-inf" else "inf"
  | .finite negative significand exponent =>
      let sign := if negative then "-" else ""
      if significand = 0 then sign ++ "0.0" else sign ++ (shortest significand exponent).text

end Retag.Binary64
