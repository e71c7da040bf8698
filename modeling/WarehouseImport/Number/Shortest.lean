import WarehouseImport.Number.Double

/-!
# Shortest decimals

The decimal of a double is the one with the fewest digits that reads back as the double, and of
those the nearest. Digits are searched grid by grid: on the grid of `n` significant digits only
the two neighbours of the value can lie in the interval that rounds to it.
-/

namespace WarehouseImport.Number

/-- A decimal `digits * 10 ^ exponent`. -/
structure Decimal where
  digits : Nat
  exponent : Int
  deriving DecidableEq, Repr

/-- The number of decimal digits of a number, 0 for zero. -/
def digitCount (n : Nat) : Nat := if n = 0 then 0 else (Nat.toDigits 10 n).length

/-- The least number of tenfold steps that lift a fraction to one, searched within the fuel. -/
def stepsToOne : Nat → Nat → Nat → Nat
  | 0, _, _ => 0
  | fuel + 1, numerator, denominator =>
    if denominator ≤ numerator then 0 else 1 + stepsToOne fuel (10 * numerator) denominator

/-- The exponent `k` with `10 ^ (k - 1) ≤ numerator / denominator < 10 ^ k`. -/
def decimalPlace (numerator denominator : Nat) : Int :=
  if denominator ≤ numerator then digitCount (numerator / denominator)
  else 1 - (stepsToOne 400 numerator denominator : Int)

/-- The interval of values that round to a positive double, and the value itself, as numerators
over one denominator; the ends belong to it when the significand is even. -/
structure RoundingInterval where
  low : Nat
  value : Nat
  high : Nat
  denominator : Nat
  closed : Bool

/-- The interval of values that round to a magnitude. Below a power of two the gap is half as
wide. -/
def Magnitude.interval (m : Magnitude) : RoundingInterval :=
  let quarter : Nat := if m.significand = Nat.pow 2 52 && m.exponent ≠ -1074 then 1 else 2
  let scale := (Magnitude.mk 1 (m.exponent - 2)).fraction
  { low := (4 * m.significand - quarter) * scale.1
    value := 4 * m.significand * scale.1
    high := (4 * m.significand + 2) * scale.1
    denominator := scale.2
    closed := m.significand % 2 == 0 }

/-- Whether `count * step / unit` lies in the interval. -/
def RoundingInterval.holds (i : RoundingInterval) (count step unit : Nat) : Bool :=
  let point := count * step * i.denominator
  if i.closed then i.low * unit ≤ point && point ≤ i.high * unit
  else i.low * unit < point && point < i.high * unit

/-- The neighbour of the value on the grid of multiples of `10 ^ exponent` that lies in the
interval, the nearer if both do and the even one at equal distance. -/
def RoundingInterval.onGrid? (i : RoundingInterval) (exponent : Int) : Option Decimal :=
  let step := Nat.pow 10 exponent.toNat
  let unit := Nat.pow 10 (-exponent).toNat
  let below := i.value * unit / (step * i.denominator)
  let distanceBelow := i.value * unit - below * step * i.denominator
  let distanceAbove := (below + 1) * step * i.denominator - i.value * unit
  match i.holds below step unit, i.holds (below + 1) step unit with
  | true, true =>
    let takeBelow := distanceBelow < distanceAbove ||
      (distanceBelow == distanceAbove && below % 2 == 0)
    some ⟨if takeBelow then below else below + 1, exponent⟩
  | true, false => some ⟨below, exponent⟩
  | false, true => some ⟨below + 1, exponent⟩
  | false, false => none

/-- The shortest decimal of a magnitude; seventeen digits always suffice. -/
def Magnitude.shortest (m : Magnitude) : Decimal :=
  if m.significand = 0 then ⟨0, 0⟩
  else
    let interval := m.interval
    let place := decimalPlace interval.value interval.denominator
    let grids := (List.range 17).map fun n => place - 1 - Int.ofNat n
    (grids.findSome? interval.onGrid?).getD ⟨0, 0⟩

/-- The significant digits of a decimal without zeros at the end, and the place of the point
counted from the first digit; zero has the one digit 0 with the point behind it. -/
def Decimal.significant (d : Decimal) : List Char × Int :=
  if d.digits = 0 then (['0'], 1)
  else
    let digits := Nat.toDigits 10 d.digits
    let kept := (digits.reverse.dropWhile (· == '0')).reverse
    (kept, (digits.length : Int) + d.exponent)

end WarehouseImport.Number
