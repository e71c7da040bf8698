/-!
# Doubles as exact numbers

A double is a sign and a magnitude `significand * 2 ^ exponent`, infinite, or not a number. Every
rule about number texts works on this form in exact arithmetic.
-/

namespace WarehouseImport.Number

/-- A magnitude `significand * 2 ^ exponent`. -/
structure Magnitude where
  significand : Nat
  exponent : Int
  deriving DecidableEq, Repr

/-- What a double stands for. -/
inductive Double where
  | nan
  | infinite (negative : Bool)
  | finite (negative : Bool) (magnitude : Magnitude)
  deriving DecidableEq, Repr

/-- Reads the sign, exponent and fraction fields of a double. -/
def Double.ofFloat (x : Float) : Double :=
  let bits := x.toBits.toNat
  let negative := bits / Nat.pow 2 63 == 1
  let field := bits / Nat.pow 2 52 % Nat.pow 2 11
  let fraction := bits % Nat.pow 2 52
  if field = 2047 then
    if fraction = 0 then .infinite negative else .nan
  else if field = 0 then .finite negative ⟨fraction, -1074⟩
  else .finite negative ⟨Nat.pow 2 52 + fraction, Int.ofNat field - 1075⟩

/-- The magnitude as a fraction of natural numbers. -/
def Magnitude.fraction (m : Magnitude) : Nat × Nat :=
  if 0 ≤ m.exponent then (m.significand * Nat.pow 2 m.exponent.toNat, 1)
  else (m.significand, Nat.pow 2 (-m.exponent).toNat)

/-- The whole number nearest to zero from a double, if there is one. -/
def Double.truncate? : Double → Option Int
  | .finite negative m =>
    let whole : Int := Int.ofNat (m.fraction.1 / m.fraction.2)
    some (if negative then -whole else whole)
  | _ => none

/-- Whether a double is a whole number. -/
def Double.isWhole : Double → Bool
  | .finite _ m => m.fraction.1 % m.fraction.2 == 0
  | _ => false

/-- The quotient rounded to the nearest whole number, a half to the even neighbour. -/
def roundHalfEven (numerator denominator : Nat) : Nat :=
  let quotient := numerator / denominator
  let twice := 2 * (numerator % denominator)
  if twice < denominator then quotient
  else if twice = denominator then quotient + quotient % 2
  else quotient + 1

end WarehouseImport.Number
