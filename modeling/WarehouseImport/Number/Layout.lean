import WarehouseImport.Number.Shortest

/-!
# Layouts of doubles

A layout says which decimals are written positionally, how an exponent is written, and how the
special values read. `Layout.document` is the layout of numbers in documents and `Layout.shown`
that of numbers shown in messages.
-/

namespace WarehouseImport.Number

/-- How doubles are written. The point of a positional number stands within the given bounds,
counted from the first significant digit. -/
structure Layout where
  leastPoint : Int
  greatestPoint : Int
  exponentWidth : Nat
  nan : String
  infinity : String
  negativeInfinity : String

/-- Numbers in documents: positional from 1e-5 up to below 1e16, a bare exponent otherwise. -/
def Layout.document : Layout where
  leastPoint := -4
  greatestPoint := 16
  exponentWidth := 1
  nan := "null"
  infinity := "null"
  negativeInfinity := "null"

/-- Numbers in messages: positional from 1e-4 up to below 1e16, two exponent digits otherwise. -/
def Layout.shown : Layout where
  leastPoint := -3
  greatestPoint := 16
  exponentWidth := 2
  nan := "nan"
  infinity := "inf"
  negativeInfinity := "-inf"

/-- Zeros in a row. -/
def zeros (count : Nat) : List Char := List.replicate count '0'

/-- The digits of a number, with zeros in front up to a width. -/
def paddedDigits (width n : Nat) : List Char :=
  let digits := Nat.toDigits 10 n
  zeros (width - digits.length) ++ digits

/-- Digits with the point at a place, at least one digit on either side. -/
def positional (digits : List Char) (point : Int) : List Char :=
  if point ≤ 0 then ['0', '.'] ++ zeros (-point).toNat ++ digits
  else
    let whole := point.toNat
    if digits.length ≤ whole then digits ++ zeros (whole - digits.length) ++ ['.', '0']
    else digits.take whole ++ ['.'] ++ digits.drop whole

/-- Digits in scientific form, the point behind the first digit if there are others. -/
def Layout.scientific (layout : Layout) (digits : List Char) (point : Int) : List Char :=
  let exponent := point - 1
  let mantissa :=
    match digits with
    | [] => []
    | [digit] => [digit]
    | digit :: rest => digit :: '.' :: rest
  mantissa ++ ['e', if exponent < 0 then '-' else '+'] ++
    paddedDigits layout.exponentWidth exponent.natAbs

/-- The text of a double. -/
def Layout.write (layout : Layout) (x : Float) : String :=
  match Double.ofFloat x with
  | .nan => layout.nan
  | .infinite negative => if negative then layout.negativeInfinity else layout.infinity
  | .finite negative magnitude =>
    let (digits, point) := magnitude.shortest.significant
    let body :=
      if layout.leastPoint ≤ point && point ≤ layout.greatestPoint then positional digits point
      else layout.scientific digits point
    String.ofList (if negative then '-' :: body else body)

/-- The text of a double with a fixed number of decimal places, a half going to the even
neighbour. -/
def fixedPlaces (places : Nat) (x : Float) : String :=
  match Double.ofFloat x with
  | .nan => "nan"
  | .infinite negative => if negative then "-inf" else "inf"
  | .finite negative magnitude =>
    let (numerator, denominator) := magnitude.fraction
    let scaled := roundHalfEven (numerator * Nat.pow 10 places) denominator
    let digits := paddedDigits (places + 1) scaled
    let whole := digits.take (digits.length - places)
    let body :=
      if places = 0 then digits else whole ++ ['.'] ++ digits.drop (digits.length - places)
    String.ofList (if negative then '-' :: body else body)

end WarehouseImport.Number
