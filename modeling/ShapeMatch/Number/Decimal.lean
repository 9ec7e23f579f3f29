/-!
# Decimal numbers

A decimal number is a whole coefficient times a power of ten. It is written positionally,
whatever its size, without a zero that could be left out.
-/

namespace ShapeMatch

structure Decimal where
  coefficient : Nat
  exponent : Int
deriving DecidableEq

namespace Decimal

def digits (d : Decimal) : List Char := Nat.toDigits 10 d.coefficient

def point (d : Decimal) : Int := d.digits.length + d.exponent

def leading (d : Decimal) : List Char := (d.digits.reverse.dropWhile (· == '0')).reverse

/-- Digits with the point after the first `point` of them, filled up with zeros. -/
def placePoint (digits : List Char) (point : Int) : List Char :=
  if point ≤ 0 then
    '0' :: '.' :: List.replicate (-point).toNat '0' ++ digits
  else if point < digits.length then
    digits.take point.toNat ++ '.' :: digits.drop point.toNat
  else
    digits ++ List.replicate (point.toNat - digits.length) '0'

def render (d : Decimal) : String :=
  if d.coefficient = 0 then "0" else String.ofList (placePoint d.leading d.point)

example : render ⟨125, -2⟩ = "1.25" := by decide
example : render ⟨500, -4⟩ = "0.05" := by decide
example : render ⟨30, 2⟩ = "3000" := by decide

end Decimal

end ShapeMatch
