import ShapeMatch.Number.Binary64
import ShapeMatch.Number.Decimal

/-!
# The shortest decimal text of a binary word

Of the decimals that read back as a word, the one with the fewest digits is written, and of those
the nearest to the word's value. A tie goes to the larger. Sizes are compared as whole numbers.
-/

namespace ShapeMatch

/-- The numbers that round to one word, in units of `2 ^ scale`. -/
structure RoundingInterval where
  lower : Nat
  value : Nat
  upper : Nat
  closed : Bool
  scale : Int

namespace RoundingInterval

/-- A word's last place has four units. Ends round to the even significand. -/
def ofWord (x : Binary64) : RoundingInterval where
  lower := 4 * x.significand - (if x.gapNarrowsBelow then 1 else 2)
  value := 4 * x.significand
  upper := 4 * x.significand + 2
  closed := x.significand % 2 = 0
  scale := x.scale - 2

def stepSize (i : RoundingInterval) (exponent : Int) : Nat :=
  Nat.pow 10 exponent.toNat * Nat.pow 2 (-i.scale).toNat

def unitSize (i : RoundingInterval) (exponent : Int) : Nat :=
  Nat.pow 10 (-exponent).toNat * Nat.pow 2 i.scale.toNat

def contains (i : RoundingInterval) (exponent : Int) (count : Nat) : Bool :=
  let point := count * i.stepSize exponent
  let lower := i.lower * i.unitSize exponent
  let upper := i.upper * i.unitSize exponent
  if i.closed then lower ≤ point && point ≤ upper else lower < point && point < upper

def nearest? (i : RoundingInterval) (exponent : Int) : Option Nat :=
  let step := i.stepSize exponent
  let value := i.value * i.unitSize exponent
  let floor := value / step
  match i.contains exponent floor, i.contains exponent (floor + 1) with
  | true, true =>
    if value - floor * step < (floor + 1) * step - value then some floor else some (floor + 1)
  | true, false => some floor
  | false, true => some (floor + 1)
  | false, false => none

def exactDecimal (i : RoundingInterval) : Decimal :=
  ⟨i.value * Nat.pow 2 i.scale.toNat * Nat.pow 5 (-i.scale).toNat, min i.scale 0⟩

def candidate? (i : RoundingInterval) (point : Int) (count : Nat) : Option Decimal :=
  (i.nearest? (point - count)).map fun steps => ⟨steps, point - count⟩

/-- Seventeen digits tell all words apart, so the last resort is not taken. -/
def shortest (i : RoundingInterval) : Decimal :=
  let point := i.exactDecimal.point
  ((List.range 17).findSome? fun n => i.candidate? point (n + 1)).getD i.exactDecimal

end RoundingInterval

namespace Binary64

def render (x : Binary64) : String :=
  if x.isNaN then "NaN"
  else
    let magnitude :=
      if x.isFinite then (RoundingInterval.ofWord x).shortest.render else "inf"
    if x.isNegative then "-" ++ magnitude else magnitude

example : render ⟨0x8000000000000000⟩ = "-0" := by decide +kernel
example : render ⟨0x3FB999999999999A⟩ = "0.1" := by decide +kernel
example : render ⟨0x43E0000000000000⟩ = "9223372036854776000" := by decide +kernel
example : render ⟨0xFFF0000000000000⟩ = "-inf" := by decide +kernel

end Binary64

end ShapeMatch
