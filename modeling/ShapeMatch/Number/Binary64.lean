/-!
# Binary floating-point words

A 64-bit word in the binary interchange format: a sign, an exponent field of 11 bits and a
fraction of 52 bits. A finite word stands for `significand * 2 ^ scale`, and all arithmetic on it
is exact arithmetic on these two numbers. Powers are written `Nat.pow`, which means the same
whether or not an algebraic `^` is in scope.
-/

namespace ShapeMatch

structure Binary64 where
  bits : UInt64
deriving DecidableEq, Inhabited

namespace Binary64

def isNegative (x : Binary64) : Bool := decide (Nat.pow 2 63 ≤ x.bits.toNat)

def exponentField (x : Binary64) : Nat := x.bits.toNat / Nat.pow 2 52 % Nat.pow 2 11

def fraction (x : Binary64) : Nat := x.bits.toNat % Nat.pow 2 52

def isFinite (x : Binary64) : Bool := decide (x.exponentField ≠ 2047)

def isNaN (x : Binary64) : Bool := !x.isFinite && decide (x.fraction ≠ 0)

def isZero (x : Binary64) : Bool := decide (x.exponentField = 0 ∧ x.fraction = 0)

def significand (x : Binary64) : Nat :=
  if x.exponentField = 0 then x.fraction else Nat.pow 2 52 + x.fraction

def scale (x : Binary64) : Int := (max x.exponentField 1 : Int) - 1075

def equals (x y : Binary64) : Bool :=
  !x.isNaN && !y.isNaN && (decide (x.bits = y.bits) || x.isZero && y.isZero)

def whole? (x : Binary64) : Option Nat :=
  if x.isFinite then
    match x.scale with
    | .ofNat k => some (x.significand * Nat.pow 2 k)
    | .negSucc k =>
      let unit := Nat.pow 2 (k + 1)
      if x.significand % unit = 0 then some (x.significand / unit) else none
  else none

def toInt? (x : Binary64) : Option Int :=
  x.whole?.map fun n => if x.isNegative then -(n : Int) else n

/-- The nearest multiple of `2 ^ shift`, in units of `2 ^ shift`; a half goes to the even one. -/
def roundShift (n shift : Nat) : Nat :=
  let unit := Nat.pow 2 shift
  let quotient := n / unit
  let rest := 2 * (n % unit)
  if rest < unit then quotient
  else if rest = unit then quotient + quotient % 2
  else quotient + 1

/-- The word of the positive number nearest to `n`, below `2 ^ 1023`.

The leading bit of the rounded significand is added to the exponent field, so a significand that
rounds up to the next power of two moves to the next exponent by itself. -/
def magnitudeBits (n : Nat) : Nat :=
  let top := n.log2
  let significand := if top ≤ 52 then n * Nat.pow 2 (52 - top) else roundShift n (top - 52)
  (top + 1022) * Nat.pow 2 52 + significand

def ofInt (n : Int) : Binary64 :=
  if n = 0 then ⟨0⟩
  else ⟨UInt64.ofNat (magnitudeBits n.natAbs + if n < 0 then Nat.pow 2 63 else 0)⟩

def gapNarrowsBelow (x : Binary64) : Bool := decide (x.fraction = 0 ∧ 1 < x.exponentField)

example : (ofInt 1).bits = 0x3FF0000000000000 := by decide
example : (ofInt (-3)).bits = 0xC008000000000000 := by decide
example : (ofInt (2 ^ 53 + 1)).bits = 0x4340000000000000 := by decide
example : (ofInt (2 ^ 63 - 1)).bits = 0x43E0000000000000 := by decide

end Binary64

end ShapeMatch
