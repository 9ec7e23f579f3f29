import ShapeMatch.Value.Basic

/-!
# Equality of values

Two comparisons by content. `equals` compares numbers by their exact value, so an integer equals a
float that holds it. The strict `==` compares floats bit by bit and keeps the two kinds of number
apart. Neither looks at addresses.
-/

namespace ShapeMatch.Value

mutual

/-- Lists and records agree part by part, and everything else as `leaf` says. -/
def agree (leaf : Value → Value → Bool) : Value → Value → Bool
  | .list _ items, .list _ others => agreeItems leaf items others
  | .record _ fields, .record _ others => agreeFields leaf fields others
  | v, w => leaf v w

def agreeItems (leaf : Value → Value → Bool) : List Value → List Value → Bool
  | [], [] => true
  | v :: vs, w :: ws => v.agree leaf w && agreeItems leaf vs ws
  | _, _ => false

/-- Names ascend on both sides, so the fields are compared in step. -/
def agreeFields (leaf : Value → Value → Bool) :
    {b c : Bound} → Fields Value b → Fields Value c → Bool
  | _, _, .nil, .nil => true
  | _, _, .cons name _ v rest, .cons other _ w others =>
    name == other && v.agree leaf w && agreeFields leaf rest others
  | _, _, _, _ => false

end

def identicalLeaf : Value → Value → Bool
  | .null, .null => true
  | .bool a, .bool b => a == b
  | .int m, .int n => m == n
  | .float x, .float y => x.bits == y.bits
  | .str _ s, .str _ t => s == t
  | .function f, .function g => f == g
  | _, _ => false

def equalLeaf : Value → Value → Bool
  | .float x, .float y => x.equals y
  | .int n, .float x => x.toInt? == some n.toInt
  | .float x, .int n => x.toInt? == some n.toInt
  | v, w => identicalLeaf v w

def equals (v w : Value) : Bool := v.agree equalLeaf w

instance : BEq Value := ⟨agree identicalLeaf⟩

example : equals (.list 0 [.int 0]) (.list 1 [.float ⟨0x8000000000000000⟩]) = true := by
  decide +kernel
example : (Value.int 1 == .float ⟨0x3FF0000000000000⟩) = false := by decide
example : equals (.float ⟨0x7FF8000000000000⟩) (.float ⟨0x7FF8000000000000⟩) = false := by
  decide

end ShapeMatch.Value
