import ShapeMatch.Text.CodePoints

/-!
# White space

The characters with the Unicode property `White_Space`, and trimming them from both ends of a
text.
-/

namespace ShapeMatch.Blank

def codePoints : CodePoints :=
  [(0x9, 0xD), (0x20, 0x20), (0x85, 0x85), (0xA0, 0xA0), (0x1680, 0x1680), (0x2000, 0x200A),
   (0x2028, 0x2029), (0x202F, 0x202F), (0x205F, 0x205F), (0x3000, 0x3000)]

def isBlank (c : Char) : Bool := codePoints.contains c.toNat

theorem codePoints_ascend : codePoints.ascends 0 = true := by decide

def trim (cs : List Char) : List Char :=
  ((cs.dropWhile isBlank).reverse.dropWhile isBlank).reverse

end ShapeMatch.Blank
