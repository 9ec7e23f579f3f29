import ShapeMatch.Text.Combining
import ShapeMatch.Text.Ignorable
import ShapeMatch.Text.Printable

/-!
# Quoted text

Text between double quotes in which every character shows as itself or as a backslash escape. A
few characters have a short escape; any other character that would not show on its own is written
by its code point in hexadecimal.
-/

namespace ShapeMatch.Quoted

def shortEscape? : Char → Option Char
  | '\x00' => some '0'
  | '\t' => some 't'
  | '\n' => some 'n'
  | '\r' => some 'r'
  | '\x22' => some '\x22'
  | '\x5c' => some '\x5c'
  | _ => none

/-- A mark that attaches to the character before it would not show on its own either. -/
def showsAlone (c : Char) : Bool :=
  Printable.isPrintable c && !Combining.isCombining c && !Ignorable.isIgnorable c

def escape (c : Char) : List Char :=
  match shortEscape? c with
  | some letter => ['\x5c', letter]
  | none =>
    if showsAlone c then [c]
    else ['\x5c', 'u', '\x7b'] ++ Nat.toDigits 16 c.toNat ++ ['\x7d']

def encode (s : String) : String :=
  String.ofList ('\x22' :: s.toList.flatMap escape ++ ['\x22'])

example : encode "a\t\x22b" = "\x22a\\t\\\x22b\x22" := by decide

example : escape '\u0301' = "\\u\x7b301\x7d".toList := by decide +kernel

example : escape '\u1160' = "\\u\x7b1160\x7d".toList := by decide +kernel

example : escape '\uFF9E' = ['\uFF9E'] := by decide +kernel

end ShapeMatch.Quoted
