/-!
# Numerals

Decimal numerals for numbers that fit a 64-bit word. A numeral is one or more ASCII digits, with
at most one plus sign before them and any number of leading zeros. Reading accepts exactly the
numerals whose value is below `wordBound`.
-/

namespace ShapeMatch.Numeral

/-- One more than the largest 64-bit word. -/
def wordBound : Nat := Nat.pow 2 64

def shift (acc : Nat) (c : Char) : Nat := 10 * acc + (c.toNat - '0'.toNat)

/-- Reads digits from the left and gives up at the first one that would exceed a word. -/
def readDigits? (acc : Nat) : List Char → Option Nat
  | [] => some acc
  | c :: cs =>
    if c.isDigit && decide (shift acc c < wordBound) then readDigits? (shift acc c) cs else none

def withoutPlus : List Char → List Char
  | '+' :: cs => cs
  | cs => cs

def read? (cs : List Char) : Option Nat :=
  if withoutPlus cs = [] then none else readDigits? 0 (withoutPlus cs)

def parse? (s : String) : Option Nat := read? s.toList

def render (n : Nat) : String := n.repr

def IsNumeral (cs : List Char) : Prop :=
  withoutPlus cs ≠ [] ∧ ∀ c ∈ withoutPlus cs, c.isDigit = true

def value (cs : List Char) : Nat := Nat.ofDigitChars 10 (withoutPlus cs) 0

theorem le_shift (acc : Nat) (c : Char) : acc ≤ shift acc c := by
  unfold shift
  omega

theorem ofDigitChars_cons (acc : Nat) (c : Char) (cs : List Char) :
    Nat.ofDigitChars 10 (c :: cs) acc = Nat.ofDigitChars 10 cs (shift acc c) :=
  Nat.ofDigitChars_cons

theorem le_ofDigitChars (cs : List Char) (acc : Nat) : acc ≤ Nat.ofDigitChars 10 cs acc := by
  induction cs generalizing acc with
  | nil => exact Nat.le_refl acc
  | cons c cs ih => exact Nat.le_trans (le_shift acc c) (ih _)

/-- The overflow test never changes the answer: the value only grows from digit to digit. -/
theorem readDigits?_eq_some_iff {acc : Nat} (h : acc < wordBound) (cs : List Char) (n : Nat) :
    readDigits? acc cs = some n ↔
      (∀ c ∈ cs, c.isDigit = true) ∧ Nat.ofDigitChars 10 cs acc = n ∧ n < wordBound := by
  induction cs generalizing acc with
  | nil =>
    constructor
    · intro hn
      cases hn
      exact ⟨by simp, rfl, h⟩
    · rintro ⟨-, rfl, -⟩
      rfl
  | cons c cs ih =>
    rw [readDigits?, ofDigitChars_cons, List.forall_mem_cons]
    by_cases hc : c.isDigit = true
    · by_cases hb : shift acc c < wordBound
      · simp only [hc, hb, decide_true, Bool.and_self, if_true, ih hb, true_and]
      · have large := le_ofDigitChars cs (shift acc c)
        simp only [hc, hb, decide_false, Bool.and_false, Bool.false_eq_true, if_false, reduceCtorEq,
          false_iff]
        rintro ⟨-, rfl, hn⟩
        omega
    · simp [hc]

theorem read?_eq_some_iff (cs : List Char) (n : Nat) :
    read? cs = some n ↔ IsNumeral cs ∧ value cs = n ∧ n < wordBound := by
  unfold read? IsNumeral value
  by_cases h : withoutPlus cs = []
  · simp [h]
  · rw [if_neg h, readDigits?_eq_some_iff (by decide)]
    simp [h]

theorem withoutPlus_of_digits {cs : List Char} (h : ∀ c ∈ cs, c.isDigit = true) :
    withoutPlus cs = cs := by
  unfold withoutPlus
  split
  · exact absurd (h '+' (by simp)) (by decide)
  · rfl

theorem withoutPlus_render (n : Nat) :
    withoutPlus (render n).toList = Nat.toDigits 10 n := by
  have digits : ∀ c ∈ Nat.toDigits 10 n, c.isDigit = true := fun c hc =>
    Nat.isDigit_of_mem_toDigits (by decide) (by decide) hc
  rw [render, Nat.repr_eq_ofList_toDigits, String.toList_ofList, withoutPlus_of_digits digits]

theorem isNumeral_render (n : Nat) : IsNumeral (render n).toList := by
  rw [IsNumeral, withoutPlus_render]
  exact ⟨Nat.toDigits_ne_nil, fun c hc => Nat.isDigit_of_mem_toDigits (by decide) (by decide) hc⟩

theorem value_render (n : Nat) : value (render n).toList = n := by
  rw [value, withoutPlus_render, Nat.ofDigitChars_ten_toDigits]

theorem parse?_render {n : Nat} (h : n < wordBound) : parse? (render n) = some n :=
  (read?_eq_some_iff _ n).2 ⟨isNumeral_render n, value_render n, h⟩

theorem eq_of_parse?_render {m n : Nat} (h : parse? (render n) = some m) : m = n := by
  obtain ⟨-, same_value, -⟩ := (read?_eq_some_iff _ m).1 h
  exact same_value.symm.trans (value_render n)

end ShapeMatch.Numeral
