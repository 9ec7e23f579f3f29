import Mathlib.Algebra.Order.Field.Power
import Mathlib.Algebra.Order.Field.Rat
import Mathlib.Data.Rat.Cast.Defs
import Mathlib.Tactic.Linarith
import Mathlib.Tactic.NormNum
import Mathlib.Tactic.Positivity
import ShapeMatch.Number.Binary64

/-!
# Exact values of floating-point words

A finite word stands for a rational number, and two finite words stand for the same one only if
they are the same word or both zero. So comparing words numerically, and comparing a word with an
integer, is comparing quantities: rational numbers and the two infinities. A NaN has none.
-/

namespace ShapeMatch.Binary64

def magnitude (x : Binary64) : ℚ := x.significand * 2 ^ x.scale

/-- The number that a finite word stands for. -/
def value (x : Binary64) : ℚ := if x.isNegative then -x.magnitude else x.magnitude

inductive Quantity where
  | finite (value : ℚ)
  | infinite (negative : Bool)
  | undefined

def quantity (x : Binary64) : Quantity :=
  if x.isFinite then .finite x.value
  else if x.isNaN then .undefined
  else .infinite x.isNegative

theorem fraction_lt (x : Binary64) : x.fraction < 2 ^ 52 := Nat.mod_lt _ (by decide)

theorem toNat_bits (x : Binary64) :
    x.bits.toNat =
      (if x.isNegative then 2 ^ 63 else 0) + x.exponentField * 2 ^ 52 + x.fraction := by
  have := x.bits.toNat_lt
  unfold isNegative exponentField fraction
  simp only [Nat.pow_eq, decide_eq_true_eq]
  split <;> omega

theorem bits_inj {x y : Binary64} : x.bits = y.bits ↔ x = y := by
  cases x
  cases y
  simp

theorem eq_of_fields {x y : Binary64} (hs : x.isNegative = y.isNegative)
    (he : x.exponentField = y.exponentField) (hf : x.fraction = y.fraction) : x = y := by
  have same_word : x.bits.toNat = y.bits.toNat := by rw [toNat_bits, toNat_bits, hs, he, hf]
  exact bits_inj.1 (UInt64.toNat_inj.1 same_word)

theorem significand_lt (x : Binary64) : x.significand < 2 ^ 53 := by
  have := x.fraction_lt
  unfold significand
  simp only [Nat.pow_eq]
  split <;> omega

theorem le_significand {x : Binary64} (h : x.exponentField ≠ 0) : 2 ^ 52 ≤ x.significand := by
  unfold significand
  rw [if_neg h]
  exact Nat.le_add_right _ _

theorem isZero_iff (x : Binary64) : x.isZero = true ↔ x.significand = 0 := by
  unfold isZero significand
  simp only [Nat.pow_eq, decide_eq_true_eq]
  split <;> omega

theorem fields_eq_of_shifted {x y : Binary64} {shift : ℕ}
    (hshift : max y.exponentField 1 = max x.exponentField 1 + shift)
    (h : x.significand = y.significand * 2 ^ shift) :
    x.exponentField = y.exponentField ∧ x.fraction = y.fraction := by
  have hx := x.significand_lt
  have fx := x.fraction_lt
  have fy := y.fraction_lt
  have shift_zero : shift = 0 := by
    by_contra hne
    have normal : y.exponentField ≠ 0 := by omega
    have hy := le_significand normal
    have double : 2 ≤ 2 ^ shift := Nat.le_self_pow hne 2
    have large : 2 ^ 52 * 2 ≤ y.significand * 2 ^ shift := Nat.mul_le_mul hy double
    omega
  subst shift_zero
  rw [pow_zero, mul_one] at h
  unfold significand at h
  simp only [Nat.pow_eq] at h
  split at h <;> split at h <;> omega

theorem fields_eq_of_magnitude_of_le {x y : Binary64}
    (hle : max x.exponentField 1 ≤ max y.exponentField 1) (h : x.magnitude = y.magnitude) :
    x.exponentField = y.exponentField ∧ x.fraction = y.fraction := by
  obtain ⟨shift, hshift⟩ := Nat.exists_eq_add_of_le hle
  refine fields_eq_of_shifted hshift ?_
  have scale_eq : y.scale = x.scale + shift := by
    unfold scale
    omega
  have unit_ne : (2 : ℚ) ^ x.scale ≠ 0 := zpow_ne_zero _ two_ne_zero
  unfold magnitude at h
  rw [scale_eq, zpow_add₀ two_ne_zero, zpow_natCast, mul_comm (2 ^ x.scale), ← mul_assoc] at h
  exact_mod_cast mul_right_cancel₀ unit_ne h

theorem fields_eq_of_magnitude {x y : Binary64} (h : x.magnitude = y.magnitude) :
    x.exponentField = y.exponentField ∧ x.fraction = y.fraction := by
  rcases le_total (max x.exponentField 1) (max y.exponentField 1) with hle | hle
  · exact fields_eq_of_magnitude_of_le hle h
  · obtain ⟨he, hf⟩ := fields_eq_of_magnitude_of_le hle h.symm
    exact ⟨he.symm, hf.symm⟩

theorem magnitude_nonneg (x : Binary64) : 0 ≤ x.magnitude := by
  unfold magnitude
  positivity

theorem magnitude_eq_zero_iff (x : Binary64) : x.magnitude = 0 ↔ x.isZero = true := by
  rw [isZero_iff, magnitude, mul_eq_zero, Nat.cast_eq_zero,
    or_iff_left (zpow_ne_zero _ two_ne_zero)]

theorem abs_value (x : Binary64) : |x.value| = x.magnitude := by
  unfold value
  split
  · rw [abs_neg, abs_of_nonneg x.magnitude_nonneg]
  · rw [abs_of_nonneg x.magnitude_nonneg]

theorem magnitude_eq_zero_of_opposite {x y : Binary64} (h : x.value = y.value)
    (hs : x.isNegative ≠ y.isNegative) : x.magnitude = 0 := by
  have magnitudes_eq : x.magnitude = y.magnitude := by rw [← abs_value, h, abs_value]
  unfold value at h
  rw [← magnitudes_eq] at h
  cases hx : x.isNegative <;> cases hy : y.isNegative
  · exact absurd (hx.trans hy.symm) hs
  · rw [hx, hy, if_neg Bool.false_ne_true, if_pos rfl] at h
    linarith
  · rw [hx, hy, if_neg Bool.false_ne_true, if_pos rfl] at h
    linarith
  · exact absurd (hx.trans hy.symm) hs

theorem value_eq_iff (x y : Binary64) :
    x.value = y.value ↔ x = y ∨ x.isZero = true ∧ y.isZero = true := by
  constructor
  · intro h
    have magnitudes_eq : x.magnitude = y.magnitude := by rw [← abs_value, h, abs_value]
    by_cases same_sign : x.isNegative = y.isNegative
    · obtain ⟨he, hf⟩ := fields_eq_of_magnitude magnitudes_eq
      exact .inl (eq_of_fields same_sign he hf)
    · have zero := magnitude_eq_zero_of_opposite h same_sign
      rw [← magnitude_eq_zero_iff, ← magnitude_eq_zero_iff, ← magnitudes_eq]
      exact .inr ⟨zero, zero⟩
  · rintro (rfl | ⟨zx, zy⟩)
    · rfl
    · rw [value, value, (magnitude_eq_zero_iff x).2 zx, (magnitude_eq_zero_iff y).2 zy, neg_zero,
        ite_self, ite_self]

theorem whole?_eq_some_iff (x : Binary64) (n : ℕ) :
    x.whole? = some n ↔ x.isFinite = true ∧ x.magnitude = n := by
  unfold whole? magnitude
  cases x.isFinite with
  | false => simp
  | true =>
    simp only [if_true, true_and, Nat.pow_eq]
    cases x.scale with
    | ofNat k =>
      rw [Option.some_inj, Int.ofNat_eq_natCast, zpow_natCast]
      norm_cast
    | negSucc k =>
      have unit_pos : 0 < 2 ^ (k + 1) := Nat.two_pow_pos _
      dsimp only
      rw [zpow_negSucc, ← div_eq_mul_inv, div_eq_iff (by positivity)]
      norm_cast
      constructor
      · intro h
        split at h
        · rename_i divisible
          rw [← Option.some.inj h, Nat.div_mul_cancel (Nat.dvd_of_mod_eq_zero divisible)]
        · cases h
      · intro h
        rw [h, Nat.mul_mod_left, if_pos rfl, Nat.mul_div_cancel _ unit_pos]

theorem toInt?_eq_some_iff (x : Binary64) (n : ℤ) :
    x.toInt? = some n ↔
      ∃ m : ℕ, x.whole? = some m ∧ (if x.isNegative then -(m : ℤ) else m) = n := by
  unfold toInt?
  cases x.whole? <;> simp

theorem value_of_magnitude {x : Binary64} {m : ℕ} (h : x.magnitude = m) :
    x.value = ((if x.isNegative then -(m : ℤ) else m : ℤ) : ℚ) := by
  unfold value
  rw [h]
  split <;> simp

theorem toInt?_eq_some_iff_value (x : Binary64) (n : ℤ) :
    x.toInt? = some n ↔ x.isFinite = true ∧ x.value = n := by
  simp only [toInt?_eq_some_iff, whole?_eq_some_iff]
  constructor
  · rintro ⟨m, ⟨hfin, hm⟩, rfl⟩
    exact ⟨hfin, value_of_magnitude hm⟩
  · rintro ⟨hfin, h⟩
    have magnitude_eq : x.magnitude = n.natAbs := by
      rw [← abs_value, h, Nat.cast_natAbs, Int.cast_abs]
    have signed_eq := (value_of_magnitude magnitude_eq).symm.trans h
    exact ⟨n.natAbs, ⟨hfin, magnitude_eq⟩, Int.cast_injective signed_eq⟩

theorem toInt?_eq_some_iff_quantity (x : Binary64) (n : ℤ) :
    x.toInt? = some n ↔ x.quantity = .finite n := by
  rw [toInt?_eq_some_iff_value, quantity]
  cases x.isFinite <;> cases x.isNaN <;> simp

theorem quantity_eq_undefined_iff (x : Binary64) :
    x.quantity = .undefined ↔ x.isNaN = true := by
  unfold quantity isNaN
  cases x.isFinite <;> simp

theorem isFinite_of_isZero {x : Binary64} (h : x.isZero = true) : x.isFinite = true := by
  unfold isZero at h
  unfold isFinite
  simp only [decide_eq_true_eq] at h ⊢
  omega

theorem fields_of_infinite {x : Binary64} (hfin : x.isFinite = false) (hnan : x.isNaN = false) :
    x.exponentField = 2047 ∧ x.fraction = 0 := by
  unfold isNaN at hnan
  rw [hfin] at hnan
  unfold isFinite at hfin
  simp_all

theorem quantity_eq_iff {x y : Binary64} (hx : x.isNaN = false) (hy : y.isNaN = false) :
    x.quantity = y.quantity ↔ x = y ∨ x.isZero = true ∧ y.isZero = true := by
  constructor
  · intro h
    unfold quantity at h
    rw [hx, hy] at h
    cases fx : x.isFinite with
    | true =>
      cases fy : y.isFinite with
      | true => simpa [fx, fy, value_eq_iff] using h
      | false => simp [fx, fy] at h
    | false =>
      cases fy : y.isFinite with
      | true => simp [fx, fy] at h
      | false =>
        have same_sign : x.isNegative = y.isNegative := by simpa [fx, fy] using h
        obtain ⟨ex, zx⟩ := fields_of_infinite fx hx
        obtain ⟨ey, zy⟩ := fields_of_infinite fy hy
        exact .inl (eq_of_fields same_sign (ex.trans ey.symm) (zx.trans zy.symm))
  · rintro (rfl | ⟨zx, zy⟩)
    · rfl
    · have values_eq := (value_eq_iff x y).2 (.inr ⟨zx, zy⟩)
      rw [quantity, quantity, if_pos (isFinite_of_isZero zx), if_pos (isFinite_of_isZero zy),
        values_eq]

theorem equals_iff (x y : Binary64) :
    x.equals y = true ↔ x.quantity = y.quantity ∧ x.quantity ≠ .undefined := by
  unfold equals
  rw [ne_eq, quantity_eq_undefined_iff]
  cases hx : x.isNaN with
  | true => simp
  | false =>
    cases hy : y.isNaN with
    | true =>
      have undefined := (quantity_eq_undefined_iff y).2 hy
      have defined := mt (quantity_eq_undefined_iff x).1 (by simp [hx])
      simp [undefined, defined]
    | false => simp [quantity_eq_iff hx hy, bits_inj]

end ShapeMatch.Binary64
