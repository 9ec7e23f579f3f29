import Mathlib.Data.Rat.Floor
import Mathlib.Tactic.Ring
import ShapeMatch.Proofs.CanonicalNumbers

/-!
# Integers that floats hold

An integer equals a float exactly if it is the number that the float stands for. Widening such an
integer gives that number again, since its bits fit a significand. The comparison is also what
three tests on the float give: nothing behind the point, within the range, and the cast is right.
-/

namespace ShapeMatch

namespace Binary64

theorem fields_of_bits {x : Binary64} {negative : Bool} {exponent fraction : ℕ}
    (hexponent : exponent < 2 ^ 11) (hfraction : fraction < 2 ^ 52)
    (h : x.bits.toNat = (if negative then 2 ^ 63 else 0) + exponent * 2 ^ 52 + fraction) :
    x.isNegative = negative ∧ x.exponentField = exponent ∧ x.fraction = fraction := by
  unfold isNegative exponentField Binary64.fraction
  simp only [Nat.pow_eq, h]
  cases negative with
  | false =>
    simp only [Bool.false_eq_true, if_false, decide_eq_false_iff_not]
    omega
  | true =>
    simp only [if_true, decide_eq_true_eq]
    omega

theorem roundShift_of_dvd {n shift : ℕ} (h : 2 ^ shift ∣ n) :
    roundShift n shift = n / 2 ^ shift := by
  have no_rest : n % 2 ^ shift = 0 := Nat.mod_eq_zero_of_dvd h
  have unit_pos : 0 < 2 ^ shift := Nat.two_pow_pos shift
  unfold roundShift
  simp only [Nat.pow_eq, no_rest, mul_zero, if_pos unit_pos]

theorem exists_magnitudeBits {n : ℕ} (h : 2 ^ (n.log2 - 52) ∣ n) :
    ∃ significand, magnitudeBits n = (n.log2 + 1022) * 2 ^ 52 + significand ∧
      significand * 2 ^ n.log2 = n * 2 ^ 52 := by
  unfold magnitudeBits
  simp only [Nat.pow_eq]
  by_cases narrow : n.log2 ≤ 52
  · refine ⟨n * 2 ^ (52 - n.log2), by rw [if_pos narrow], ?_⟩
    rw [mul_assoc, ← pow_add, Nat.sub_add_cancel narrow]
  · have wide : 52 ≤ n.log2 := Nat.le_of_not_le narrow
    refine ⟨n / 2 ^ (n.log2 - 52), by rw [if_neg narrow, roundShift_of_dvd h], ?_⟩
    calc n / 2 ^ (n.log2 - 52) * 2 ^ n.log2
        = n / 2 ^ (n.log2 - 52) * (2 ^ (n.log2 - 52) * 2 ^ 52) := by
          rw [← pow_add, Nat.sub_add_cancel wide]
      _ = n * 2 ^ 52 := by rw [← mul_assoc, Nat.div_mul_cancel h]

theorem significand_bounds {n significand : ℕ} (positive : n ≠ 0)
    (h : significand * 2 ^ n.log2 = n * 2 ^ 52) :
    2 ^ 52 ≤ significand ∧ significand < 2 ^ 53 := by
  have unit_pos : 0 < 2 ^ n.log2 := Nat.two_pow_pos _
  have lower : 2 ^ n.log2 ≤ n := Nat.log2_self_le positive
  have upper : n < 2 ^ (n.log2 + 1) := Nat.lt_log2_self
  constructor
  · refine Nat.le_of_mul_le_mul_right ?_ unit_pos
    rw [h, mul_comm]
    exact Nat.mul_le_mul_right _ lower
  · refine Nat.lt_of_mul_lt_mul_right (a := 2 ^ n.log2) ?_
    rw [h]
    calc n * 2 ^ 52 < 2 ^ (n.log2 + 1) * 2 ^ 52 := Nat.mul_lt_mul_of_pos_right upper (by norm_num)
      _ = 2 ^ 53 * 2 ^ n.log2 := by ring

/-- A significand has 53 bits, so of a longer whole number the bits past those are zero. -/
theorem dvd_of_magnitude {x : Binary64} {n : ℕ} (positive : n ≠ 0) (h : x.magnitude = n) :
    2 ^ (n.log2 - 52) ∣ n := by
  have lower : 2 ^ n.log2 ≤ n := Nat.log2_self_le positive
  have bounded := x.significand_lt
  unfold magnitude at h
  cases hscale : x.scale with
  | ofNat shift =>
    rw [hscale, Int.ofNat_eq_natCast, zpow_natCast] at h
    have n_eq : x.significand * 2 ^ shift = n := by exact_mod_cast h
    have short : 2 ^ n.log2 < 2 ^ (53 + shift) :=
      calc 2 ^ n.log2 ≤ x.significand * 2 ^ shift := n_eq ▸ lower
        _ < 2 ^ 53 * 2 ^ shift := Nat.mul_lt_mul_of_pos_right bounded (Nat.two_pow_pos _)
        _ = 2 ^ (53 + shift) := (pow_add 2 53 shift).symm
    have within : n.log2 < 53 + shift := (Nat.pow_lt_pow_iff_right (by norm_num)).1 short
    have shifted : n.log2 - 52 ≤ shift := by omega
    exact (pow_dvd_pow 2 shifted).trans (Dvd.intro_left _ n_eq)
  | negSucc shift =>
    rw [hscale, zpow_negSucc, ← div_eq_mul_inv, div_eq_iff (by positivity)] at h
    have n_eq : x.significand = n * 2 ^ (shift + 1) := by exact_mod_cast h
    have small : 2 ^ n.log2 < 2 ^ 53 :=
      calc 2 ^ n.log2 ≤ n := lower
        _ ≤ n * 2 ^ (shift + 1) := Nat.le_mul_of_pos_right n (Nat.two_pow_pos _)
        _ = x.significand := n_eq.symm
        _ < 2 ^ 53 := bounded
    have within : n.log2 < 53 := (Nat.pow_lt_pow_iff_right (by norm_num)).1 small
    rw [Nat.sub_eq_zero_of_le (Nat.le_of_lt_succ within), pow_zero]
    exact one_dvd n

theorem magnitude_of_fields {x : Binary64} {n significand : ℕ}
    (hexponent : x.exponentField = n.log2 + 1023) (hfraction : x.fraction + 2 ^ 52 = significand)
    (h : significand * 2 ^ n.log2 = n * 2 ^ 52) : x.magnitude = n := by
  have significand_eq : x.significand = significand := by
    unfold Binary64.significand
    rw [if_neg (by omega), ← hfraction, Nat.pow_eq, add_comm]
  have scale_eq : x.scale = n.log2 - 52 := by
    unfold scale
    omega
  have exact : (significand : ℚ) * 2 ^ n.log2 = n * 2 ^ 52 := by exact_mod_cast h
  unfold magnitude
  rw [significand_eq, scale_eq, zpow_sub₀ two_ne_zero, zpow_natCast, ← mul_div_assoc, exact]
  exact mul_div_cancel_right₀ _ (by norm_num)

theorem magnitude_ofInt {n : ℤ} (nonzero : n ≠ 0) (small : n.natAbs < 2 ^ 64)
    (h : 2 ^ (n.natAbs.log2 - 52) ∣ n.natAbs) :
    (ofInt n).isFinite = true ∧ (ofInt n).isNegative = decide (n < 0) ∧
      (ofInt n).magnitude = n.natAbs := by
  have positive : n.natAbs ≠ 0 := Int.natAbs_ne_zero.2 nonzero
  have top_lt : n.natAbs.log2 < 64 := (Nat.log2_lt positive).2 small
  obtain ⟨significand, bits_eq, exact⟩ := exists_magnitudeBits h
  obtain ⟨lower, upper⟩ := significand_bounds positive exact
  have word : (ofInt n).bits.toNat = (if decide (n < 0) then 2 ^ 63 else 0) +
      (n.natAbs.log2 + 1023) * 2 ^ 52 + (significand - 2 ^ 52) := by
    have in_word : (n.natAbs.log2 + 1022) * 2 ^ 52 + significand +
        (if n < 0 then 2 ^ 63 else 0) < UInt64.size := by
      rw [show UInt64.size = 2 ^ 64 from rfl]
      split <;> omega
    rw [ofInt, if_neg nonzero, bits_eq, Nat.pow_eq, UInt64.toNat_ofNat_of_lt' in_word]
    simp only [decide_eq_true_eq]
    omega
  obtain ⟨sign_eq, hexponent, hfraction⟩ := fields_of_bits (by omega) (by omega) word
  have finite : (ofInt n).isFinite = true := by
    unfold isFinite
    rw [hexponent, decide_eq_true_eq]
    omega
  exact ⟨finite, sign_eq, magnitude_of_fields hexponent (by omega) exact⟩

theorem quantity_eq_intCast_iff (x : Binary64) (n : ℤ) :
    x.quantity = .finite n ↔ x.isFinite = true ∧ x.value = n := by
  rw [← toInt?_eq_some_iff_quantity, toInt?_eq_some_iff_value]

theorem quantity_ofInt {x : Binary64} {n : ℤ} (small : n.natAbs < 2 ^ 64)
    (h : x.quantity = .finite n) : (ofInt n).quantity = .finite n := by
  by_cases nonzero : n = 0
  · subst nonzero
    rw [Int.cast_zero]
    exact quantity_of_isZero (by decide)
  · obtain ⟨-, value_eq⟩ := (quantity_eq_intCast_iff x n).1 h
    have held : x.magnitude = n.natAbs := by
      rw [← abs_value, value_eq, Nat.cast_natAbs, Int.cast_abs]
    have divisible := dvd_of_magnitude (Int.natAbs_ne_zero.2 nonzero) held
    obtain ⟨finite, sign_eq, magnitude_eq⟩ := magnitude_ofInt nonzero small divisible
    rw [quantity, if_pos finite, value_of_magnitude magnitude_eq, sign_eq]
    congr 2
    simp only [decide_eq_true_eq]
    split <;> omega

namespace Quantity

def cutOff (q : ℚ) : ℤ := if 0 ≤ q then ⌊q⌋ else ⌈q⌉

/-- What stands behind the point. An infinity leaves nothing that is a number. -/
def behindPoint : Quantity → Quantity
  | .finite q => .finite (q - cutOff q)
  | .infinite _ | .undefined => .undefined

def InRange : Quantity → Prop
  | .finite q => -9223372036854775808 ≤ q ∧ q < 9223372036854775808
  | .infinite _ | .undefined => False

def toInt64 : Quantity → Int64
  | .finite q => Int64.ofInt (max (-9223372036854775808) (min 9223372036854775807 (cutOff q)))
  | .infinite negative => if negative then Int64.minValue else Int64.maxValue
  | .undefined => 0

theorem cutOff_intCast (n : ℤ) : cutOff n = n := by
  unfold cutOff
  rw [Int.floor_intCast, Int.ceil_intCast, ite_self]

theorem toInt64_intCast {n : ℤ} (lower : -9223372036854775808 ≤ n)
    (upper : n < 9223372036854775808) : (finite n).toInt64.toInt = n := by
  have inside : max (-9223372036854775808) (min 9223372036854775807 n) = n := by omega
  rw [toInt64, cutOff_intCast, inside, Int64.toInt_ofInt_of_le lower upper]

/-- Three tests in this order find an integer exactly: nothing behind the point, within the range,
and the cast gives the integer. The range makes the cast exact. -/
theorem eq_finite_iff_tests (quantity : Quantity) (n : Int64) :
    quantity = .finite n.toInt ↔
      quantity.behindPoint = .finite 0 ∧ quantity.InRange ∧ quantity.toInt64 = n := by
  constructor
  · rintro rfl
    have lower : -9223372036854775808 ≤ n.toInt := n.le_toInt
    have upper : n.toInt < 9223372036854775808 := n.toInt_lt
    refine ⟨?_, ⟨by exact_mod_cast lower, by exact_mod_cast upper⟩,
      Int64.toInt_inj.1 (toInt64_intCast lower upper)⟩
    rw [behindPoint, cutOff_intCast, sub_self]
  · rintro ⟨whole, in_range, rfl⟩
    cases quantity with
    | finite q =>
      have q_eq : q = cutOff q := sub_eq_zero.1 (Quantity.finite.inj whole)
      obtain ⟨lower, upper⟩ := in_range
      rw [q_eq] at lower upper ⊢
      rw [toInt64_intCast (by exact_mod_cast lower) (by exact_mod_cast upper)]
    | infinite negative => cases whole
    | undefined => cases whole

end Quantity

end Binary64

namespace Value

theorem int_equals_float_iff (n : Int64) (x : Binary64) :
    (Value.int n).equals (.float x) = true ↔ x.quantity = .finite n.toInt := by
  change (x.toInt? == some n.toInt) = true ↔ _
  rw [beq_iff_eq, Binary64.toInt?_eq_some_iff_quantity]

theorem float_equals_int (x : Binary64) (n : Int64) :
    (Value.float x).equals (.int n) = (Value.int n).equals (.float x) :=
  rfl

theorem int_eq_of_equals_float {m n : Int64} {x : Binary64}
    (hm : (Value.int m).equals (.float x) = true) (hn : (Value.int n).equals (.float x) = true) :
    m = n := by
  have same := ((int_equals_float_iff m x).1 hm).symm.trans ((int_equals_float_iff n x).1 hn)
  exact Int64.toInt_inj.1 (Int.cast_injective (Binary64.Quantity.finite.inj same))

theorem natAbs_toInt_lt (n : Int64) : n.toInt.natAbs < 2 ^ 64 := by
  have lower := n.le_toInt
  have upper := n.toInt_lt
  omega

theorem widened_equals {n : Int64} {x : Binary64} (h : (Value.int n).equals (.float x) = true) :
    (Binary64.ofInt n.toInt).equals x = true := by
  have held := (int_equals_float_iff n x).1 h
  have widened := Binary64.quantity_ofInt (natAbs_toInt_lt n) held
  rw [Binary64.equals_iff, widened, held]
  exact ⟨rfl, nofun⟩

theorem int_equals_float_exactly (n : Int64) (x : Binary64) :
    ((Value.int n).equals (.float x) = true ↔ x.isFinite = true ∧ x.value = n.toInt) ∧
      (Value.float x).equals (.int n) = (Value.int n).equals (.float x) ∧
      (∀ m, (Value.int m).equals (.float x) = true → (Value.int n).equals (.float x) = true →
        m = n) ∧
      ((Value.int n).equals (.float x) = true →
        ∃ widened, (Value.int n).float? = some widened ∧ widened.equals x = true ∧
          widened.isFinite = true ∧ widened.value = x.value) ∧
      ((Value.int n).equals (.float x) = true ↔
        x.quantity.behindPoint = .finite 0 ∧ x.quantity.InRange ∧ x.quantity.toInt64 = n) := by
  have holds_iff : (Value.int n).equals (.float x) = true ↔
      x.isFinite = true ∧ x.value = n.toInt := by
    rw [int_equals_float_iff, Binary64.quantity_eq_intCast_iff]
  refine ⟨holds_iff, float_equals_int x n, fun m => int_eq_of_equals_float, fun h => ?_, ?_⟩
  · have held := (int_equals_float_iff n x).1 h
    have widened := Binary64.quantity_ofInt (natAbs_toInt_lt n) held
    obtain ⟨finite, value_eq⟩ := (Binary64.quantity_eq_intCast_iff _ _).1 widened
    exact ⟨_, rfl, widened_equals h, finite, value_eq.trans (holds_iff.1 h).2.symm⟩
  · rw [int_equals_float_iff, Binary64.Quantity.eq_finite_iff_tests]

theorem int_equals_float_exactly_at_the_ends :
    let low : Binary64 := ⟨0xC3E0000000000000⟩
    let above : Binary64 := ⟨0x43E0000000000000⟩
    let negative_zero : Binary64 := ⟨0x8000000000000000⟩
    (Value.int Int64.minValue).equals (.float low) = true ∧ low.value = Int64.minValue.toInt ∧
      (Value.int Int64.maxValue).equals (.float above) = false ∧
      ¬ (above.quantity.behindPoint = .finite 0 ∧ above.quantity.InRange ∧
        above.quantity.toInt64 = Int64.maxValue) ∧
      (Value.int 0).equals (.float negative_zero) = true ∧
      (∃ widened, (Value.int 0).float? = some widened ∧ widened.equals negative_zero = true ∧
        widened.isFinite = true ∧ widened.value = negative_zero.value) := by
  intro low above negative_zero
  have low_equal : (Value.int Int64.minValue).equals (.float low) = true := by decide +kernel
  have above_not : (Value.int Int64.maxValue).equals (.float above) = false := by decide +kernel
  have zero_equal : (Value.int 0).equals (.float negative_zero) = true := by decide +kernel
  obtain ⟨low_exact, -⟩ := int_equals_float_exactly Int64.minValue low
  obtain ⟨-, -, -, -, above_tests⟩ := int_equals_float_exactly Int64.maxValue above
  obtain ⟨-, -, -, zero_widens, -⟩ := int_equals_float_exactly 0 negative_zero
  exact ⟨low_equal, (low_exact.1 low_equal).2, above_not,
    mt above_tests.2 (Bool.eq_false_iff.1 above_not), zero_equal, zero_widens zero_equal⟩

end Value

end ShapeMatch
