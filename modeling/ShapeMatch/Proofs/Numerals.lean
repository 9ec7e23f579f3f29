import ShapeMatch.Text.Numeral

/-!
# Spellings of a number

A number has many numerals: any number of leading zeros, with or without a plus sign. Reading
accepts the spellings of the numbers that fit a word and no other text.
-/

namespace ShapeMatch.Numeral

structure DigitsOf (digits : List Char) (n : Nat) : Prop where
  nonempty : digits ≠ []
  all_digits : ∀ c ∈ digits, c.isDigit = true
  value_eq : Nat.ofDigitChars 10 digits 0 = n

def IsSign (sign : List Char) : Prop := sign = [] ∨ sign = ['+']

/-- The characters are digits of the number, after one plus sign or none. -/
def Spells (cs : List Char) (n : Nat) : Prop :=
  ∃ sign digits, IsSign sign ∧ DigitsOf digits n ∧ cs = sign ++ digits

variable {sign digits cs : List Char} {m n : Nat}

theorem withoutPlus_sign_append (signed : IsSign sign) (h : DigitsOf digits n) :
    withoutPlus (sign ++ digits) = digits := by
  rcases signed with rfl | rfl
  · exact withoutPlus_of_digits h.all_digits
  · rfl

theorem exists_sign (cs : List Char) : ∃ sign, IsSign sign ∧ cs = sign ++ withoutPlus cs := by
  unfold withoutPlus
  split
  · exact ⟨['+'], .inr rfl, rfl⟩
  · exact ⟨[], .inl rfl, rfl⟩

theorem spells_iff (cs : List Char) (n : Nat) : Spells cs n ↔ IsNumeral cs ∧ value cs = n := by
  constructor
  · rintro ⟨sign, digits, signed, h, rfl⟩
    rw [IsNumeral, value, withoutPlus_sign_append signed h]
    exact ⟨⟨h.nonempty, h.all_digits⟩, h.value_eq⟩
  · rintro ⟨⟨nonempty, all_digits⟩, value_eq⟩
    obtain ⟨sign, signed, cs_eq⟩ := exists_sign cs
    exact ⟨sign, withoutPlus cs, signed, ⟨nonempty, all_digits, value_eq⟩, cs_eq⟩

theorem read?_eq_some_iff_spells (cs : List Char) (n : Nat) :
    read? cs = some n ↔ Spells cs n ∧ n < wordBound := by
  rw [read?_eq_some_iff, spells_iff, and_assoc]

theorem Spells.unique (hm : Spells cs m) (hn : Spells cs n) : m = n :=
  ((spells_iff cs m).1 hm).2.symm.trans ((spells_iff cs n).1 hn).2

theorem spells_render (n : Nat) : Spells (render n).toList n :=
  (spells_iff _ n).2 ⟨isNumeral_render n, value_render n⟩

theorem render_injective : Function.Injective render := by
  intro m n h
  rw [← value_render m, h, value_render]

theorem DigitsOf.zeros_append (zeros : Nat) (h : DigitsOf digits n) :
    DigitsOf (List.replicate zeros '0' ++ digits) n where
  nonempty := List.append_ne_nil_of_right_ne_nil _ h.nonempty
  all_digits c hc := by
    rcases List.mem_append.1 hc with hzero | hdigit
    · rw [List.eq_of_mem_replicate hzero]
      rfl
    · exact h.all_digits c hdigit
  value_eq := by
    rw [Nat.ofDigitChars_append, Nat.ofDigitChars_replicate_zero, Nat.mul_zero, h.value_eq]

end ShapeMatch.Numeral
