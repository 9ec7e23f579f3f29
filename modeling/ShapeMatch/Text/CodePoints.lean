/-!
# Sets of code points

A set of characters is written as a list of ranges of code points. The ranges ascend, so a search
ends at the first range that starts past the point.
-/

namespace ShapeMatch

abbrev CodePoints := List (Nat × Nat)

namespace CodePoints

def contains : CodePoints → Nat → Bool
  | [], _ => false
  | (first, last) :: rest, n =>
    if n < first then false else n ≤ last || contains rest n

/-- Every range is non-empty, and the next one starts after its end. -/
def ascends (start : Nat) : CodePoints → Bool
  | [] => true
  | (first, last) :: rest => start ≤ first && first ≤ last && ascends (last + 1) rest

theorem le_of_ascends {ranges : CodePoints} {start : Nat} (h : ascends start ranges = true) :
    ∀ r ∈ ranges, start ≤ r.1 := by
  induction ranges generalizing start with
  | nil => simp
  | cons r rest ih =>
    simp only [ascends, Bool.and_eq_true, decide_eq_true_eq] at h
    intro s hs
    rcases List.mem_cons.1 hs with rfl | hs
    · exact h.1.1
    · have := ih h.2 s hs
      omega

theorem contains_iff_exists {ranges : CodePoints} {start : Nat} (h : ascends start ranges = true)
    (n : Nat) : contains ranges n = true ↔ ∃ r ∈ ranges, r.1 ≤ n ∧ n ≤ r.2 := by
  induction ranges generalizing start with
  | nil => simp [contains]
  | cons r rest ih =>
    obtain ⟨first, last⟩ := r
    simp only [ascends, Bool.and_eq_true, decide_eq_true_eq] at h
    obtain ⟨⟨-, hle⟩, hrest⟩ := h
    have later : ∀ r ∈ rest, last + 1 ≤ r.1 := le_of_ascends hrest
    simp only [contains, List.mem_cons, or_and_right, exists_or, exists_eq_left]
    split
    · rename_i before
      refine iff_of_false Bool.false_ne_true fun h => ?_
      rcases h with ⟨hlo, -⟩ | ⟨r, hr, hlo, -⟩
      · exact absurd before (Nat.not_lt.2 hlo)
      · have := later r hr
        omega
    · rename_i reached
      rw [Bool.or_eq_true, decide_eq_true_eq, ih hrest]
      simp [Nat.not_lt.1 reached]

end CodePoints

end ShapeMatch
