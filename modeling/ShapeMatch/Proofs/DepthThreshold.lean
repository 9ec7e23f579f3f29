import ShapeMatch.Proofs.Acceptance

/-!
# The depth threshold

A match that descends to some depth is the same under every limit from that depth on, and under
every smaller limit it ends in the error that names the limit. `SettlesBy` states this of a family
of runs, one for each limit, and is kept by each way of composing tests.
-/

namespace ShapeMatch

open Run

def SettlesBy (bound : Nat) (family : Nat → Run Bool) : Prop :=
  ∃ threshold ≤ bound,
    (∀ limit, threshold ≤ limit → family limit = family threshold) ∧
    ∀ limit < threshold, (family limit).outcome = .error (Cause.depthLimitExceeded limit).error

namespace SettlesBy

variable {bound bound' depth : Nat} {first second : Nat → Run Bool}

theorem const (bound : Nat) (run : Run Bool) : SettlesBy bound fun _ => run :=
  ⟨0, Nat.zero_le _, fun _ _ => rfl, fun _ h => absurd h (Nat.not_lt_zero _)⟩

theorem mono (h : SettlesBy bound first) (hb : bound ≤ bound') : SettlesBy bound' first := by
  obtain ⟨threshold, ht, settled, exceeded⟩ := h
  exact ⟨threshold, Nat.le_trans ht hb, settled, exceeded⟩

theorem guarded (h : SettlesBy bound first) (hd : depth ≤ bound) :
    SettlesBy bound fun limit =>
      if limit < depth then fail (.depthLimitExceeded limit) else first limit := by
  obtain ⟨threshold, ht, settled, exceeded⟩ := h
  refine ⟨max threshold depth, by omega, ?_, ?_⟩
  · intro limit hl
    have within : ¬ limit < depth := by omega
    have within' : ¬ max threshold depth < depth := by omega
    simp only [within, within', if_false]
    rw [settled limit (by omega), settled (max threshold depth) (by omega)]
  · intro limit hl
    by_cases hlt : limit < depth
    · simp only [hlt, if_true, outcome_fail]
    · have below : limit < threshold := by omega
      simp only [hlt, if_false]
      exact exceeded limit below

theorem both (h₁ : SettlesBy bound first) (h₂ : SettlesBy bound second) :
    SettlesBy bound fun limit => Run.both (first limit) (second limit) := by
  obtain ⟨t₁, hb₁, settled₁, exceeded₁⟩ := h₁
  obtain ⟨t₂, hb₂, settled₂, exceeded₂⟩ := h₂
  have below {limit : Nat} (hl : limit < t₁) :
      (Run.both (first limit) (second limit)).outcome =
        .error (Cause.depthLimitExceeded limit).error := by
    have refused : (first limit).holds = false := by rw [holds, exceeded₁ limit hl]
    rw [both_of_not_holds refused, exceeded₁ limit hl]
  cases hholds : (first t₁).holds with
  | false =>
    -- The second test is never reached, so only the first one's threshold counts.
    have refused {limit : Nat} (hl : t₁ ≤ limit) :
        Run.both (first limit) (second limit) = first t₁ := by
      rw [settled₁ limit hl, both_of_not_holds hholds]
    refine ⟨t₁, hb₁, ?_, fun _ => below⟩
    intro limit hl
    exact (refused hl).trans (refused (Nat.le_refl t₁)).symm
  | true =>
    refine ⟨max t₁ t₂, by omega, ?_, ?_⟩
    · intro limit hl
      have first_eq : first limit = first (max t₁ t₂) :=
        (settled₁ limit (by omega)).trans (settled₁ (max t₁ t₂) (by omega)).symm
      have second_eq : second limit = second (max t₁ t₂) :=
        (settled₂ limit (by omega)).trans (settled₂ (max t₁ t₂) (by omega)).symm
      simp only [first_eq, second_eq]
    · intro limit hl
      by_cases hlt : limit < t₁
      · exact below hlt
      · have first_eq : first limit = first t₁ := settled₁ limit (by omega)
        have below₂ : limit < t₂ := by omega
        change (Run.both (first limit) (second limit)).outcome = _
        rw [first_eq, outcome_both_of_holds hholds]
        exact exceeded₂ limit below₂

theorem inOrder {α : Type} {items : List α} {run : Nat → α → Run Bool}
    (h : ∀ item ∈ items, SettlesBy bound fun limit => run limit item) :
    SettlesBy bound fun limit => Run.inOrder (items.map (run limit)) := by
  induction items with
  | nil => exact const bound _
  | cons item rest ih =>
    obtain ⟨hitem, hrest⟩ := List.forall_mem_cons.1 h
    exact both hitem (ih hrest)

theorem ofAggregate {v : Value} (h : SettlesBy bound first) :
    SettlesBy bound fun limit => Pattern.ofAggregate v (first limit) := by
  simp only [Pattern.ofAggregate_eq_both]
  exact both (const bound _) h

theorem onPart {part? : Option Value} {test : Nat → Value → Run Bool}
    (h : ∀ part, part? = some part → SettlesBy bound fun limit => test limit part) :
    SettlesBy bound fun limit => Pattern.onPart part? (test limit) := by
  cases part? with
  | none => exact const bound _
  | some part => exact h part rfl

end SettlesBy

namespace Pattern

variable (routines : Routines)

theorem acceptsFrom_settlesBy (p : Pattern) (depth : Nat) (v : Value) :
    SettlesBy (depth + min p.nesting v.nesting) fun limit =>
      acceptsFrom routines limit depth p v := by
  induction p using induct generalizing depth v with
  | scalar data hd =>
    simp only [acceptsFrom_scalar _ _ _ _ hd]
    exact (SettlesBy.const _ _).guarded (Nat.le_add_right _ _)
  | predicate matcher =>
    simp only [acceptsFrom_predicate]
    exact (SettlesBy.const _ _).guarded (Nat.le_add_right _ _)
  | aggregate data hd ih =>
    simp only [acceptsFrom_aggregate _ _ _ _ hd]
    refine SettlesBy.guarded ?_ (Nat.le_add_right _ _)
    split
    · exact SettlesBy.const _ _
    · rw [nesting, ← nesting_ofValue]
      exact ih depth v
  | node p hp ih =>
    simp only [acceptsFrom_node _ _ _ _ hp]
    refine SettlesBy.guarded (SettlesBy.ofAggregate ?_) (Nat.le_add_right _ _)
    -- A part lies one level deeper but is less nested, on both sides.
    apply SettlesBy.inOrder
    intro q hq
    apply SettlesBy.onPart
    intro part hpart
    have pattern_lt : q.2.nesting < p.nesting := nesting_part_lt hq
    have value_lt : part.nesting < v.nesting := Value.nesting_part? hpart
    exact (ih q hq (depth + 1) part).mono (by omega)

theorem exists_depth_threshold (p : Pattern) (v : Value) :
    ∃ threshold ≤ min p.nesting v.nesting,
      (∃ run, ∀ limit, threshold ≤ limit → p.accepts routines ⟨limit⟩ v = run) ∧
      ∀ limit < threshold, (p.accepts routines ⟨limit⟩ v).outcome =
        .error (Cause.depthLimitExceeded limit).error := by
  obtain ⟨threshold, ht, settled, exceeded⟩ := acceptsFrom_settlesBy routines p 0 v
  rw [Nat.zero_add] at ht
  exact ⟨threshold, ht, ⟨_, settled⟩, exceeded⟩

end Pattern

end ShapeMatch
