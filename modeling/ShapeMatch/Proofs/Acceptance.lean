import ShapeMatch.Pattern.Accepts
import ShapeMatch.Proofs.PatternParts
import ShapeMatch.Proofs.Runs

/-!
# What acceptance comes to for each kind of pattern

Beyond the depth limit every pattern ends in the same error. Within it a node tries its parts in
order on a list or a record, and a list or record literal either is the value's own allocation or
does what its lift does.
-/

namespace ShapeMatch.Pattern

open Run

variable (routines : Routines) (limit depth : Nat) (v : Value)

theorem withinLimit_then (run : Run Bool) :
    (do withinLimit limit depth; run) =
      if limit < depth then fail (.depthLimitExceeded limit) else run := by
  unfold withinLimit
  split <;> rfl

theorem acceptsFrom_predicate (matcher : Matcher) :
    acceptsFrom routines limit depth (.predicate matcher) v =
      if limit < depth then fail (.depthLimitExceeded limit) else matcher.test v := by
  rw [acceptsFrom, withinLimit_then]

theorem acceptsFrom_scalar {data : Value} (h : data.isAggregate = false) :
    acceptsFrom routines limit depth (.literal data) v =
      if limit < depth then fail (.depthLimitExceeded limit) else acceptsLeaf routines data v := by
  rw [acceptsFrom, withinLimit_then, h, Bool.false_and, if_neg Bool.false_ne_true]
  cases data with
  | list address items => cases h
  | record address members => cases h
  | _ =>
    rw [acceptsData, withinLimit_then]
    · split <;> rfl
    all_goals simp

theorem acceptsFrom_aggregate {data : Value} (h : data.isAggregate = true) :
    acceptsFrom routines limit depth (.literal data) v =
      if limit < depth then fail (.depthLimitExceeded limit)
      else if data.sharesAllocation v then pure true
      else acceptsFrom routines limit depth (ofValue data) v := by
  rw [acceptsFrom, withinLimit_then, h, Bool.true_and, acceptsFrom_ofValue]

theorem ofAggregate_eq_both (run : Run Bool) :
    ofAggregate v run = both (pure v.isAggregate) run := by
  unfold ofAggregate
  cases v.isAggregate with
  | true => rw [both_pure_true, if_pos rfl]
  | false => rw [both_pure_false, if_neg Bool.false_ne_true]

def acceptsPart (part : Step × Pattern) : Run Bool :=
  onPart (v.part? part.1) (acceptsFrom routines limit (depth + 1) part.2)

theorem acceptsEntries_eq_inOrder (entries : List (String × Pattern)) :
    acceptsEntries routines limit depth entries v =
      inOrder (entries.map fun entry =>
        acceptsPart routines limit depth v (.field entry.1, entry.2)) := by
  induction entries with
  | nil => rfl
  | cons entry rest ih =>
    rw [acceptsEntries, ih]
    rfl

theorem acceptsItems_eq_inOrder (items : List Pattern) (index : Nat) :
    acceptsItems routines limit depth index items v =
      inOrder ((items.zipIdx index).map fun item =>
        acceptsPart routines limit depth v (.position item.2, item.1)) := by
  induction items generalizing index with
  | nil => rfl
  | cons p rest ih =>
    rw [acceptsItems, ih]
    rfl

theorem acceptsFrom_node {p : Pattern} (h : p.isNode = true) :
    acceptsFrom routines limit depth p v =
      if limit < depth then fail (.depthLimitExceeded limit)
      else ofAggregate v (inOrder (p.parts.map (acceptsPart routines limit depth v))) := by
  cases p with
  | fields entries =>
    rw [acceptsFrom, withinLimit_then, acceptsEntries_eq_inOrder, parts, List.map_map]
    rfl
  | sequence items =>
    rw [acceptsFrom, withinLimit_then, acceptsItems_eq_inOrder, parts, List.map_map]
    rfl
  | _ => cases h

theorem acceptsFrom_of_limit_lt (p : Pattern) (h : limit < depth) :
    acceptsFrom routines limit depth p v = fail (.depthLimitExceeded limit) := by
  induction p using induct with
  | scalar data hdata => rw [acceptsFrom_scalar _ _ _ _ hdata, if_pos h]
  | predicate matcher => rw [acceptsFrom_predicate, if_pos h]
  | node p hp => rw [acceptsFrom_node _ _ _ _ hp, if_pos h]
  | aggregate data hdata => rw [acceptsFrom_aggregate _ _ _ _ hdata, if_pos h]

variable {limit depth} in
theorem holds_within_iff {run : Run Bool} :
    (if limit < depth then fail (.depthLimitExceeded limit) else run).holds = true ↔
      depth ≤ limit ∧ run.holds = true := by
  split
  · next beyond => exact iff_of_false Bool.false_ne_true fun h => Nat.not_le.2 beyond h.1
  · next within => simp [Nat.not_lt.1 within]

variable {limit depth} in
theorem error_within {run : Run Bool} {e : MatchError}
    (h : (if limit < depth then fail (.depthLimitExceeded limit) else run).outcome = .error e) :
    (limit < depth ∧ e = (Cause.depthLimitExceeded limit).error) ∨ run.outcome = .error e := by
  split at h
  · next beyond => exact .inl ⟨beyond, (Except.error.inj h).symm⟩
  · exact .inr h

theorem holds_onPart {part? : Option Value} {test : Value → Run Bool} :
    (onPart part? test).holds = true ↔ ∃ part, part? = some part ∧ (test part).holds = true := by
  cases part? <;> simp [onPart]

theorem onPart_congr {β : Type} (view : Run Bool → β) {r : Value → Value → Prop}
    {x? y? : Option Value} {test : Value → Run Bool} (related : Option.Rel r x? y?)
    (h : ∀ x y, x? = some x → y? = some y → r x y → view (test x) = view (test y)) :
    view (onPart x? test) = view (onPart y? test) := by
  cases related with
  | none => rfl
  | some hxy => exact h _ _ rfl rfl hxy

theorem holds_acceptsFrom_node {p : Pattern} (h : p.isNode = true) :
    (acceptsFrom routines limit depth p v).holds = true ↔
      depth ≤ limit ∧ v.isAggregate = true ∧ ∀ q ∈ p.parts, ∃ part, v.part? q.1 = some part ∧
        (acceptsFrom routines limit (depth + 1) q.2 part).holds = true := by
  rw [acceptsFrom_node _ _ _ _ h, holds_within_iff, ofAggregate_eq_both, holds_both, holds_pure,
    Bool.and_eq_true, holds_inOrder, List.forall_mem_map]
  simp only [acceptsPart, holds_onPart]

end ShapeMatch.Pattern
