import ShapeMatch.Proofs.DepthThreshold
import ShapeMatch.Proofs.EqualityLaws
import ShapeMatch.Proofs.Subsets

/-!
# Values that accept themselves

Plain data, read as a pattern, fails only where it is nested beyond the limit. It accepts itself
within the limit unless it has a null, which accepts nothing, or a NaN, which equals nothing.
-/

namespace ShapeMatch

namespace Run

theorem exists_error_of_inOrder {runs : List (Run Bool)} {e : MatchError}
    (h : (inOrder runs).outcome = .error e) : ∃ run ∈ runs, run.outcome = .error e := by
  rw [outcome_inOrder] at h
  cases hfind : runs.find? (!·.holds) with
  | none => simp [hfind] at h
  | some run => exact ⟨run, List.mem_of_find?_eq_some hfind, by simpa [hfind] using h⟩

end Run

namespace Value

def isNull : Value → Bool
  | .null => true
  | _ => false

def NullFree (v : Value) : Prop := ∀ part ∈ v.subvalues, part.isNull = false

instance (v : Value) : Decidable v.NullFree :=
  inferInstanceAs (Decidable (∀ part ∈ v.subvalues, part.isNull = false))

theorem content_ne_null_iff (v : Value) : v.content ≠ .null ↔ v.isNull = false := by
  cases v <;> simp [content, isNull]

theorem nullFree_iff (v : Value) :
    v.NullFree ↔ v.content ≠ .null ∧ ∀ child ∈ v.children, child.NullFree := by
  rw [content_ne_null_iff]
  exact forall_subvalues_iff v

theorem naNFree_iff (v : Value) :
    v.NaNFree ↔ v.content ≠ .number .undefined ∧ ∀ child ∈ v.children, child.NaNFree := by
  rw [content_ne_undefined_iff]
  exact forall_subvalues_iff v

theorem content_ne_null {v : Value} (h : v.isAggregate = true) : v.content ≠ .null := by
  cases v <;> simp_all [content, isAggregate]

theorem children_eq_nil {v : Value} (h : v.isAggregate = false) : v.children = [] := by
  cases v <;> first | rfl | cases h

theorem nesting_le_iff (v : Value) (depth limit : Nat) :
    depth + v.nesting ≤ limit ↔
      depth ≤ limit ∧ ∀ child ∈ v.children, depth + 1 + child.nesting ≤ limit := by
  rw [nesting_eq]
  induction v.children with
  | nil => simp [levelAbove]
  | cons child rest ih =>
    change depth + max (child.nesting + 1) (levelAbove (rest.map nesting)) ≤ limit ↔ _
    rw [List.forall_mem_cons, ← Nat.add_max_add_left, Nat.max_le, ih, and_left_comm,
      ← Nat.add_assoc, Nat.add_right_comm]

end Value

namespace Pattern

open Run

variable (routines : Routines) (limit : Nat)

theorem exists_acceptsLeaf_eq_pure {data : Value} (no_function : data.callable? = none)
    (v : Value) : ∃ b, acceptsLeaf routines data v = pure b := by
  cases data with
  | function f => cases no_function
  | null => exact ⟨false, rfl⟩
  | _ => exact ⟨_, rfl⟩

theorem error_of_no_testers {p : Pattern} (no_testers : p.testers = []) {depth : Nat} {v : Value}
    {e : MatchError} (h : (acceptsFrom routines limit depth p v).outcome = .error e) :
    limit < depth + p.nesting ∧ e = (Cause.depthLimitExceeded limit).error := by
  induction p using induct generalizing depth v with
  | scalar data hdata =>
    rw [acceptsFrom_scalar _ _ _ _ hdata] at h
    obtain ⟨beyond, rfl⟩ | h := error_within h
    · exact ⟨by omega, rfl⟩
    · have no_callables : data.callables = [] := List.map_eq_nil_iff.1 no_testers
      obtain ⟨b, hb⟩ := exists_acceptsLeaf_eq_pure routines
        (Value.callable?_of_no_callables no_callables) v
      rw [hb, outcome_pure] at h
      cases h
  | predicate matcher => cases no_testers
  | aggregate data hdata ih =>
    rw [acceptsFrom_aggregate _ _ _ _ hdata] at h
    obtain ⟨beyond, rfl⟩ | h := error_within h
    · exact ⟨by omega, rfl⟩
    · split at h
      · cases h
      · rw [nesting, ← nesting_ofValue]
        exact ih (by rwa [testers_ofValue]) h
  | node p hp ih =>
    rw [acceptsFrom_node _ _ _ _ hp] at h
    obtain ⟨beyond, rfl⟩ | h := error_within h
    · exact ⟨by omega, rfl⟩
    · rw [ofAggregate_eq_both, outcome_both, holds_pure] at h
      split at h
      · obtain ⟨run, hrun, error_of_run⟩ := exists_error_of_inOrder h
        obtain ⟨q, hq, rfl⟩ := List.mem_map.1 hrun
        have q_no_testers : q.2.testers = [] :=
          List.subset_nil.1 (no_testers ▸ testers_part_subset hq)
        have lower : q.2.nesting < p.nesting := nesting_part_lt hq
        unfold acceptsPart at error_of_run
        cases hpart : v.part? q.1 with
        | none => simp [hpart, onPart] at error_of_run
        | some part =>
          rw [hpart] at error_of_run
          obtain ⟨beyond, same_error⟩ := ih q hq q_no_testers error_of_run
          exact ⟨by omega, same_error⟩
      · cases h

theorem subsetAt_self_iff_of_aggregate {v : Value} (aggregate : v.isAggregate = true)
    (depth : Nat) :
    SubsetAt routines limit depth v v ↔
      depth ≤ limit ∧ ∀ child ∈ v.children, SubsetAt routines limit (depth + 1) child child := by
  rw [subsetAt_iff_of_aggregate _ _ _ aggregate]
  constructor
  · rintro ⟨within, -, parts_accepted⟩
    refine ⟨within, fun child hchild => ?_⟩
    obtain ⟨step, hentry⟩ := Value.exists_mem_entries_of_mem_children hchild
    obtain ⟨part, hpart, accepted⟩ := parts_accepted _ hentry
    obtain rfl := Value.eq_of_mem_entries hentry hpart
    exact accepted
  · rintro ⟨within, children_accepted⟩
    refine ⟨within, aggregate, fun entry hentry => ?_⟩
    have child := Value.mem_children_of_mem_entries hentry
    exact ⟨entry.2, Value.part?_of_mem_entries hentry, children_accepted _ child⟩

theorem subsetAt_self_iff {v : Value} (no_functions : v.callables = []) (depth : Nat) :
    SubsetAt routines limit depth v v ↔
      depth + v.nesting ≤ limit ∧ v.NullFree ∧ v.NaNFree := by
  induction v using Value.induct generalizing depth with
  | step v ih =>
    rw [Value.nesting_le_iff, Value.nullFree_iff, Value.naNFree_iff]
    cases hv : v.isAggregate with
    | false =>
      rw [subsetAt_iff_of_scalar _ _ _ hv (Value.callable?_of_no_callables no_functions),
        Value.comparable_iff, Value.children_eq_nil hv]
      simp [hv]
    | true =>
      have children_iff : (∀ child ∈ v.children, SubsetAt routines limit (depth + 1) child child) ↔
          (∀ child ∈ v.children, depth + 1 + child.nesting ≤ limit) ∧
            (∀ child ∈ v.children, child.NullFree) ∧ ∀ child ∈ v.children, child.NaNFree := by
        simp only [← forall₂_and]
        exact forall₂_congr fun child hchild =>
          ih child hchild (Value.no_callables_of_mem_children no_functions hchild) (depth + 1)
      have not_null : v.content ≠ .null := Value.content_ne_null hv
      have not_nan : v.content ≠ .number .undefined := Value.content_ne_number hv _
      rw [subsetAt_self_iff_of_aggregate _ _ hv, children_iff]
      tauto

/-- A refusal is due to a null or a NaN, and an error to the limit, whichever is met first. -/
theorem accepts_ofValue_self (config : Config) {v : Value} (no_functions : v.callables = []) :
    (((ofValue v).accepts routines config v).outcome = .ok true ↔
        v.nesting ≤ config.maxDepth ∧ v.NullFree ∧ v.NaNFree) ∧
      (((ofValue v).accepts routines config v).outcome = .ok false →
        ¬ (v.NullFree ∧ v.NaNFree)) ∧
      ∀ e, ((ofValue v).accepts routines config v).outcome = .error e →
        config.maxDepth < v.nesting ∧ e = (Cause.depthLimitExceeded config.maxDepth).error := by
  have accepted_iff (limit : Nat) :
      ((ofValue v).accepts routines ⟨limit⟩ v).outcome = .ok true ↔
        v.nesting ≤ limit ∧ v.NullFree ∧ v.NaNFree := by
    rw [← holds_iff, ← Nat.zero_add v.nesting]
    exact subsetAt_self_iff routines limit no_functions 0
  refine ⟨accepted_iff config.maxDepth, ?_, ?_⟩
  · rintro refused ⟨null_free, nan_free⟩
    obtain ⟨threshold, -, settled, exceeded⟩ := acceptsFrom_settlesBy routines (ofValue v) 0 v
    have reached : threshold ≤ config.maxDepth := by
      by_contra below
      cases (exceeded config.maxDepth (Nat.not_le.1 below)).symm.trans refused
    -- Past the threshold the refusal stays, also at a limit that leaves room for the whole value.
    have same_run : acceptsFrom routines (max config.maxDepth v.nesting) 0 (ofValue v) v =
        acceptsFrom routines config.maxDepth 0 (ofValue v) v :=
      (settled _ (by omega)).trans (settled config.maxDepth reached).symm
    have accepted : (acceptsFrom routines (max config.maxDepth v.nesting) 0 (ofValue v) v).outcome =
        .ok true :=
      (accepted_iff _).2 ⟨Nat.le_max_right _ _, null_free, nan_free⟩
    rw [same_run] at accepted
    cases accepted.symm.trans refused
  · intro e h
    have no_testers : (ofValue v).testers = [] := by rw [testers_ofValue, no_functions, List.map_nil]
    have beyond := error_of_no_testers routines config.maxDepth no_testers h
    rwa [nesting_ofValue, Nat.zero_add] at beyond

theorem accepts_ofValue_self_to_the_limit :
    let routines : Routines := fun _ _ => pure (.ok .null)
    let v : Value := .ofPairs 0 [("xs", .list 1 [.str 2 "s", .float ⟨0⟩]), ("empty", .list 3 [])]
    let w : Value := .list 4 [v, .null]
    v.callables = [] ∧ ((ofValue v).accepts routines ⟨2⟩ v).outcome = .ok true ∧
      ((ofValue v).accepts routines ⟨1⟩ v).outcome = .error (Cause.depthLimitExceeded 1).error ∧
      w.callables = [] ∧ ((ofValue w).accepts routines .standard w).outcome = .ok false ∧
      ¬ (w.NullFree ∧ w.NaNFree) := by
  intro routines v w
  have v_no_functions : v.callables = [] := by decide +kernel
  have w_no_functions : w.callables = [] := by decide +kernel
  have nested_twice : v.nesting = 2 := by decide +kernel
  have clean : v.NullFree ∧ v.NaNFree := by decide +kernel
  have refused : ((ofValue w).accepts routines .standard w).outcome = .ok false :=
    refuses_iff.1 (by decide +kernel)
  have exceeded : ((ofValue v).accepts routines ⟨1⟩ v).outcome =
      .error (Cause.depthLimitExceeded 1).error := by
    obtain ⟨accepted_iff, clean_of_refused, exceeded_of_error⟩ :=
      accepts_ofValue_self routines ⟨1⟩ v_no_functions
    cases h : ((ofValue v).accepts routines ⟨1⟩ v).outcome with
    | ok b =>
      cases b with
      | false => exact absurd clean (clean_of_refused h)
      | true => exact absurd (accepted_iff.1 h).1 (by rw [nested_twice]; decide)
    | error e => rw [(exceeded_of_error e h).2]
  exact ⟨v_no_functions,
    (accepts_ofValue_self routines ⟨2⟩ v_no_functions).1.2 ⟨nested_twice.le, clean⟩, exceeded,
    w_no_functions, refused, (accepts_ofValue_self routines .standard w_no_functions).2.1 refused⟩

end Pattern

end ShapeMatch
