import ShapeMatch.Proofs.Constraints
import ShapeMatch.Proofs.SelfAcceptance

/-!
# Values that accept one another

Two values that accept one another have the same own steps, and so as many parts. As long as no
path leads to a list in one and to a record in the other, that is what equality asks for, level by
level. So mutual acceptance of plain data within the limit is equality.
-/

namespace ShapeMatch

namespace Value

/-- No path that both values have leads to a list in one and to a record in the other. -/
def SameKinds (v w : Value) : Prop :=
  ∀ path x y, v.follow? path = some x → w.follow? path = some y →
    x.isAggregate = true → y.isAggregate = true → x.content = y.content

variable {v w x y : Value} {step : Step}

theorem SameKinds.part (h : v.SameKinds w) (hx : v.part? step = some x)
    (hy : w.part? step = some y) : x.SameKinds y := by
  intro path x' y' hx' hy'
  refine h (step :: path) x' y' ?_ ?_
  · rw [follow?, hx, Option.bind_some, hx']
  · rw [follow?, hy, Option.bind_some, hy']

theorem sameKinds_of_equals (h : v.equals w = true) : v.SameKinds w := by
  intro path
  induction path generalizing v w with
  | nil =>
    intro x y hx hy _ _
    cases hx
    cases hy
    exact ((equals_iff v w).1 h).1
  | cons step path ih =>
    intro x y hx hy
    obtain ⟨v', hv', hx'⟩ := Option.bind_eq_some_iff.1 hx
    obtain ⟨w', hw', hy'⟩ := Option.bind_eq_some_iff.1 hy
    have related := ((equals_iff v w).1 h).2.2 step
    rw [hv', hw'] at related
    cases related with
    | some parts_equal => exact ih parts_equal x y hx' hy'

/-- Nothing in the value is called or accepts nothing, and all of it lies within the limit. -/
structure PlainWithin (limit depth : Nat) (v : Value) : Prop where
  no_functions : v.callables = []
  null_free : v.NullFree
  within : depth + v.nesting ≤ limit

theorem PlainWithin.part {limit depth : Nat} (h : v.PlainWithin limit depth)
    (hx : v.part? step = some x) : x.PlainWithin limit (depth + 1) where
  no_functions := no_callables_of_mem_children h.no_functions (mem_children_of_part? hx)
  null_free := ((nullFree_iff v).1 h.null_free).2 x (mem_children_of_part? hx)
  within := ((nesting_le_iff v depth limit).1 h.within).2 x (mem_children_of_part? hx)

end Value

namespace Pattern

open Run Value

variable {routines : Routines} {limit depth : Nat} {a b : Value}

theorem subsetAt_of_equals (ha : a.PlainWithin limit depth) (h : a.equals b = true) :
    SubsetAt routines limit depth a b := by
  induction a using Value.induct generalizing b depth with
  | step a ih =>
    have within : depth ≤ limit := ((nesting_le_iff a depth limit).1 ha.within).1
    cases hagg : a.isAggregate with
    | false =>
      have no_function := callable?_of_no_callables ha.no_functions
      have not_null := ((nullFree_iff a).1 ha.null_free).1
      exact (subsetAt_iff_of_scalar _ _ _ hagg no_function b).2
        ⟨within, not_null, (equals_iff_of_scalar hagg).1 h⟩
    | true =>
      have same := ((equals_iff a b).1 h).1
      refine (subsetAt_iff_of_aggregate _ _ _ hagg b).2
        ⟨within, (isAggregate_eq_of_content same).symm.trans hagg, fun entry hentry => ?_⟩
      obtain ⟨part, hpart, part_equals⟩ := forall_entries_of_equals h entry hentry
      exact ⟨part, hpart, ih entry.2 (mem_children_of_mem_entries hentry)
        (ha.part (part?_of_mem_entries hentry)) part_equals⟩

theorem equals_of_subsetAt (no_functions : a.callables = []) (kinds : a.SameKinds b)
    (hab : SubsetAt routines limit depth a b) (hba : SubsetAt routines limit depth b a) :
    a.equals b = true := by
  induction a using Value.induct generalizing b depth with
  | step a ih =>
    cases hagg : a.isAggregate with
    | false =>
      have no_function := callable?_of_no_callables no_functions
      obtain ⟨-, -, same, comparable⟩ := (subsetAt_iff_of_scalar _ _ _ hagg no_function b).1 hab
      exact (equals_iff_of_scalar hagg).2 ⟨same, comparable⟩
    | true =>
      obtain ⟨-, b_aggregate, found_in_b⟩ := (subsetAt_iff_of_aggregate _ _ _ hagg b).1 hab
      obtain ⟨-, -, found_in_a⟩ := (subsetAt_iff_of_aggregate _ _ _ b_aggregate a).1 hba
      have same : a.content = b.content := kinds [] a b rfl rfl hagg b_aggregate
      have counted : a.entries.length = b.entries.length :=
        length_entries_eq (steps_subset same found_in_b) (steps_subset same.symm found_in_a)
      refine (equals_iff_counted a b).2
        ⟨same, content_ne_number hagg _, counted, fun entry hentry => ?_⟩
      obtain ⟨y, hy, hxy⟩ := found_in_b entry hentry
      -- What `b` has there is held under the same own step, so it accepts what `a` has there.
      have y_entry : (entry.1, y) ∈ b.entries :=
        mem_entries_of_own same (List.mem_map_of_mem hentry) hy
      obtain ⟨x, hx, hyx⟩ := found_in_a _ y_entry
      obtain rfl := eq_of_mem_entries hentry hx
      have child := mem_children_of_mem_entries hentry
      exact ⟨y, hy, ih entry.2 child (no_callables_of_mem_children no_functions child)
        (kinds.part hx hy) hxy hyx⟩

theorem accepts_both_ways_iff_equals (routines : Routines) (config : Config) {a b : Value}
    (a_no_functions : a.callables = []) (b_no_functions : b.callables = [])
    (a_null_free : a.NullFree) (b_null_free : b.NullFree) (kinds : a.SameKinds b)
    (a_within : a.nesting ≤ config.maxDepth) (b_within : b.nesting ≤ config.maxDepth) :
    ((ofValue a).accepts routines config b).outcome = .ok true ∧
        ((ofValue b).accepts routines config a).outcome = .ok true ↔
      a.equals b = true := by
  have ha : a.PlainWithin config.maxDepth 0 := ⟨a_no_functions, a_null_free, by omega⟩
  have hb : b.PlainWithin config.maxDepth 0 := ⟨b_no_functions, b_null_free, by omega⟩
  rw [← holds_iff, ← holds_iff]
  constructor
  · rintro ⟨hab, hba⟩
    exact equals_of_subsetAt a_no_functions kinds hab hba
  · intro h
    exact ⟨subsetAt_of_equals ha h, subsetAt_of_equals hb (equals_symm h)⟩

theorem accepts_both_ways_iff_equals_of_mixed_numbers :
    let routines : Routines := fun _ _ => pure (.ok .null)
    let a : Value := .ofPairs 0 [("n", .int 1), ("xs", .list 1 [.str 2 "s", .ofPairs 3 []])]
    let b : Value := .ofPairs 4
      [("xs", .list 5 [.str 6 "s", .ofPairs 7 []]), ("n", .float ⟨0x3FF0000000000000⟩)]
    a.callables = [] ∧ b.callables = [] ∧ a.NullFree ∧ b.NullFree ∧ a.SameKinds b ∧
      a.nesting ≤ 2 ∧ b.nesting ≤ 2 ∧ a.equals b = true ∧
      ((ofValue a).accepts routines ⟨2⟩ b).outcome = .ok true ∧
      ((ofValue b).accepts routines ⟨2⟩ a).outcome = .ok true := by
  intro routines a b
  have a_no_functions : a.callables = [] := by decide +kernel
  have b_no_functions : b.callables = [] := by decide +kernel
  have a_null_free : a.NullFree := by decide +kernel
  have b_null_free : b.NullFree := by decide +kernel
  have a_within : a.nesting ≤ 2 := by decide +kernel
  have b_within : b.nesting ≤ 2 := by decide +kernel
  have equal : a.equals b = true := by decide +kernel
  have kinds : a.SameKinds b := sameKinds_of_equals equal
  have accepted := (accepts_both_ways_iff_equals routines ⟨2⟩ a_no_functions b_no_functions
    a_null_free b_null_free kinds a_within b_within).2 equal
  exact ⟨a_no_functions, b_no_functions, a_null_free, b_null_free, kinds, a_within, b_within, equal,
    accepted⟩

example :
    let routines : Routines := fun _ _ => pure (.ok .null)
    let a : Value := .list 0 [.int 1]
    let b : Value := .ofPairs 1 [("0", .int 1)]
    ((ofValue a).accepts routines .standard b).holds = true ∧
      ((ofValue b).accepts routines .standard a).holds = true ∧ a.equals b = false := by
  decide +kernel

end Pattern

end ShapeMatch
