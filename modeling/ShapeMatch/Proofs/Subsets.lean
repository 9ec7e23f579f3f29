import ShapeMatch.Proofs.Acceptance
import ShapeMatch.Proofs.EqualValues
import ShapeMatch.Proofs.OwnParts
import ShapeMatch.Proofs.Testers

/-!
# Values as subsets of one another

A value that lifts to a pattern accepts the values it is a subset of. Being a subset is transitive
as long as every name that a list reads as a position is spelled canonically. The middle value holds
each part under a step of its own, and what any third value has there it also has under the step of
the first.
-/

namespace ShapeMatch

namespace Numeral

/-- No numeral, or the shortest one for its number. -/
def Canonical (s : String) : Prop := ∀ index ∈ parse? s, s = render index

instance (s : String) : Decidable (Canonical s) :=
  inferInstanceAs (Decidable (∀ index ∈ parse? s, s = render index))

end Numeral

namespace Value

def keys (v : Value) : List String :=
  v.subvalues.flatMap fun part => (part.fields?.map Fields.names).getD []

theorem keys_child_subset {v child : Value} (h : child ∈ v.children) : child.keys ⊆ v.keys := by
  intro key hkey
  obtain ⟨part, hpart, hnamed⟩ := List.mem_flatMap.1 hkey
  have inside_v : part ∈ v.subvalues :=
    subvalues_subset_of_mem (mem_subvalues_of_mem_children h) hpart
  exact List.mem_flatMap.2 ⟨part, inside_v, hnamed⟩

theorem mem_keys_of_mem_entries {v part : Value} {name : String}
    (h : (Step.field name, part) ∈ v.entries) : name ∈ v.keys := by
  cases v with
  | list address items => simp [entries] at h
  | record address fields =>
    obtain ⟨field, hfield, same⟩ := List.mem_map.1 h
    cases same
    exact List.mem_flatMap.2 ⟨_, self_mem_subvalues _, List.mem_map_of_mem hfield⟩
  | _ => cases h

theorem part?_position_of_field {v part : Value} {index : Nat}
    (h : v.part? (.field (Numeral.render index)) = some part) :
    v.part? (.position index) = some part := by
  cases v with
  | list address items =>
    obtain ⟨read, hread, hpart⟩ := Option.bind_eq_some_iff.1 h
    obtain rfl := Numeral.eq_of_parse?_render hread
    exact hpart
  | record address fields => exact h
  | _ => cases h

theorem part?_field_of_position {v part : Value} {name : String} {index : Nat}
    (hname : Numeral.parse? name = some index) (canonical : Numeral.Canonical name)
    (h : v.part? (.position index) = some part) : v.part? (.field name) = some part := by
  cases v with
  | list address items => exact Option.bind_eq_some_iff.2 ⟨index, hname, h⟩
  | record address fields =>
    rw [canonical index hname]
    exact h
  | _ => cases h

theorem exists_entry_of_part? {v part : Value} {step : Step} (h : v.part? step = some part)
    (canonical : ∀ name, step = .field name → Numeral.Canonical name) :
    ∃ own, (own, part) ∈ v.entries ∧
      ∀ w x : Value, w.part? own = some x → w.part? step = some x := by
  cases v with
  | list address items =>
    cases step with
    | position index => exact ⟨.position index, position_mem_entries h, fun _ _ => id⟩
    | field name =>
      obtain ⟨index, hname, hitem⟩ := Option.bind_eq_some_iff.1 h
      exact ⟨.position index, position_mem_entries hitem, fun _ _ =>
        part?_field_of_position hname (canonical name rfl)⟩
  | record address fields =>
    cases step with
    | position index =>
      exact ⟨.field (Numeral.render index), field_mem_entries h, fun _ _ =>
        part?_position_of_field⟩
    | field name => exact ⟨.field name, field_mem_entries h, fun _ _ => id⟩
  | _ => cases step <;> cases h

theorem callable?_eq_of_content {v w : Value} (h : v.content = w.content) :
    v.callable? = w.callable? := by
  cases v <;> cases w <;> first | rfl | (cases h; rfl) | cases h

end Value

namespace Pattern

open Run

variable (routines : Routines) (limit depth : Nat)

theorem isNode_ofValue {data : Value} (h : data.isAggregate = true) :
    (ofValue data).isNode = true := by
  cases data with
  | list address items => rfl
  | record address fields => rfl
  | _ => cases h

theorem parts_ofValue (data : Value) :
    (ofValue data).parts = data.entries.map fun entry => (entry.1, ofValue entry.2) := by
  cases data with
  | list address items =>
    rw [ofValue, ofItems_eq_map, parts, Value.entries, List.zipIdx_map, List.map_map, List.map_map]
    rfl
  | record address members =>
    rw [ofValue, ofFields_eq_map, parts, Value.entries, List.map_map, List.map_map]
    rfl
  | _ => rfl

/-- The first value, read as a pattern at the given depth, accepts the second. -/
def SubsetAt (a b : Value) : Prop := (acceptsFrom routines limit depth (ofValue a) b).holds = true

theorem subsetAt_iff_of_aggregate {a : Value} (aggregate : a.isAggregate = true) (b : Value) :
    SubsetAt routines limit depth a b ↔
      depth ≤ limit ∧ b.isAggregate = true ∧ ∀ entry ∈ a.entries, ∃ part,
        b.part? entry.1 = some part ∧ SubsetAt routines limit (depth + 1) entry.2 part := by
  rw [SubsetAt, holds_acceptsFrom_node _ _ _ _ (isNode_ofValue aggregate), parts_ofValue,
    List.forall_mem_map]
  rfl

theorem ofValue_of_scalar {data : Value} (h : data.isAggregate = false) :
    ofValue data = .literal data := by
  cases data with
  | list address items => cases h
  | record address fields => cases h
  | _ => rfl

theorem subsetAt_iff_of_scalar {a : Value} (scalar : a.isAggregate = false)
    (no_function : a.callable? = none) (b : Value) :
    SubsetAt routines limit depth a b ↔
      depth ≤ limit ∧ a.content ≠ .null ∧ a.content = b.content ∧ a.content.Comparable := by
  rw [SubsetAt, ofValue_of_scalar scalar, acceptsFrom_scalar _ _ _ _ scalar, holds_within_iff,
    ← Value.equalLeaf_iff]
  refine and_congr_right fun _ => ?_
  cases a with
  | function f => cases no_function
  | list address items => cases scalar
  | record address fields => cases scalar
  | null => simp [acceptsLeaf, Value.content]
  | _ => simp [acceptsLeaf, Value.content, Value.equals, Value.agree]

section Transitivity

variable {routines limit depth} {a b c : Value}

theorem SubsetAt.trans_of_scalar (scalar : a.isAggregate = false)
    (no_function : a.callable? = none) (hab : SubsetAt routines limit depth a b)
    (hbc : SubsetAt routines limit depth b c) : SubsetAt routines limit depth a c := by
  rw [subsetAt_iff_of_scalar _ _ _ scalar no_function] at hab ⊢
  obtain ⟨within, not_null, same, comparable⟩ := hab
  have b_scalar := (Value.isAggregate_eq_of_content same).symm.trans scalar
  have b_no_function := (Value.callable?_eq_of_content same).symm.trans no_function
  obtain ⟨-, -, same', -⟩ := (subsetAt_iff_of_scalar _ _ _ b_scalar b_no_function c).1 hbc
  exact ⟨within, not_null, same.trans same', comparable⟩

theorem SubsetAt.trans_of_aggregate (aggregate : a.isAggregate = true)
    (canonical : ∀ key ∈ a.keys, Numeral.Canonical key)
    (parts_trans : ∀ x ∈ a.children, ∀ y z, SubsetAt routines limit (depth + 1) x y →
      SubsetAt routines limit (depth + 1) y z → SubsetAt routines limit (depth + 1) x z)
    (hab : SubsetAt routines limit depth a b) (hbc : SubsetAt routines limit depth b c) :
    SubsetAt routines limit depth a c := by
  rw [subsetAt_iff_of_aggregate _ _ _ aggregate] at hab ⊢
  obtain ⟨within, b_aggregate, parts_ab⟩ := hab
  obtain ⟨-, c_aggregate, parts_bc⟩ := (subsetAt_iff_of_aggregate _ _ _ b_aggregate c).1 hbc
  refine ⟨within, c_aggregate, ?_⟩
  rintro ⟨step, x⟩ hentry
  obtain ⟨y, hy, hxy⟩ := parts_ab (step, x) hentry
  have named_canonically : ∀ name, step = .field name → Numeral.Canonical name := by
    rintro name rfl
    exact canonical name (Value.mem_keys_of_mem_entries hentry)
  -- The middle value may hold `y` under another step, and that step is the one `c` is read by.
  obtain ⟨own, hown, crosses⟩ := Value.exists_entry_of_part? hy named_canonically
  obtain ⟨z, hz, hyz⟩ := parts_bc (own, y) hown
  have child : x ∈ a.children := Value.mem_children_of_mem_entries hentry
  exact ⟨z, crosses c z hz, parts_trans x child y z hxy hyz⟩

theorem SubsetAt.trans (no_functions : a.callables = [])
    (canonical : ∀ key ∈ a.keys, Numeral.Canonical key) (hab : SubsetAt routines limit depth a b)
    (hbc : SubsetAt routines limit depth b c) : SubsetAt routines limit depth a c := by
  induction a using Value.induct generalizing depth b c with
  | step a ih =>
    cases ha : a.isAggregate with
    | false =>
      exact hab.trans_of_scalar ha (Value.callable?_of_no_callables no_functions) hbc
    | true =>
      refine hab.trans_of_aggregate ha canonical ?_ hbc
      intro x hx y z hxy hyz
      have x_no_functions := Value.no_callables_of_mem_children no_functions hx
      have x_canonical : ∀ key ∈ x.keys, Numeral.Canonical key := fun key hkey =>
        canonical key (Value.keys_child_subset hx hkey)
      exact ih x hx x_no_functions x_canonical hxy hyz

end Transitivity

theorem accepts_ofValue_trans (routines : Routines) (config : Config) {a b c : Value}
    (no_functions : a.callables = []) (canonical : ∀ key ∈ a.keys, Numeral.Canonical key)
    (hab : ((ofValue a).accepts routines config b).outcome = .ok true)
    (hbc : ((ofValue b).accepts routines config c).outcome = .ok true) :
    ((ofValue a).accepts routines config c).outcome = .ok true :=
  holds_iff.1 (SubsetAt.trans no_functions canonical (holds_iff.2 hab) (holds_iff.2 hbc))

theorem accepts_ofValue_trans_of_mixed_kinds :
    let routines : Routines := fun _ _ => pure (.ok .null)
    let a : Value := .ofPairs 0 [("0", .list 1 [.int 1, .str 2 "s"])]
    let b : Value := .list 3 [.ofPairs 4 [("1", .str 5 "s"), ("0", .float ⟨0x3FF0000000000000⟩)]]
    let c : Value := .ofPairs 6 [("rest", .null), ("0", .list 7 [.int 1, .str 8 "s", .int 2])]
    a.callables = [] ∧ (∀ key ∈ a.keys, Numeral.Canonical key) ∧
      ((ofValue a).accepts routines .standard b).outcome = .ok true ∧
      ((ofValue b).accepts routines .standard c).outcome = .ok true ∧
      ((ofValue a).accepts routines .standard c).outcome = .ok true := by
  intro routines a b c
  have no_functions : a.callables = [] := by decide +kernel
  have canonical : ∀ key ∈ a.keys, Numeral.Canonical key := by decide +kernel
  have hab : ((ofValue a).accepts routines .standard b).outcome = .ok true :=
    holds_iff.1 (by decide +kernel)
  have hbc : ((ofValue b).accepts routines .standard c).outcome = .ok true :=
    holds_iff.1 (by decide +kernel)
  exact ⟨no_functions, canonical, hab, hbc,
    accepts_ofValue_trans routines .standard no_functions canonical hab hbc⟩

example :
    let routines : Routines := fun _ _ => pure (.ok .null)
    let a : Value := .ofPairs 0 [("00", .int 1)]
    let b : Value := .list 1 [.int 1]
    let c : Value := .ofPairs 2 [("0", .int 1)]
    ((ofValue a).accepts routines .standard b).holds = true ∧
      ((ofValue b).accepts routines .standard c).holds = true ∧
      ((ofValue a).accepts routines .standard c).holds = false := by
  decide +kernel

end Pattern

end ShapeMatch
