import ShapeMatch.Proofs.Acceptance

/-!
# Lifting literals

A list or record literal accepts its own allocation at once, and otherwise stands for the pattern
that it lifts to. Lifting all of them beforehand changes nothing for a value that shares no
allocation with them. Sharing can only turn another outcome into acceptance.
-/

namespace ShapeMatch.Pattern

open Run

mutual

def lift : Pattern → Pattern
  | .literal data => if data.isAggregate then ofValue data else .literal data
  | .predicate matcher => .predicate matcher
  | .fields entries => .fields (liftEntries entries)
  | .sequence items => .sequence (liftItems items)

def liftEntries : List (String × Pattern) → List (String × Pattern)
  | [] => []
  | (name, p) :: rest => (name, p.lift) :: liftEntries rest

def liftItems : List Pattern → List Pattern
  | [] => []
  | p :: rest => p.lift :: liftItems rest

end

theorem liftEntries_eq_map (entries : List (String × Pattern)) :
    liftEntries entries = entries.map fun entry => (entry.1, entry.2.lift) := by
  induction entries with
  | nil => rfl
  | cons entry rest ih => rw [liftEntries, ih, List.map_cons]

theorem liftItems_eq_map (items : List Pattern) : liftItems items = items.map lift := by
  induction items with
  | nil => rfl
  | cons p rest ih => rw [liftItems, ih, List.map_cons]

theorem lift_node {p : Pattern} (h : p.isNode = true) :
    p.lift.isNode = true ∧ p.lift.parts = p.parts.map fun part => (part.1, part.2.lift) := by
  cases p with
  | fields entries =>
    rw [lift, liftEntries_eq_map]
    refine ⟨rfl, ?_⟩
    simp [parts]
  | sequence items =>
    rw [lift, liftItems_eq_map]
    refine ⟨rfl, ?_⟩
    simp [parts, List.zipIdx_map]
  | _ => cases h

variable (routines : Routines) (limit : Nat)

theorem acceptsFrom_lift (p : Pattern) (depth : Nat) (v : Value) (h : p.Apart v) :
    acceptsFrom routines limit depth p.lift v = acceptsFrom routines limit depth p v := by
  induction p using induct generalizing depth v with
  | scalar data hdata => rw [lift, hdata, if_neg Bool.false_ne_true]
  | predicate matcher => rw [lift]
  | aggregate data hdata ih =>
    rw [lift, if_pos hdata, acceptsFrom_aggregate _ _ _ _ hdata, h.not_shared hdata]
    by_cases hlt : limit < depth
    · rw [if_pos hlt, acceptsFrom_of_limit_lt routines limit depth v _ hlt]
    · rw [if_neg hlt, if_neg Bool.false_ne_true]
  | node p hp ih =>
    obtain ⟨lift_isNode, lift_parts⟩ := lift_node hp
    have parts_eq : ∀ q ∈ p.parts,
        acceptsPart routines limit depth v (q.1, q.2.lift) =
          acceptsPart routines limit depth v q := by
      intro q hq
      unfold acceptsPart
      cases hsub : v.part? q.1 with
      | none => rfl
      | some sub => exact ih q hq (depth + 1) sub (h.part hq hsub)
    have runs_eq : p.lift.parts.map (acceptsPart routines limit depth v) =
        p.parts.map (acceptsPart routines limit depth v) := by
      rw [lift_parts, List.map_map]
      exact List.map_congr_left parts_eq
    rw [acceptsFrom_node _ _ _ _ lift_isNode, acceptsFrom_node _ _ _ _ hp, runs_eq]

theorem holds_of_lift (p : Pattern) (depth : Nat) (v : Value)
    (h : (acceptsFrom routines limit depth p.lift v).holds = true) :
    (acceptsFrom routines limit depth p v).holds = true := by
  induction p using induct generalizing depth v with
  | scalar data hdata => rwa [lift, hdata, if_neg Bool.false_ne_true] at h
  | predicate matcher => rwa [lift] at h
  | aggregate data hdata ih =>
    rw [lift, if_pos hdata] at h
    rw [acceptsFrom_aggregate _ _ _ _ hdata]
    by_cases hlt : limit < depth
    · rw [acceptsFrom_of_limit_lt routines limit depth v _ hlt] at h
      cases h
    · rw [if_neg hlt]
      by_cases shared : data.sharesAllocation v = true
      · rw [if_pos shared, holds_pure]
      · rwa [if_neg shared]
  | node p hp ih =>
    obtain ⟨lift_isNode, lift_parts⟩ := lift_node hp
    obtain ⟨hle, hagg, lifted⟩ := (holds_acceptsFrom_node _ _ _ _ lift_isNode).1 h
    refine (holds_acceptsFrom_node _ _ _ _ hp).2 ⟨hle, hagg, ?_⟩
    intro q hq
    have lift_mem : (q.1, q.2.lift) ∈ p.lift.parts := lift_parts ▸ List.mem_map_of_mem hq
    obtain ⟨sub, hsub, hholds⟩ := lifted _ lift_mem
    exact ⟨sub, hsub, ih q hq (depth + 1) sub hholds⟩

theorem accepts_lift (config : Config) (p : Pattern) (v : Value) :
    (p.Apart v → p.accepts routines config v = p.lift.accepts routines config v) ∧
      ((p.lift.accepts routines config v).outcome = .ok true →
        (p.accepts routines config v).outcome = .ok true) := by
  constructor
  · intro apart
    exact (acceptsFrom_lift routines config.maxDepth p 0 v apart).symm
  · intro lifted
    exact holds_iff.1 (holds_of_lift routines config.maxDepth p 0 v (holds_iff.2 lifted))

theorem accepts_lift_of_shared_record :
    let routines : Routines := fun _ _ => pure (.ok .null)
    let data : Value := .record 5 (.ofList [("x", .int 1)])
    let p : Pattern := .fields [("a", .literal data), ("b", .predicate .any)]
    let v : Value := .record 0 (.ofList [("a", .record 6 (.ofList [("x", .int 2)]))])
    let w : Value := .record 0 (.ofList [("a", data), ("b", .null)])
    p.Apart v ∧ p.accepts routines .standard v = p.lift.accepts routines .standard v ∧
      (p.lift.accepts routines .standard w).outcome = .ok true ∧
      (p.accepts routines .standard w).outcome = .ok true := by
  intro routines data p v w
  have apart : p.Apart v := by decide
  have lifted : (p.lift.accepts routines .standard w).outcome = .ok true :=
    holds_iff.1 (by decide +kernel)
  exact ⟨apart, (accepts_lift routines .standard p v).1 apart, lifted,
    (accepts_lift routines .standard p w).2 lifted⟩

/-- A shared record is accepted with its null, which no lifted pattern accepts. -/
example :
    let data : Value := .record 5 (.ofList [("x", .null)])
    let routines : Routines := fun _ _ => pure (.ok .null)
    ((literal data).accepts routines .standard data).holds = true ∧
      ((literal data).lift.accepts routines .standard data).holds = false := by
  decide +kernel

end ShapeMatch.Pattern
