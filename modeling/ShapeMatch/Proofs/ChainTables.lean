import ShapeMatch.Proofs.Acceptance
import ShapeMatch.Proofs.Tables

/-!
# Chains and tables agree

Cases that accept every value choose by the tag alone, like a table. The first case for a tag wins
in a chain and the last handler for it in a table, so a table built from the reversed list chooses
the same handler, and the two fail for the same reasons.
-/

namespace ShapeMatch

open Run

variable {α : Type}

def cause? : Except MatchError α → Option Cause
  | .error e => some e.cause
  | .ok _ => none

def Case.unguarded (registration : String × Handler α) : Case α :=
  ⟨registration.1, .any, registration.2⟩

theorem Pattern.accepts_any (routines : Routines) (config : Config) (v : Value) :
    Pattern.any.accepts routines config v = pure true := by
  rw [accepts, any, acceptsFrom_predicate, if_neg (Nat.not_lt_zero _)]
  rfl

theorem lookup_eq_find? {β : Type} (tag : String) (entries : List (String × β)) :
    entries.lookup tag = (entries.find? fun entry => some tag = some entry.1).map (·.2) := by
  induction entries with
  | nil => rfl
  | cons entry rest ih =>
    rw [Fields.lookup_cons_eq_ite, List.find?_cons, ih]
    by_cases same : tag = entry.1 <;> simp [same]

namespace CaseChain

variable (routines : Routines) (config : Config) {union : Union} {v : Value}
  {registrations : List (String × Handler α)}

def own? (union : Union) (v : Value) (registrations : List (String × Handler α)) :
    Option (Handler α) :=
  (v.tag? union.discriminant).bind fun tag => registrations.lookup tag

theorem own?_eq_find? :
    own? union v registrations =
      (registrations.find? fun r => v.tag? union.discriminant = some r.1).map (·.2) := by
  rw [own?]
  cases v.tag? union.discriminant with
  | none =>
    have none_own : registrations.find? (fun r => decide (none = some r.1)) = none :=
      List.find?_eq_none.2 (by simp)
    rw [none_own]
    rfl
  | some tag => exact lookup_eq_find? tag registrations

theorem unguarded_declared (declared : ∀ r ∈ registrations, r.1 ∈ union.tags) :
    ∀ c ∈ registrations.map Case.unguarded, union.contains c.tag = true :=
  List.forall_mem_map.2 fun r hr => (union.contains_iff_mem r.1).2 (declared r hr)

theorem deciding?_unguarded (declared : ∀ r ∈ registrations, r.1 ∈ union.tags) :
    (deciding? routines config union v (registrations.map Case.unguarded)).map (·.handler) =
      own? union v registrations := by
  have cases_declared := unguarded_declared declared
  have not_refused (r : String × Handler α) :
      (guard routines config v (Case.unguarded r)).refuses = false := by
    rw [guard, Case.unguarded, Pattern.accepts_any]
    rfl
  rw [deciding?, candidates_of_declared cases_declared, List.find?_filter, List.find?_map,
    own?_eq_find?, Option.map_map]
  simp only [Function.comp_def, not_refused, Bool.not_false, and_true, Bool.decide_eq_true]
  rfl

theorem ending_unguarded (declared : ∀ r ∈ registrations, r.1 ∈ union.tags) :
    ending routines config union v (registrations.map Case.unguarded) =
      .ok (match own? union v registrations with
        | some handler => .resolved (handler v).value
        | none => .searching) := by
  have cases_declared := unguarded_declared declared
  rw [ending, ← deciding?_unguarded routines config declared]
  cases hdeciding : deciding? routines config union v (registrations.map Case.unguarded) with
  | none => exact checked_of_all_declared cases_declared _
  | some c =>
    obtain ⟨r, -, rfl⟩ := List.mem_map.1 (mem_of_deciding? hdeciding)
    have accepted : (guard routines config v (Case.unguarded r)).outcome = .ok true :=
      congrArg outcome (Pattern.accepts_any routines config v)
    simp only [accepted]
    exact checked_of_all_declared cases_declared _

theorem exists_addAll_unguarded (declared : ∀ r ∈ registrations, r.1 ∈ union.tags) :
    ∃ chain,
      ((start union v).addAll routines config (registrations.map Case.unguarded)).outcome =
          .ok chain ∧
        chain.result? = (own? union v registrations).map fun handler => (handler v).value := by
  rw [outcome_addAll_eq, ending_unguarded routines config declared]
  refine ⟨_, rfl, ?_⟩
  cases own? union v registrations <;> rfl

theorem own?_eq_none_of_untagged (h : v.tag? union.discriminant = none) :
    own? union v registrations = none := by
  rw [own?, h]
  rfl

theorem own?_of_tag {tag : String} (h : v.tag? union.discriminant = some tag) :
    own? union v registrations = registrations.lookup tag := by
  rw [own?, h]
  rfl

end CaseChain

section Correspondence

variable {union : Union} {v : Value} {chain : CaseChain α}
  {registrations : List (String × Handler α)}

theorem declared_reverse (declared : ∀ r ∈ registrations, r.1 ∈ union.tags) :
    ∀ r ∈ registrations.reverse, r.1 ∈ union.tags := fun r hr =>
  declared r (List.mem_reverse.1 hr)

theorem handler?_ofLatest_reverse (declared : ∀ r ∈ registrations, r.1 ∈ union.tags)
    (tag : String) :
    (HandlerTable.ofLatest union registrations.reverse).handler? tag =
      registrations.lookup tag := by
  have reversed_declared := declared_reverse declared
  rw [HandlerTable.handler?_ofLatest reversed_declared, Fields.last?, List.reverse_reverse]

theorem mapped?_ofLatest (declared : ∀ r ∈ registrations, r.1 ∈ union.tags)
    (fallback : Handler α) :
    (PartialTable.ofLatest union registrations fallback).mapped? v =
      CaseChain.own? union v registrations.reverse :=
  congrArg _ (funext (HandlerTable.handler?_ofLatest declared))

theorem partial_corresponds (declared : ∀ r ∈ registrations, r.1 ∈ union.tags)
    (result_eq : chain.result? =
      (CaseChain.own? union v registrations).map fun handler => (handler v).value)
    (fallback : Handler α) :
    ∃ partialTable : PartialTable α,
      (PartialTable.empty union fallback).onAll registrations.reverse = .ok partialTable ∧
      (∀ r, chain.result? = some r ↔ ∃ handler, partialTable.mapped? v = some handler ∧
        partialTable.apply v = handler v ∧ (handler v).value = r) ∧
      (chain.result? = none ↔
        partialTable.mapped? v = none ∧ partialTable.apply v = fallback v) := by
  have reversed_declared := declared_reverse declared
  let partialTable := PartialTable.ofLatest union registrations.reverse fallback
  have mapped_eq : partialTable.mapped? v = CaseChain.own? union v registrations := by
    rw [mapped?_ofLatest reversed_declared, List.reverse_reverse]
  refine ⟨partialTable, PartialTable.onAll_empty reversed_declared fallback, ?_, ?_⟩
  · intro r
    rw [result_eq, mapped_eq, Option.map_eq_some_iff]
    constructor
    · rintro ⟨handler, own, result⟩
      exact ⟨handler, own, PartialTable.apply_of_mapped (mapped_eq.trans own), result⟩
    · rintro ⟨handler, own, -, result⟩
      exact ⟨handler, own, result⟩
  · rw [result_eq, mapped_eq, Option.map_eq_none_iff]
    constructor
    · intro unmapped
      exact ⟨unmapped, PartialTable.apply_of_unmapped (mapped_eq.trans unmapped)⟩
    · exact And.left

theorem exhaustive_corresponds {total : TotalTable α} (same_union : total.union = union)
    (tag_eq : chain.tag? = v.tag? union.discriminant)
    (result_eq : chain.result? =
      (CaseChain.own? union v registrations).map fun handler => (handler v).value)
    (handler_eq : ∀ tag, total.handler? tag = registrations.lookup tag)
    (covered : chain.missingTags = []) :
    (∀ r, chain.exhaustive = .ok r ↔ (total.apply v).outcome = .ok r) ∧
      (∀ tag, cause? chain.exhaustive = some (.unresolvedExhaustive (some tag)) ↔
        cause? (total.apply v).outcome = some (.unmatchedTag tag)) ∧
      (cause? chain.exhaustive = some (.unresolvedExhaustive none) ↔
        cause? (total.apply v).outcome = some (.missingDiscriminant union.discriminant)) := by
  subst same_union
  cases htag : v.tag? total.union.discriminant with
  | none =>
    rw [CaseChain.own?_eq_none_of_untagged htag] at result_eq
    rw [CaseChain.exhaustive_of_no_result covered result_eq, tag_eq, htag,
      TotalTable.apply_of_untagged htag]
    simp [cause?, Cause.error]
  | some tag =>
    rw [CaseChain.own?_of_tag htag] at result_eq
    cases hlookup : registrations.lookup tag with
    | none =>
      rw [hlookup] at result_eq
      rw [CaseChain.exhaustive_of_no_result covered result_eq, tag_eq, htag,
        TotalTable.apply_of_no_handler htag ((handler_eq tag).trans hlookup), outcome_throw]
      simp [cause?, Cause.error, TotalTable.unmatched, MatchError.withNote]
    | some handler =>
      rw [hlookup] at result_eq
      rw [CaseChain.exhaustive_of_result covered result_eq,
        TotalTable.apply_of_handler htag ((handler_eq tag).trans hlookup)]
      simp [cause?]

end Correspondence

theorem chain_agrees_with_tables (routines : Routines) (config : Config) (union : Union)
    (v : Value) (registrations : List (String × Handler α))
    (declared : ∀ r ∈ registrations, r.1 ∈ union.tags) :
    ∃ (chain : CaseChain α) (table : HandlerTable α),
      ((CaseChain.start union v).addAll routines config
          (registrations.map Case.unguarded)).outcome = .ok chain ∧
      (HandlerTable.empty union).onAll registrations.reverse = .ok table ∧
      (∀ fallback, ∃ partialTable : PartialTable α,
        (PartialTable.empty union fallback).onAll registrations.reverse = .ok partialTable ∧
        (∀ r, chain.result? = some r ↔ ∃ handler, partialTable.mapped? v = some handler ∧
          partialTable.apply v = handler v ∧ (handler v).value = r) ∧
        (chain.result? = none ↔
          partialTable.mapped? v = none ∧ partialTable.apply v = fallback v)) ∧
      (union.tags ⊆ registrations.map (·.1) → ∃ total, table.build = .ok total ∧
        (∀ r, chain.exhaustive = .ok r ↔ (total.apply v).outcome = .ok r) ∧
        (∀ tag, cause? chain.exhaustive = some (.unresolvedExhaustive (some tag)) ↔
          cause? (total.apply v).outcome = some (.unmatchedTag tag)) ∧
        (cause? chain.exhaustive = some (.unresolvedExhaustive none) ↔
          cause? (total.apply v).outcome = some (.missingDiscriminant union.discriminant))) ∧
      (¬ union.tags ⊆ registrations.map (·.1) → ∃ missing,
        cause? chain.exhaustive = some (.incompleteCases missing) ∧
          cause? table.build = some (.incompleteCases missing)) := by
  have reversed_declared := declared_reverse declared
  obtain ⟨chain, reached, result_eq⟩ :=
    CaseChain.exists_addAll_unguarded routines config (v := v) declared
  have registers := CaseChain.registers_of_reached reached
  have registered_eq : CaseChain.registered (registrations.map Case.unguarded) =
      registrations.map (·.1) := List.map_map
  rw [registered_eq] at registers
  let table := HandlerTable.ofLatest union registrations.reverse
  have missing_eq : table.missingTags = chain.missingTags := by
    rw [HandlerTable.missingTags_ofLatest, registers.missingTags_eq]
    simp only [List.map_reverse, List.mem_reverse]
  refine ⟨chain, table, reached, HandlerTable.onAll_empty reversed_declared,
    partial_corresponds declared result_eq, ?totals, ?incomplete⟩
  case totals =>
    intro covers
    have covered := registers.missingTags_eq_nil_iff.2 covers
    have complete : table.missingTags = [] := missing_eq.trans covered
    refine ⟨{ table with complete }, dif_pos complete, ?_⟩
    exact exhaustive_corresponds rfl registers.tag?_eq result_eq
      (handler?_ofLatest_reverse declared) covered
  case incomplete =>
    intro not_covering
    have uncovered : chain.missingTags ≠ [] := mt registers.missingTags_eq_nil_iff.1 not_covering
    have incomplete : table.missingTags ≠ [] := missing_eq ▸ uncovered
    refine ⟨chain.missingTags, ?_, ?_⟩
    · rw [CaseChain.exhaustive_of_missing uncovered]
      rfl
    · rw [HandlerTable.build, dif_neg incomplete, missing_eq]
      rfl

theorem chain_agrees_with_tables_of_repeated_tag :
    let routines : Routines := fun _ _ => pure (.ok .null)
    let union : Union := ⟨"t", ["a", "b"], by decide, by decide, by decide⟩
    let v : Value := .tagged 0 1 "t" "a" []
    let registrations : List (String × Handler Nat) :=
      [("b", fun _ => pure 1), ("a", fun _ => pure 2), ("a", fun _ => pure 3)]
    (∀ r ∈ registrations, r.1 ∈ union.tags) ∧
      ∃ chain total,
        ((CaseChain.start union v).addAll routines .standard
            (registrations.map Case.unguarded)).outcome = .ok chain ∧
          ((HandlerTable.empty union).onAll registrations.reverse >>= HandlerTable.build) =
            .ok total ∧
          chain.exhaustive = .ok 2 ∧ (total.apply v).outcome = .ok 2 := by
  intro routines union v registrations
  have declared : ∀ r ∈ registrations, r.1 ∈ union.tags := by simp [registrations, union]
  have covers : union.tags ⊆ registrations.map (·.1) := by decide
  obtain ⟨chain, table, reached, registered, -, totals, -⟩ :=
    chain_agrees_with_tables routines .standard union v registrations declared
  obtain ⟨total, built, results_eq, -⟩ := totals covers
  have exhaustive_eq : chain.exhaustive = .ok 2 := by
    have finished : (((CaseChain.start union v).addAll routines .standard
        (registrations.map Case.unguarded)).outcome >>= CaseChain.exhaustive) = .ok 2 := rfl
    rwa [reached] at finished
  refine ⟨declared, chain, total, reached, ?_, exhaustive_eq, (results_eq 2).1 exhaustive_eq⟩
  rw [registered]
  exact built

end ShapeMatch
