import ShapeMatch.Proofs.ChainTables
import ShapeMatch.Proofs.Unions

/-!
# Three ways to ask for a tag

A refinement compares a value's tag with the tags it lists, a chain of unguarded cases compares it
with one case after the other, and a table looks up its position. With the same tags they single out
the same values, those that carry one of the tags. The other declared tags single out the other
values with a declared tag.
-/

namespace ShapeMatch

open Run

variable {α : Type} {union : Union} {v : Value}

namespace Union

def Declares (union : Union) (v : Value) : Prop :=
  ∃ tag ∈ union.tags, v.tag? union.discriminant = some tag

theorem carries_of_complement {tags others : List String}
    (complement : ∀ tag, tag ∈ others ↔ tag ∈ union.tags ∧ tag ∉ tags) (h : union.Declares v) :
    union.carries others v = !union.carries tags v := by
  obtain ⟨tag, declared, own_tag⟩ := h
  simp [carries, own_tag, complement, declared]

theorem carries_of_not_declares {tags : List String} (declared : ∀ tag ∈ tags, tag ∈ union.tags)
    (h : ¬ union.Declares v) : union.carries tags v = false := by
  refine Bool.eq_false_iff.2 fun carried => h ?_
  obtain ⟨tag, listed, own_tag⟩ := (union.carries_iff v).1 carried
  exact ⟨tag, declared tag listed, own_tag⟩

end Union

theorem isSome_own? (registrations : List (String × Handler α)) :
    (CaseChain.own? union v registrations).isSome =
      union.carries (registrations.map (·.1)) v := by
  rw [CaseChain.own?_eq_find?, Option.isSome_map, Bool.eq_iff_iff, List.find?_isSome,
    union.carries_iff]
  simp

theorem mem_of_own? {registrations : List (String × Handler α)} {handler : Handler α}
    (h : CaseChain.own? union v registrations = some handler) :
    ∃ r ∈ registrations, r.2 = handler := by
  rw [CaseChain.own?_eq_find?] at h
  obtain ⟨r, found, same⟩ := Option.map_eq_some_iff.1 h
  exact ⟨r, List.mem_of_find?_eq_some found, same⟩

theorem exists_addAll_isResolved (routines : Routines) (config : Config)
    {registrations : List (String × Handler α)}
    (declared : ∀ r ∈ registrations, r.1 ∈ union.tags) :
    ∃ chain,
      ((CaseChain.start union v).addAll routines config
          (registrations.map Case.unguarded)).outcome = .ok chain ∧
        chain.isResolved = union.carries (registrations.map (·.1)) v := by
  obtain ⟨chain, reached, result_eq⟩ :=
    CaseChain.exists_addAll_unguarded routines config (v := v) declared
  refine ⟨chain, reached, ?_⟩
  rw [CaseChain.isResolved, result_eq, Option.isSome_map, isSome_own?]

section Table

variable {registrations : List (String × Handler α)}
  (declared : ∀ r ∈ registrations, r.1 ∈ union.tags) (fallback : Handler α)

include declared

theorem isSome_mapped? :
    ((PartialTable.ofLatest union registrations fallback).mapped? v).isSome =
      union.carries (registrations.map (·.1)) v := by
  rw [mapped?_ofLatest declared, isSome_own?]
  exact union.carries_congr (by simp) v

theorem carries_iff_mapped :
    union.carries (registrations.map (·.1)) v = true ↔
      ∃ r ∈ registrations,
        (PartialTable.ofLatest union registrations fallback).mapped? v = some r.2 ∧
          (PartialTable.ofLatest union registrations fallback).apply v = r.2 v := by
  rw [← isSome_mapped? declared fallback, Option.isSome_iff_exists]
  constructor
  · rintro ⟨handler, mapped⟩
    have own := (mapped?_ofLatest declared fallback).symm.trans mapped
    obtain ⟨r, hr, rfl⟩ := mem_of_own? own
    exact ⟨r, List.mem_reverse.1 hr, mapped, PartialTable.apply_of_mapped mapped⟩
  · rintro ⟨r, -, mapped, -⟩
    exact ⟨r.2, mapped⟩

theorem not_carries_iff_unmapped :
    union.carries (registrations.map (·.1)) v = false ↔
      (PartialTable.ofLatest union registrations fallback).mapped? v = none ∧
        (PartialTable.ofLatest union registrations fallback).apply v = fallback v := by
  rw [← isSome_mapped? declared fallback, Option.isSome_eq_false_iff,
    Option.isNone_iff_eq_none]
  constructor
  · intro unmapped
    exact ⟨unmapped, PartialTable.apply_of_unmapped unmapped⟩
  · rintro ⟨unmapped, -⟩
    exact unmapped

end Table

theorem refinements_chains_and_tables_agree {α β : Type} (routines : Routines) (config : Config)
    (union : Union) (tags : List String) :
    (∀ e, union.refinement tags = .error e ↔
        ∃ tag, union.FirstUndeclared tags tag ∧ e = (Cause.undeclaredTag tag).error) ∧
      ((∀ tag ∈ tags, tag ∈ union.tags) → ∃ m, union.refinement tags = .ok m ∧
        (∀ (v : Value) (entries : List (String × Handler α)), entries.map (·.1) = tags →
          ∃ chain,
            ((CaseChain.start union v).addAll routines config
                (entries.map Case.unguarded)).outcome = .ok chain ∧
              m.test v = pure chain.isResolved) ∧
        (∀ (entries : List (String × Handler β)) (fallback : Handler β),
          entries.map (·.1) = tags →
          ∃ table, (PartialTable.empty union fallback).onAll entries = .ok table ∧
            ∀ v, (m.test v = pure true ↔
                ∃ r ∈ entries, table.mapped? v = some r.2 ∧ table.apply v = r.2 v) ∧
              (m.test v = pure false ↔
                table.mapped? v = none ∧ table.apply v = fallback v)) ∧
        ∀ others, (∀ tag, tag ∈ others ↔ tag ∈ union.tags ∧ tag ∉ tags) →
          ∃ m', union.refinement others = .ok m' ∧
            ∀ v, (union.Declares v →
                ∃ accepted, m.test v = pure accepted ∧ m'.test v = pure !accepted) ∧
              (¬ union.Declares v → m.test v = pure false ∧ m'.test v = pure false)) := by
  refine ⟨union.refinement_eq_error_iff, fun declared => ?_⟩
  have entries_declared {γ : Type} {entries : List (String × Handler γ)}
      (entries_eq : entries.map (·.1) = tags) : ∀ r ∈ entries, r.1 ∈ union.tags :=
    List.forall_mem_map.1 (entries_eq ▸ declared)
  obtain ⟨m, refined, test_eq⟩ := Union.exists_refinement declared
  refine ⟨m, refined, fun v entries entries_eq => ?chain, fun entries fallback entries_eq => ?table,
    fun others complement => ?complement⟩
  case chain =>
    obtain ⟨chain, reached, resolved_eq⟩ :=
      exists_addAll_isResolved routines config (v := v) (entries_declared entries_eq)
    exact ⟨chain, reached, by rw [test_eq, resolved_eq, entries_eq]⟩
  case table =>
    have declared_entries := entries_declared entries_eq
    refine ⟨_, PartialTable.onAll_empty declared_entries fallback, fun v => ?_⟩
    rw [test_eq, pure_inj, pure_inj, ← entries_eq]
    exact ⟨carries_iff_mapped declared_entries fallback,
      not_carries_iff_unmapped declared_entries fallback⟩
  case complement =>
    have others_declared : ∀ tag ∈ others, tag ∈ union.tags := fun tag h => ((complement tag).1 h).1
    obtain ⟨m', refined', test_eq'⟩ := Union.exists_refinement others_declared
    refine ⟨m', refined', fun v => ⟨fun declares => ?_, fun not_declares => ?_⟩⟩
    · exact ⟨_, test_eq v, by rw [test_eq', Union.carries_of_complement complement declares]⟩
    · rw [test_eq, test_eq', Union.carries_of_not_declares declared not_declares,
        Union.carries_of_not_declares others_declared not_declares]
      exact ⟨rfl, rfl⟩

theorem refinements_chains_and_tables_agree_of_repeated_tag :
    let union : Union := ⟨"t", ["a", "b", "c"], by decide, by decide, by decide⟩
    let tags : List String := ["b", "a", "b"]
    let entries : List (String × Handler Nat) :=
      [("b", fun _ => pure 1), ("a", fun _ => pure 2), ("b", fun _ => pure 3)]
    let v : Value := .tagged 0 1 "t" "b" []
    let w : Value := .tagged 2 3 "t" "z" []
    union.refinement ["b", "z", "y"] = .error (Cause.undeclaredTag "z").error ∧
      (∀ tag ∈ tags, tag ∈ union.tags) ∧
      ∃ m m' table, union.refinement tags = .ok m ∧ union.refinement ["c"] = .ok m' ∧
        (PartialTable.empty union fun _ => pure 0).onAll entries = .ok table ∧
        m.test v = pure true ∧ m'.test v = pure false ∧
        (∃ r ∈ entries, table.mapped? v = some r.2 ∧ table.apply v = r.2 v) ∧
        m.test w = pure false ∧ m'.test w = pure false ∧ table.apply w = pure 0 := by
  intro union tags entries v w
  let routines : Routines := fun _ _ => pure (.ok .null)
  have agree := refinements_chains_and_tables_agree (α := Nat) (β := Nat) routines .standard union
  have declared : ∀ tag ∈ tags, tag ∈ union.tags := by decide
  obtain ⟨m, refined, chains, tables, complements⟩ := (agree tags).2 declared
  obtain ⟨chain, reached, by_chain⟩ := chains v entries rfl
  obtain ⟨table, registered, by_table⟩ := tables entries (fun _ => pure 0) rfl
  obtain ⟨m', refined', by_complement⟩ := complements ["c"] (by grind)
  have resolved : chain.isResolved = true := by
    have run_resolved : ((CaseChain.start union v).addAll routines .standard
        (entries.map Case.unguarded)).outcome.map (·.isResolved) = .ok true := rfl
    rw [reached] at run_resolved
    exact Except.ok.inj run_resolved
  have accepted : m.test v = pure true := resolved ▸ by_chain
  have undeclared : ¬ union.Declares w := by
    rintro ⟨tag, declared, own_tag⟩
    obtain rfl : "z" = tag := Option.some.inj own_tag
    exact absurd declared (by decide)
  obtain ⟨refused, refused'⟩ := (by_complement w).2 undeclared
  obtain ⟨other, same, opposite⟩ := (by_complement v).1 ⟨"b", by decide, rfl⟩
  obtain rfl : true = other := pure_inj.1 (accepted.symm.trans same)
  exact ⟨((agree _).1 _).2 ⟨"z", ⟨["b"], ["y"], rfl, by decide, by decide⟩, rfl⟩, declared, m, m',
    table, refined, refined', registered, accepted, opposite, (by_table v).1.1 accepted, refused,
    refused', ((by_table w).2.1 refused).2⟩

end ShapeMatch
