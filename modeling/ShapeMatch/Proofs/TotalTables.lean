import ShapeMatch.Proofs.Tables

/-!
# What a total table does

Registering handlers fails at the first tag that is not declared, and finishing the table fails
while a declared tag has no handler. A finished table has a handler in every slot, so all that is
left to fail is a value without a declared tag.
-/

namespace ShapeMatch

open Run

variable {α : Type} {union : Union} {registrations : List (String × Handler α)}

namespace HandlerTable

theorem missingTags_ofLatest_eq_nil_iff :
    (ofLatest union registrations).missingTags = [] ↔ union.tags ⊆ registrations.map (·.1) := by
  rw [missingTags_ofLatest, List.filter_eq_nil_iff]
  simp only [decide_eq_true_eq, Decidable.not_not]
  rfl

theorem isSome_of_mem_slots (covers : union.tags ⊆ registrations.map (·.1))
    {slot : Option (Handler α)} (h : slot ∈ (ofLatest union registrations).slots) :
    slot.isSome = true := by
  obtain ⟨tag, declared, rfl⟩ := List.mem_map.1 h
  rw [Option.isSome_iff_ne_none, ne_eq, Fields.last?_eq_none_iff, Decidable.not_not]
  exact covers declared

end HandlerTable

namespace TotalTable

/-- The table runs the handler registered last for a declared tag, and reports the rest. -/
structure Dispatches (union : Union) (registrations : List (String × Handler α))
    (table : TotalTable α) : Prop where
  slots_filled : table.slots.length = union.tags.length ∧ ∀ slot ∈ table.slots, slot.isSome = true
  declared : ∀ v tag, v.tag? union.discriminant = some tag → tag ∈ union.tags →
    ∃ handler, Fields.last? registrations tag = some handler ∧
      table.apply v = ExceptT.lift (handler v)
  undeclared : ∀ v tag, v.tag? union.discriminant = some tag → tag ∉ union.tags →
    table.apply v = throw ((Cause.unmatchedTag tag).error.withNote
      ("declared tags: " ++ Listing.commas union.tags))
  untagged : ∀ v, v.tag? union.discriminant = none →
    table.apply v = fail (.missingDiscriminant union.discriminant)
  switch_same : ∀ (u : Union) v, u.discriminant = union.discriminant → u.tags = union.tags →
    u.switch v table = table.apply v
  switch_other : ∀ (u : Union) v, ¬ (u.discriminant = union.discriminant ∧ u.tags = union.tags) →
    u.switch v table = fail (.invalidUnion "dispatch table was built for a different union")

theorem dispatches_ofLatest (declared : ∀ r ∈ registrations, r.1 ∈ union.tags)
    (covers : union.tags ⊆ registrations.map (·.1)) {table : TotalTable α}
    (table_eq : table.toHandlerTable = HandlerTable.ofLatest union registrations) :
    table.Dispatches union registrations := by
  have union_eq : table.union = union := congrArg HandlerTable.union table_eq
  have handler?_eq (tag : String) : table.handler? tag = Fields.last? registrations tag := by
    rw [table_eq, HandlerTable.handler?_ofLatest declared]
  refine ⟨?filled, fun v tag tagged mem => ?declared, fun v tag tagged not_mem => ?undeclared,
    fun v untagged => ?untagged, fun u v same_name same_tags => ?same, fun u v differs => ?other⟩
  case filled =>
    rw [table_eq]
    exact ⟨List.length_map _, fun slot => HandlerTable.isSome_of_mem_slots covers⟩
  case declared =>
    cases hlatest : Fields.last? registrations tag with
    | none => exact absurd (covers mem) (Fields.last?_eq_none_iff.1 hlatest)
    | some handler =>
      exact ⟨handler, rfl, apply_of_handler (union_eq ▸ tagged) ((handler?_eq tag).trans hlatest)⟩
  case undeclared =>
    have no_handler :=
      (handler?_eq tag).trans (HandlerTable.last?_of_undeclared declared not_mem)
    rw [apply_of_no_handler (union_eq ▸ tagged) no_handler, unmatched, union_eq]
  case untagged =>
    rw [apply_of_untagged (union_eq ▸ untagged), union_eq]
  case same =>
    have same : table.union = u :=
      union_eq.trans ((Union.eq_iff union u).2 ⟨same_name.symm, same_tags.symm⟩)
    rw [Union.switch, if_pos same]
  case other =>
    have other : table.union ≠ u := fun same =>
      differs ((Union.eq_iff u union).1 (same.symm.trans union_eq))
    rw [Union.switch, if_neg other]
    rfl

theorem dispatches_of_build {registered : HandlerTable α} {table : TotalTable α}
    (hregistered : (HandlerTable.empty union).onAll registrations = .ok registered)
    (hbuild : registered.build = .ok table) : table.Dispatches union registrations := by
  have declared : ∀ r ∈ registrations, r.1 ∈ union.tags := HandlerTable.declared_of_onAll hregistered
  rw [HandlerTable.onAll_empty declared] at hregistered
  obtain rfl := Except.ok.inj hregistered
  rw [HandlerTable.build] at hbuild
  split at hbuild
  · next complete =>
    have covers := HandlerTable.missingTags_ofLatest_eq_nil_iff.1 complete
    exact dispatches_ofLatest declared covers (Except.ok.inj hbuild ▸ rfl)
  · cases hbuild

end TotalTable

theorem total_table_dispatches (union : Union) :
    (∀ (before after : List (String × Handler α)) (tag : String) (handler : Handler α),
        (∀ r ∈ before, r.1 ∈ union.tags) → tag ∉ union.tags →
        ∃ table, (HandlerTable.empty union).onAll before = .ok table ∧
          table.on tag handler = .error (Cause.undeclaredTag tag).error ∧
          (HandlerTable.empty union).onAll (before ++ (tag, handler) :: after) =
            .error (Cause.undeclaredTag tag).error) ∧
      ∀ registrations : List (String × Handler α), (∀ r ∈ registrations, r.1 ∈ union.tags) →
        ∃ table, (HandlerTable.empty union).onAll registrations = .ok table ∧
          (¬ union.tags ⊆ registrations.map (·.1) →
            table.build = .error (Cause.incompleteCases
              (union.tags.filter fun tag => decide (tag ∉ registrations.map (·.1)))).error) ∧
          (union.tags ⊆ registrations.map (·.1) →
            ∃ total, table.build = .ok total ∧ total.Dispatches union registrations) := by
  constructor
  · intro before after tag handler declared undeclared
    have reached := HandlerTable.onAll_empty declared
    have refused :=
      HandlerTable.on_of_undeclared (HandlerTable.ofLatest union before) undeclared handler
    exact ⟨_, reached, refused, HandlerTable.onAll_append_cons reached refused⟩
  · intro registrations declared
    refine ⟨_, HandlerTable.onAll_empty declared, fun not_covering => ?_, fun covers => ?_⟩
    · have incomplete := mt HandlerTable.missingTags_ofLatest_eq_nil_iff.1 not_covering
      rw [HandlerTable.build, dif_neg incomplete, HandlerTable.missingTags_ofLatest]
    · have complete := HandlerTable.missingTags_ofLatest_eq_nil_iff.2 covers
      exact ⟨_, dif_pos complete, TotalTable.dispatches_ofLatest declared covers rfl⟩

theorem total_table_dispatches_after_overwriting :
    let union : Union := ⟨"t", ["a", "b"], by decide, by decide, by decide⟩
    let other : Union := ⟨"t", ["b", "a"], by decide, by decide, by decide⟩
    let logged (label : String) : Handler String := fun v => ⟨label, [⟨label, v⟩]⟩
    let first := [("b", logged "replaced")]
    let all := first ++ [("a", logged "for a"), ("b", logged "for b")]
    let v : Value := .tagged 0 1 "t" "b" []
    let w : Value := .tagged 2 3 "t" "c" []
    (HandlerTable.empty union).onAll (first ++ [("c", logged "for c")]) =
        .error (Cause.undeclaredTag "c").error ∧
      ((HandlerTable.empty union).onAll first >>= HandlerTable.build) =
        .error (Cause.incompleteCases ["a"]).error ∧
      ∃ total, ((HandlerTable.empty union).onAll all >>= HandlerTable.build) = .ok total ∧
        total.apply v = Run.of (.ok "for b") [⟨"for b", v⟩] ∧
        total.apply w = throw ((Cause.unmatchedTag "c").error.withNote "declared tags: a, b") ∧
        total.apply .null = fail (.missingDiscriminant "t") ∧
        union.switch v total = total.apply v ∧ other.switch v total = fail Union.foreignTable := by
  intro union other logged first all v w
  obtain ⟨stops, registers⟩ := total_table_dispatches (α := String) union
  obtain ⟨-, -, -, stopped⟩ :=
    stops first [] "c" (logged "for c") (by simp [first, union]) (by decide)
  obtain ⟨table, first_registered, incomplete, -⟩ := registers first (by simp [first, union])
  obtain ⟨full, all_registered, -, complete⟩ := registers all (by simp [all, first, union])
  obtain ⟨total, built, dispatches⟩ := complete (by decide)
  obtain ⟨handler, latest, applied⟩ := dispatches.declared v "b" rfl (by decide)
  obtain rfl : logged "for b" = handler := Option.some.inj latest
  refine ⟨stopped, ?_, total, ?_, applied, dispatches.undeclared w "c" rfl (by decide),
    dispatches.untagged .null rfl, dispatches.switch_same union v rfl rfl,
    dispatches.switch_other other v (by decide)⟩
  · have missing : union.tags.filter (fun tag => decide (tag ∉ first.map (·.1))) = ["a"] := by
      decide
    rw [first_registered, ← missing]
    exact incomplete (by decide)
  · rw [all_registered]
    exact built

end ShapeMatch
