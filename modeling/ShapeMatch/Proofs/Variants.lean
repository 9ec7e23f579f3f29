import ShapeMatch.Proofs.TotalTables

/-!
# Variants read back

A variant is built by writing its pairs one after the other and its tag at the end. Whoever reads it
finds the tag under the discriminant, whatever the pairs say of it, and the last pair of every other
name. Refinements and total tables see the same tag.
-/

namespace ShapeMatch

theorem Value.get?_tagged (address tagAddress : Address) (discriminant tag key : String)
    (pairs : List (String × Value)) :
    (Value.tagged address tagAddress discriminant tag pairs).get? key =
      if key = discriminant then some (.str tagAddress tag) else Fields.last? pairs key := by
  rw [tagged, get?, Fields.get?_put, Fields.get?_ofList]

namespace Union

/-- Every reader finds the tag and, under the other names, the pair that was written last. -/
structure ReadsAs (u : Union) (tag : String) (pairs : List (String × Value)) (v : Value) : Prop where
  tagOf_eq : u.tagOf v = .ok tag
  get?_iff : ∀ key content, key ≠ u.discriminant →
    (v.get? key = some content ↔
      ∃ before after, pairs = before ++ (key, content) :: after ∧ key ∉ after.map (·.1))
  names_iff : ∃ address fields, v = .record address fields ∧
    ∀ key, key ∈ fields.names ↔ key = u.discriminant ∨ key ∈ pairs.map (·.1)
  refined : ∀ tags, (∀ t ∈ tags, t ∈ u.tags) →
    ∃ m, u.refinement tags = .ok m ∧ m.test v = pure (decide (tag ∈ tags))
  dispatched : ∀ {α : Type} (registrations : List (String × Handler α)) (table : HandlerTable α)
    (total : TotalTable α), (HandlerTable.empty u).onAll registrations = .ok table →
    table.build = .ok total →
    ∃ handler, Fields.last? registrations tag = some handler ∧
      total.apply v = ExceptT.lift (handler v)

variable {u : Union} {tag : String}

theorem readsAs_tagged (declared : tag ∈ u.tags) (address tagAddress : Address)
    (pairs : List (String × Value)) :
    u.ReadsAs tag pairs (.tagged address tagAddress u.discriminant tag pairs) := by
  have own_tag := Value.tag?_tagged address tagAddress u.discriminant tag pairs
  refine ⟨?tagOf, fun key content other => ?get?, ⟨address, _, rfl, fun key => ?names⟩,
    fun tags tags_declared => ?refined, fun registrations table total registered built => ?dispatched⟩
  case tagOf => rw [tagOf, own_tag]
  case get? => rw [Value.get?_tagged, if_neg other, Fields.last?_eq_some_iff]
  case names =>
    rw [Fields.mem_names_iff, Fields.get?_put, Fields.get?_ofList]
    by_cases own : key = u.discriminant
    · simp [own]
    · rw [if_neg own, Option.isSome_iff_ne_none, ne_eq, Fields.last?_eq_none_iff,
        Decidable.not_not]
      exact (or_iff_right own).symm
  case refined =>
    obtain ⟨m, refined, test_eq⟩ := exists_refinement tags_declared
    refine ⟨m, refined, ?_⟩
    rw [test_eq, carries, own_tag]
    simp
  case dispatched =>
    have dispatches := TotalTable.dispatches_of_build registered built
    exact dispatches.declared _ tag own_tag declared

theorem variant_of_declared (declared : tag ∈ u.tags) (address tagAddress : Address)
    (pairs : List (String × Value)) :
    u.variant address tagAddress tag pairs =
      .ok (.tagged address tagAddress u.discriminant tag pairs) := by
  obtain ⟨index, -, required⟩ := exists_position? declared
  rw [variant, required]
  rfl

theorem variant_of_undeclared (undeclared : tag ∉ u.tags) (address tagAddress : Address)
    (pairs : List (String × Value)) :
    u.variant address tagAddress tag pairs = .error (Cause.undeclaredTag tag).error := by
  rw [variant, require_of_undeclared undeclared]
  rfl

theorem variant_reads_back (u : Union) (address tagAddress : Address) (tag : String)
    (pairs : List (String × Value)) :
    (∀ e, u.variant address tagAddress tag pairs = .error e ↔
        tag ∉ u.tags ∧ e = (Cause.undeclaredTag tag).error) ∧
      (tag ∈ u.tags →
        ∃ v, u.variant address tagAddress tag pairs = .ok v ∧ u.ReadsAs tag pairs v) := by
  constructor
  · intro e
    by_cases declared : tag ∈ u.tags
    · simp [variant_of_declared declared, declared]
    · simp [variant_of_undeclared declared, declared, eq_comm]
  · intro declared
    exact ⟨_, variant_of_declared declared address tagAddress pairs,
      readsAs_tagged declared address tagAddress pairs⟩

theorem variant_reads_back_of_shadowing_pair :
    let u : Union := ⟨"kind", ["leaf", "node"], by decide, by decide, by decide⟩
    let pairs : List (String × Value) :=
      [("x", .int 1), ("kind", .str 5 "leaf"), ("x", .null), ("y", .bool true)]
    let registrations : List (String × Handler Nat) :=
      [("node", fun _ => pure 1), ("leaf", fun _ => pure 2), ("node", fun _ => pure 3)]
    u.variant 0 1 "tree" pairs = .error (Cause.undeclaredTag "tree").error ∧
      "node" ∈ u.tags ∧
      ∃ v m total, u.variant 0 1 "node" pairs = .ok v ∧ u.tagOf v = .ok "node" ∧
        v.get? "x" = some .null ∧
        u.refinement ["leaf", "leaf"] = .ok m ∧ m.test v = pure false ∧
        ((HandlerTable.empty u).onAll registrations >>= HandlerTable.build) = .ok total ∧
        total.apply v = pure 3 := by
  intro u pairs registrations
  have declared : "node" ∈ u.tags := by decide
  obtain ⟨refused, -⟩ := variant_reads_back u 0 1 "tree" pairs
  obtain ⟨-, built⟩ := variant_reads_back u 0 1 "node" pairs
  obtain ⟨v, built, reads⟩ := built declared
  obtain ⟨m, refined, refuses⟩ := reads.refined ["leaf", "leaf"] (by decide)
  have registered : (HandlerTable.empty u).onAll registrations =
      .ok (HandlerTable.ofLatest u registrations) := rfl
  have complete : (HandlerTable.ofLatest u registrations).missingTags = [] := by decide
  have finished : (HandlerTable.ofLatest u registrations).build =
      .ok { HandlerTable.ofLatest u registrations with complete } := dif_pos complete
  obtain ⟨handler, latest, applied⟩ := reads.dispatched registrations _ _ registered finished
  obtain rfl : (fun _ => pure 3) = handler := Option.some.inj latest
  refine ⟨(refused _).2 ⟨by decide, rfl⟩, declared, v, m, _, built, reads.tagOf_eq, ?_, refined,
    refuses, ?_, applied⟩
  · exact (reads.get?_iff "x" .null (by decide)).2
      ⟨[("x", .int 1), ("kind", .str 5 "leaf")], [("y", .bool true)], rfl, by decide⟩
  · rw [registered]
    exact finished

end Union

end ShapeMatch
