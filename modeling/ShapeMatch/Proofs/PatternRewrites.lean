import ShapeMatch.Proofs.Acceptance

/-!
# Rewriting patterns

A rule rewrites parts of a pattern at any depth, any number of times. What is seen of a match stays
the same if the rule keeps it and if it composes: what is seen of two tests in a row depends only on
what is seen of each. Two rules are of this kind. Positions can be written as field names, which
changes nothing at all. Field entries can be reordered and repeated, which keeps what is accepted.
-/

namespace ShapeMatch

namespace Run

variable {β : Type} {view : Run Bool → β}

def Composes (view : Run Bool → β) : Prop :=
  ∀ x x' y y' : Run Bool, view x = view x' → view y = view y' →
    view (both x y) = view (both x' y')

theorem composes_id : Composes id := by
  rintro x _ y _ rfl rfl
  rfl

theorem composes_holds : Composes holds := by
  intro x x' y y' hx hy
  rw [holds_both, holds_both, hx, hy]

theorem Composes.inOrder_replace (h : Composes view) {x y : Run Bool} (hxy : view x = view y)
    (before after : List (Run Bool)) :
    view (inOrder (before ++ x :: after)) = view (inOrder (before ++ y :: after)) := by
  induction before with
  | nil => exact h _ _ _ _ hxy rfl
  | cons first rest ih => exact h _ _ _ _ rfl ih

end Run

open Run

theorem Value.part?_field_render {index : Nat} (word : index < Numeral.wordBound) (v : Value) :
    v.part? (.field (Numeral.render index)) = v.part? (.position index) := by
  cases v with
  | list address items =>
    change (Numeral.parse? (Numeral.render index)).bind (items[·]?) = items[index]?
    rw [Numeral.parse?_render word, Option.bind_some]
  | _ => rfl

namespace Pattern

/-- The rule is applied at any depth, any number of times. -/
inductive Rewrites (rule : Pattern → Pattern → Prop) : Pattern → Pattern → Prop where
  | refl (p : Pattern) : Rewrites rule p p
  | here {p q : Pattern} (h : rule p q) : Rewrites rule p q
  | inField {p q : Pattern} (before : List (String × Pattern)) (name : String)
      (after : List (String × Pattern)) (h : Rewrites rule p q) :
      Rewrites rule (.fields (before ++ (name, p) :: after)) (.fields (before ++ (name, q) :: after))
  | inItem {p q : Pattern} (before after : List Pattern) (h : Rewrites rule p q) :
      Rewrites rule (.sequence (before ++ p :: after)) (.sequence (before ++ q :: after))
  | trans {p q r : Pattern} (first : Rewrites rule p q) (second : Rewrites rule q r) :
      Rewrites rule p r

theorem parts_fields_append (before : List (String × Pattern)) (name : String) (p : Pattern)
    (after : List (String × Pattern)) :
    (fields (before ++ (name, p) :: after)).parts =
      (fields before).parts ++ (.field name, p) :: (fields after).parts := by
  simp [parts]

theorem parts_sequence_append (before : List Pattern) (p : Pattern) (after : List Pattern) :
    (sequence (before ++ p :: after)).parts =
      (sequence before).parts ++ (.position before.length, p) ::
        (after.zipIdx (before.length + 1)).map fun item => (.position item.2, item.1) := by
  simp [parts, List.zipIdx_append, List.zipIdx_cons]

section View

variable {β : Type} (view : Run Bool → β) (routines : Routines) (limit : Nat)

def SeenAlike (p q : Pattern) : Prop :=
  ∀ depth v, view (acceptsFrom routines limit depth p v) =
    view (acceptsFrom routines limit depth q v)

variable {view routines limit} {p q : Pattern}

theorem SeenAlike.node (composes : Composes view) {x y : Pattern} {step : Step}
    {before after : List (Step × Pattern)} (hp : p.isNode = true) (hq : q.isNode = true)
    (p_parts : p.parts = before ++ (step, x) :: after)
    (q_parts : q.parts = before ++ (step, y) :: after) (h : SeenAlike view routines limit x y) :
    SeenAlike view routines limit p q := by
  intro depth v
  have part_eq : view (acceptsPart routines limit depth v (step, x)) =
      view (acceptsPart routines limit depth v (step, y)) := by
    unfold acceptsPart
    cases v.part? step with
    | none => rfl
    | some part => exact h (depth + 1) part
  -- The parts before the one that differs and the parts after it are the same tests on both sides.
  rw [acceptsFrom_node _ _ _ _ hp, acceptsFrom_node _ _ _ _ hq, p_parts, q_parts]
  split
  · rfl
  · rw [ofAggregate_eq_both, ofAggregate_eq_both, List.map_append, List.map_append, List.map_cons,
      List.map_cons]
    exact composes _ _ _ _ rfl (composes.inOrder_replace part_eq _ _)

theorem Rewrites.seenAlike {rule : Pattern → Pattern → Prop} (composes : Composes view)
    (sound : ∀ p q, rule p q → SeenAlike view routines limit p q) (h : Rewrites rule p q) :
    SeenAlike view routines limit p q := by
  induction h with
  | refl p => exact fun _ _ => rfl
  | here h => exact sound _ _ h
  | inField before name after _ ih =>
    exact ih.node composes rfl rfl (parts_fields_append before name _ after)
      (parts_fields_append before name _ after)
  | inItem before after _ ih =>
    exact ih.node composes rfl rfl (parts_sequence_append before _ after)
      (parts_sequence_append before _ after)
  | trans _ _ first second => exact fun depth v => (first depth v).trans (second depth v)

end View

section Positions

def numbered (items : List Pattern) : List (String × Pattern) :=
  items.zipIdx.map fun item => (Numeral.render item.2, item.1)

example : (numbered [any, null, any]).map (·.1) = ["0", "1", "2"] := by decide +kernel

/-- A position pattern, written as a field pattern. Its positions are words. -/
inductive PositionsNamed : Pattern → Pattern → Prop where
  | intro (items : List Pattern) (words : items.length ≤ Numeral.wordBound) :
      PositionsNamed (.sequence items) (.fields (numbered items))

variable (routines : Routines)

theorem acceptsFrom_numbered (limit depth : Nat) {items : List Pattern}
    (words : items.length ≤ Numeral.wordBound) (v : Value) :
    acceptsFrom routines limit depth (.sequence items) v =
      acceptsFrom routines limit depth (.fields (numbered items)) v := by
  have runs_eq : (sequence items).parts.map (acceptsPart routines limit depth v) =
      (fields (numbered items)).parts.map (acceptsPart routines limit depth v) := by
    simp only [parts, numbered, List.map_map]
    apply List.map_congr_left
    intro item hitem
    have word : item.2 < Numeral.wordBound :=
      Nat.lt_of_lt_of_le (List.snd_lt_of_mem_zipIdx hitem) (by simpa using words)
    simp only [Function.comp_apply, acceptsPart, Value.part?_field_render word]
  rw [acceptsFrom_node _ _ _ _ rfl, acceptsFrom_node _ _ _ _ rfl, runs_eq]

theorem accepts_eq_of_positionsNamed (config : Config) {p q : Pattern}
    (rewrites : Rewrites PositionsNamed p q) (v : Value) :
    p.accepts routines config v = q.accepts routines config v := by
  refine rewrites.seenAlike composes_id ?_ 0 v
  rintro _ _ ⟨items, words⟩ depth w
  exact acceptsFrom_numbered routines config.maxDepth depth words w

theorem accepts_eq_of_positionsNamed_twice :
    let watch : Matcher := ⟨"watch", fun v => ⟨.ok true, [⟨"watch", v⟩]⟩⟩
    let inner : List Pattern := [.predicate .number, .literal (.function ⟨"f", "g"⟩)]
    let p : Pattern := .fields [("xs", .sequence [.predicate watch, .sequence inner])]
    let q : Pattern := .fields
      [("xs", .fields (numbered [.predicate watch, .fields (numbered inner)]))]
    let v : Value := .ofPairs 0
      [("xs", .list 1 [.null, .ofPairs 2 [("1", .str 3 "s"), ("0", .int 5)]])]
    let routines : Routines := fun _ _ => pure (.error "no")
    Rewrites PositionsNamed p q ∧
      p.accepts routines .standard v = q.accepts routines .standard v ∧
      (p.accepts routines .standard v).outcome =
        .error (Cause.predicateFailure "g" "no").error ∧
      (p.accepts routines .standard v).calls = [⟨"watch", .null⟩] := by
  intro watch inner p q v routines
  have inner_named : Rewrites PositionsNamed (.sequence inner) (.fields (numbered inner)) :=
    .here (.intro inner (by decide))
  have outer_named : Rewrites PositionsNamed
      (.sequence [.predicate watch, .fields (numbered inner)])
      (.fields (numbered [.predicate watch, .fields (numbered inner)])) :=
    .here (.intro _ (by decide))
  have rewrites : Rewrites PositionsNamed p q :=
    .inField [] "xs" [] ((Rewrites.inItem [.predicate watch] [] inner_named).trans outer_named)
  exact ⟨rewrites, accepts_eq_of_positionsNamed routines .standard rewrites v, rfl, rfl⟩

end Positions

section Entries

/-- The entries of a field pattern, in another order and each any number of times. -/
inductive SameEntries : Pattern → Pattern → Prop where
  | intro {entries others : List (String × Pattern)}
      (same : ∀ entry, entry ∈ entries ↔ entry ∈ others) :
      SameEntries (.fields entries) (.fields others)

variable (routines : Routines)

theorem holds_acceptsFrom_of_sameEntries (limit depth : Nat)
    {entries others : List (String × Pattern)} (same : ∀ entry, entry ∈ entries ↔ entry ∈ others)
    (v : Value) :
    (acceptsFrom routines limit depth (.fields entries) v).holds =
      (acceptsFrom routines limit depth (.fields others) v).holds := by
  rw [Bool.eq_iff_iff, holds_acceptsFrom_node _ _ _ _ rfl, holds_acceptsFrom_node _ _ _ _ rfl]
  simp only [parts, List.forall_mem_map, same]

theorem accepts_iff_of_sameEntries (config : Config) {p q : Pattern}
    (rewrites : Rewrites SameEntries p q) (v : Value) :
    ((p.accepts routines config v).outcome = .ok true ↔
        (q.accepts routines config v).outcome = .ok true) ∧
      ∀ a b, (p.accepts routines config v).outcome = .ok a →
        (q.accepts routines config v).outcome = .ok b → a = b := by
  have holds_eq : (p.accepts routines config v).holds = (q.accepts routines config v).holds := by
    refine rewrites.seenAlike composes_holds ?_ 0 v
    rintro _ _ ⟨same⟩ depth w
    exact holds_acceptsFrom_of_sameEntries routines config.maxDepth depth same w
  constructor
  · rw [← holds_iff, ← holds_iff, holds_eq]
  · intro a b ha hb
    rwa [holds, ha, holds, hb] at holds_eq

theorem accepts_iff_of_sameEntries_nested :
    let isOne : Pattern := .literal (.int 1)
    let failing : Pattern := .literal (.function ⟨"f", "g"⟩)
    let entries : List (String × Pattern) := [("x", isOne), ("y", failing)]
    let others : List (String × Pattern) := [("y", failing), ("x", isOne), ("y", failing)]
    let p : Pattern := .sequence [.fields entries]
    let q : Pattern := .sequence [.fields others]
    let routines : Routines := fun _ arguments =>
      pure (if arguments.any Value.isNumber then .ok (.bool true) else .error "no")
    let v : Value := .list 0 [.ofPairs 1 [("x", .int 1), ("y", .int 2)]]
    let w : Value := .list 0 [.ofPairs 1 [("x", .int 3), ("y", .null)]]
    Rewrites SameEntries p q ∧
      (p.accepts routines .standard v).outcome = .ok true ∧
      (q.accepts routines .standard v).outcome = .ok true ∧
      (p.accepts routines .standard w).outcome = .ok false ∧
      (q.accepts routines .standard w).outcome =
        .error (Cause.predicateFailure "g" "no").error := by
  intro isOne failing entries others p q routines v w
  have same : ∀ entry, entry ∈ entries ↔ entry ∈ others := by grind
  have rewrites : Rewrites SameEntries p q := .inItem [] [] (.here (.intro same))
  have accepted : (p.accepts routines .standard v).outcome = .ok true :=
    holds_iff.1 (by decide +kernel)
  exact ⟨rewrites, accepted, (accepts_iff_of_sameEntries routines .standard rewrites v).1.1 accepted,
    rfl, rfl⟩

end Entries

end Pattern

end ShapeMatch
