import Mathlib.Data.List.Perm.Subperm
import ShapeMatch.Proofs.EqualValues
import ShapeMatch.Proofs.OwnParts

/-!
# Laws of equality

Two values agree if they have the same content and agree on what they have under every step. For
numeric equality that makes symmetry and transitivity a matter of contents, and leaves NaN as the
only thing that does not equal itself. It is enough to look in one direction: values of one kind
with as many parts are equal if one of them has an equal part under each own step of the other.
-/

namespace ShapeMatch

section Relations

variable {α β γ : Type} {a? : Option α} {b? : Option β} {c? : Option γ}

theorem rel_flip {r : α → β → Prop} {s : β → α → Prop} (hab : Option.Rel r a? b?)
    (h : ∀ a b, a? = some a → r a b → s b a) : Option.Rel s b? a? := by
  cases hab with
  | none => exact .none
  | some hr => exact .some (h _ _ rfl hr)

theorem rel_comp {r : α → β → Prop} {s : β → γ → Prop} {t : α → γ → Prop}
    (hab : Option.Rel r a? b?) (hbc : Option.Rel s b? c?)
    (h : ∀ a b c, a? = some a → r a b → s b c → t a c) : Option.Rel t a? c? := by
  cases hab with
  | none =>
    cases hbc
    exact .none
  | some hr =>
    cases hbc with
    | some hs => exact .some (h _ _ _ rfl hr hs)

theorem rel_self {r : α → α → Prop} (h : ∀ a, a? = some a → r a a) : Option.Rel r a? a? := by
  cases a? with
  | none => exact .none
  | some a => exact .some (h a rfl)

theorem rel_isSome {r : α → β → Prop} (h : Option.Rel r a? b?) : a?.isSome = b?.isSome := by
  cases h <;> rfl

theorem rel_map {f : α → γ} {g : β → γ} {r : γ → γ → Prop}
    (h : Option.Rel (fun a b => r (f a) (g b)) a? b?) : Option.Rel r (a?.map f) (b?.map g) := by
  cases h with
  | none => exact .none
  | some hr => exact .some hr

end Relations

theorem Fields.le_of_isSome_get? {α : Type} {bound : Bound} {name key : String}
    {above : bound.Below name} {content : α} {rest : Fields α (some name)}
    (h : ((Fields.cons name above content rest).get? key).isSome) : name ≤ key := by
  refine String.not_lt.1 fun before => ?_
  have key_ne : key ≠ name := fun e => String.lt_irrefl _ (e ▸ before)
  rw [get?, if_neg key_ne, get?_eq_none_of_not_lt (String.lt_asymm before)] at h
  cases h

namespace Value

section Agreement

variable {leaf : Value → Value → Bool}

theorem agree_of_scalar {v : Value} (h : v.isAggregate = false) (w : Value) :
    v.agree leaf w = leaf v w := by
  cases v with
  | list address items => cases h
  | record address fields => cases h
  | _ => cases w <;> rfl

theorem forall₂_of_rel_getElem? {r : Value → Value → Prop} {items others : List Value}
    (h : ∀ index : Nat, Option.Rel r items[index]? others[index]?) :
    List.Forall₂ r items others := by
  induction items generalizing others with
  | nil =>
    cases others with
    | nil => exact .nil
    | cons w ws => simpa using rel_isSome (h 0)
  | cons v vs ih =>
    cases others with
    | nil => simpa using rel_isSome (h 0)
    | cons w ws =>
      have first : Option.Rel r (some v) (some w) := h 0
      cases first with
      | some hvw => exact .cons hvw (ih fun index => h (index + 1))

theorem agreeFields_of_rel_get? {b c : Bound} (fields : Fields Value b) (others : Fields Value c)
    (h : ∀ key, Option.Rel (fun v w => v.agree leaf w = true) (fields.get? key) (others.get? key)) :
    agreeFields leaf fields others = true := by
  induction fields generalizing c with
  | nil =>
    cases others with
    | nil => rfl
    | cons other _ w _ => simpa [Fields.get?] using rel_isSome (h other)
  | cons name above v rest ih =>
    cases others with
    | nil => simpa [Fields.get?] using rel_isSome (h name)
    | cons other above' w others =>
      -- Each of the two first names is found on the other side, so neither precedes the other.
      have same : name = other := by
        apply String.le_antisymm
        · apply Fields.le_of_isSome_get?
          rw [rel_isSome (h other), Fields.get?, if_pos rfl, Option.isSome_some]
        · apply Fields.le_of_isSome_get?
          rw [← rel_isSome (h name), Fields.get?, if_pos rfl, Option.isSome_some]
      subst same
      have first : Option.Rel (fun v w => v.agree leaf w = true) (some v) (some w) := by
        simpa only [Fields.get?, if_pos] using h name
      have rests_agree : agreeFields leaf rest others = true := ih others fun key => by
        by_cases hkey : key = name
        · rw [hkey, Fields.get?_eq_none_of_not_lt (String.lt_irrefl _),
            Fields.get?_eq_none_of_not_lt (String.lt_irrefl _)]
          exact .none
        · simpa only [Fields.get?, if_neg hkey] using h key
      cases first with
      | some hvw => simp [agreeFields, hvw, rests_agree]

theorem agreeFields_iff {b c : Bound} (fields : Fields Value b) (others : Fields Value c) :
    agreeFields leaf fields others = true ↔ ∀ key,
      Option.Rel (fun v w => v.agree leaf w = true) (fields.get? key) (others.get? key) :=
  ⟨rel_get?_of_agreeFields fields others, agreeFields_of_rel_get? fields others⟩

theorem agree_iff (h : ComparesScalars leaf) (v w : Value) :
    v.agree leaf w = true ↔
      v.content = w.content ∧ (v.isAggregate = false → leaf v w = true) ∧
        ∀ step, Option.Rel (fun x y => x.agree leaf y = true) (v.part? step) (w.part? step) := by
  constructor
  · intro hvw
    refine ⟨content_eq_of_agree h hvw, fun scalar => ?_, rel_part?_of_agree h hvw⟩
    rwa [agree_of_scalar scalar] at hvw
  · rintro ⟨same, scalars, parts_agree⟩
    cases v with
    | list a items =>
      cases w with
      | list b others =>
        rw [agree, agreeItems_iff]
        exact forall₂_of_rel_getElem? fun index => parts_agree (.position index)
      | _ => cases same
    | record a fields =>
      cases w with
      | record b others =>
        rw [agree]
        exact agreeFields_of_rel_get? fields others fun key => parts_agree (.field key)
      | _ => cases same
    | _ =>
      rw [agree_of_scalar rfl]
      exact scalars rfl

end Agreement

theorem equals_iff_of_scalar {v w : Value} (h : v.isAggregate = false) :
    v.equals w = true ↔ v.content = w.content ∧ v.content.Comparable := by
  rw [equals, agree_of_scalar h, equalLeaf_iff]

theorem comparable_iff (v : Value) :
    v.content.Comparable ↔ v.content ≠ .number .undefined ∧ v.isAggregate = false := by
  cases v <;> simp [content, Content.Comparable, isAggregate]

theorem content_ne_number {v : Value} (h : v.isAggregate = true) (q : Binary64.Quantity) :
    v.content ≠ .number q := by
  cases v <;> simp_all [content, isAggregate]

theorem equals_iff (v w : Value) :
    v.equals w = true ↔
      v.content = w.content ∧ v.content ≠ .number .undefined ∧
        ∀ step, Option.Rel (fun x y => x.equals y = true) (v.part? step) (w.part? step) := by
  unfold equals
  rw [agree_iff comparesScalars_equalLeaf, equalLeaf_iff, comparable_iff]
  refine and_congr_right fun same => and_congr_left fun _ => ?_
  cases hv : v.isAggregate with
  | false => simp [same]
  | true => simp [content_ne_number hv]

theorem mem_entries_of_own {v w part : Value} (same : v.content = w.content) {step : Step}
    (own : step ∈ v.steps) (h : w.part? step = some part) : (step, part) ∈ w.entries := by
  obtain ⟨entry, hentry, rfl⟩ := List.mem_map.1 own
  cases v with
  | list a items =>
    obtain ⟨item, -, rfl⟩ := List.mem_map.1 hentry
    cases w with
    | list b others => exact position_mem_entries h
    | _ => cases same
  | record a fields =>
    obtain ⟨field, -, rfl⟩ := List.mem_map.1 hentry
    cases w with
    | record b others => exact field_mem_entries h
    | _ => cases same
  | _ => cases hentry

theorem exists_own_step {v part : Value} {step : Step} (h : v.part? step = some part) :
    ∃ own, (own, part) ∈ v.entries ∧
      ∀ w : Value, v.content = w.content → w.part? own = w.part? step := by
  cases v with
  | list address items =>
    cases step with
    | position index => exact ⟨.position index, position_mem_entries h, fun _ _ => rfl⟩
    | field name =>
      obtain ⟨index, hname, hitem⟩ := Option.bind_eq_some_iff.1 h
      refine ⟨.position index, position_mem_entries hitem, fun w same => ?_⟩
      cases w with
      | list _ others => simp only [part?, get?, at?, hname, Option.bind_some]
      | _ => cases same
  | record address fields =>
    cases step with
    | field name => exact ⟨.field name, field_mem_entries h, fun _ _ => rfl⟩
    | position index =>
      refine ⟨.field (Numeral.render index), field_mem_entries h, fun w same => ?_⟩
      cases w with
      | record _ others => rfl
      | _ => cases same
  | _ => cases step <;> cases h

theorem steps_subset {v w : Value} {r : Step × Value → Value → Prop}
    (same : v.content = w.content)
    (found : ∀ entry ∈ v.entries, ∃ part, w.part? entry.1 = some part ∧ r entry part) :
    v.steps ⊆ w.steps := by
  intro step own
  obtain ⟨entry, hentry, rfl⟩ := List.mem_map.1 own
  obtain ⟨part, hpart, -⟩ := found entry hentry
  exact List.mem_map.2 ⟨_, mem_entries_of_own same own hpart, rfl⟩

theorem length_entries_eq {v w : Value} (in_w : v.steps ⊆ w.steps) (in_v : w.steps ⊆ v.steps) :
    v.entries.length = w.entries.length := by
  rw [← length_steps, ← length_steps]
  exact Nat.le_antisymm (v.steps_nodup.subperm in_w).length_le
    (w.steps_nodup.subperm in_v).length_le

theorem forall_entries_of_equals {v w : Value} (h : v.equals w = true) :
    ∀ entry ∈ v.entries, ∃ part, w.part? entry.1 = some part ∧ entry.2.equals part = true := by
  intro entry hentry
  have related := ((equals_iff v w).1 h).2.2 entry.1
  rw [part?_of_mem_entries hentry] at related
  generalize w.part? entry.1 = part? at related ⊢
  cases related with
  | some hpart => exact ⟨_, rfl, hpart⟩

theorem equals_symm {v w : Value} (h : v.equals w = true) : w.equals v = true := by
  induction v using induct generalizing w with
  | step v ih =>
    obtain ⟨same, defined, parts_equal⟩ := (equals_iff v w).1 h
    refine (equals_iff w v).2 ⟨same.symm, same ▸ defined, fun step => ?_⟩
    exact rel_flip (parts_equal step) fun x y hx hxy => ih x (mem_children_of_part? hx) hxy

theorem equals_trans {u v w : Value} (huv : u.equals v = true) (hvw : v.equals w = true) :
    u.equals w = true := by
  induction u using induct generalizing v w with
  | step u ih =>
    obtain ⟨same, defined, parts_equal⟩ := (equals_iff u v).1 huv
    obtain ⟨same', -, parts_equal'⟩ := (equals_iff v w).1 hvw
    refine (equals_iff u w).2 ⟨same.trans same', defined, fun step => ?_⟩
    exact rel_comp (parts_equal step) (parts_equal' step) fun x y z hx hxy hyz =>
      ih x (mem_children_of_part? hx) hxy hyz

def isNaN : Value → Bool
  | .float x => x.isNaN
  | _ => false

/-- No part, however deep, is a NaN. -/
def NaNFree (v : Value) : Prop := ∀ part ∈ v.subvalues, part.isNaN = false

instance (v : Value) : Decidable v.NaNFree :=
  inferInstanceAs (Decidable (∀ part ∈ v.subvalues, part.isNaN = false))

theorem content_ne_undefined_iff (v : Value) :
    v.content ≠ .number .undefined ↔ v.isNaN = false := by
  cases v <;> simp [content, isNaN, Binary64.quantity_eq_undefined_iff]

theorem forall_subvalues_iff {P : Value → Prop} (v : Value) :
    (∀ part ∈ v.subvalues, P part) ↔
      P v ∧ ∀ child ∈ v.children, ∀ part ∈ child.subvalues, P part := by
  simp only [subvalues_eq v, List.forall_mem_cons, List.forall_mem_flatMap]

theorem equals_self_iff (v : Value) : v.equals v = true ↔ v.NaNFree := by
  induction v using induct with
  | step v ih =>
    rw [NaNFree, forall_subvalues_iff, ← content_ne_undefined_iff]
    constructor
    · intro h
      refine ⟨((equals_iff v v).1 h).2.1, fun child hchild => (ih child hchild).1 ?_⟩
      obtain ⟨step, hentry⟩ := exists_mem_entries_of_mem_children hchild
      obtain ⟨part, hpart, child_equals⟩ := forall_entries_of_equals h _ hentry
      obtain rfl := eq_of_mem_entries hentry hpart
      exact child_equals
    · rintro ⟨defined, children_free⟩
      refine (equals_iff v v).2 ⟨rfl, defined, fun step => rel_self fun part hpart => ?_⟩
      have child := mem_children_of_part? hpart
      exact (ih part child).2 (children_free part child)

/-- Once the parts are counted, it is enough to look up those of one side. -/
theorem equals_iff_counted (v w : Value) :
    v.equals w = true ↔
      v.content = w.content ∧ v.content ≠ .number .undefined ∧
        v.entries.length = w.entries.length ∧
        ∀ entry ∈ v.entries, ∃ part, w.part? entry.1 = some part ∧ entry.2.equals part = true := by
  constructor
  · intro h
    obtain ⟨same, defined, -⟩ := (equals_iff v w).1 h
    have found_in_w := forall_entries_of_equals h
    have found_in_v := forall_entries_of_equals (equals_symm h)
    exact ⟨same, defined, length_entries_eq (steps_subset same found_in_w)
      (steps_subset same.symm found_in_v), found_in_w⟩
  · rintro ⟨same, defined, counted, found⟩
    have in_w : v.steps ⊆ w.steps := steps_subset same found
    -- As many distinct steps on both sides, so none of the second value's is left over.
    have in_v : w.steps ⊆ v.steps := by
      refine ((v.steps_nodup.subperm in_w).perm_of_length_le ?_).symm.subset
      rw [length_steps, length_steps, counted]
    refine (equals_iff v w).2 ⟨same, defined, fun step => ?_⟩
    cases hv : v.part? step with
    | some x =>
      obtain ⟨own, hown, leads⟩ := exists_own_step hv
      obtain ⟨y, hy, hxy⟩ := found (own, x) hown
      rw [← leads w same, hy]
      exact .some hxy
    | none =>
      cases hw : w.part? step with
      | none => exact .none
      | some y =>
        obtain ⟨own, hown, leads⟩ := exists_own_step hw
        obtain ⟨entry, hentry, rfl⟩ := List.mem_map.1 (in_v (List.mem_map_of_mem hown))
        have absent := (leads v same.symm).trans hv
        rw [part?_of_mem_entries hentry] at absent
        cases absent

theorem equals_partial_equivalence :
    (∀ a b : Value, a.equals b = true → b.equals a = true) ∧
      (∀ a b c : Value, a.equals b = true → b.equals c = true → a.equals c = true) ∧
      ∀ a : Value, a.equals a = true ↔ a.NaNFree :=
  ⟨fun _ _ => equals_symm, fun _ _ _ => equals_trans, equals_self_iff⟩

theorem equals_partial_equivalence_of_mixed_numbers :
    let a : Value := .ofPairs 0
      [("n", .int 9007199254740992), ("xs", .list 1 [.float ⟨0x8000000000000000⟩])]
    let b : Value := .ofPairs 2 [("xs", .list 3 [.int 0]), ("n", .float ⟨0x4340000000000000⟩)]
    let c : Value := .ofPairs 4 [("n", .int 9007199254740992), ("xs", .list 5 [.float ⟨0⟩])]
    let d : Value := .list 6 [a, .float ⟨0x7FF8000000000000⟩]
    a.equals b = true ∧ b.equals a = true ∧ b.equals c = true ∧ a.equals c = true ∧
      a.equals a = true ∧ d.equals d = false := by
  intro a b c d
  obtain ⟨symm, trans, self_iff⟩ := equals_partial_equivalence
  have hab : a.equals b = true := by decide +kernel
  have hbc : b.equals c = true := by decide +kernel
  have a_free : a.NaNFree := by decide +kernel
  have d_not_free : ¬ d.NaNFree := by decide +kernel
  exact ⟨hab, symm a b hab, hbc, trans a b c hab hbc, (self_iff a).2 a_free,
    Bool.eq_false_iff.2 fun h => d_not_free ((self_iff d).1 h)⟩

end Value

end ShapeMatch
