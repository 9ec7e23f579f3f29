import ShapeMatch.Proofs.EqualityLaws

/-!
# Recasting values

A recasting puts other forms of the same content in place of the scalars of a value, at every
depth, and moves its lists and records to other addresses. The recast value has a recast part
wherever the value has a part, and it equals the value unless there is a NaN in it.
-/

namespace ShapeMatch

structure Recasting where
  place : Address → Address
  scalar : Value → Value
  keeps_content : ∀ v : Value, v.isAggregate = false → (scalar v).content = v.content

namespace Value

mutual

def recast (r : Recasting) : Value → Value
  | .list address items => .list (r.place address) (recastItems r items)
  | .record address fields => .record (r.place address) (recastFields r fields)
  | v => r.scalar v

def recastItems (r : Recasting) : List Value → List Value
  | [] => []
  | v :: rest => v.recast r :: recastItems r rest

def recastFields (r : Recasting) : {bound : Bound} → Fields Value bound → Fields Value bound
  | _, .nil => .nil
  | _, .cons name above v rest => .cons name above (v.recast r) (recastFields r rest)

end

variable (r : Recasting)

theorem recastItems_eq_map (items : List Value) : recastItems r items = items.map (recast r) := by
  induction items with
  | nil => rfl
  | cons v rest ih => rw [recastItems, ih, List.map_cons]

theorem toList_recastFields {bound : Bound} (fields : Fields Value bound) :
    (recastFields r fields).toList =
      fields.toList.map fun field => (field.1, field.2.recast r) := by
  induction fields with
  | nil => rfl
  | cons name above v rest ih => rw [recastFields, Fields.toList, ih, Fields.toList, List.map_cons]

theorem get?_recastFields {bound : Bound} (fields : Fields Value bound) (key : String) :
    (recastFields r fields).get? key = (fields.get? key).map (recast r) := by
  induction fields with
  | nil => rfl
  | cons name above v rest ih =>
    rw [recastFields, Fields.get?, Fields.get?, ih]
    split <;> rfl

theorem recast_of_scalar {v : Value} (h : v.isAggregate = false) : v.recast r = r.scalar v := by
  cases v with
  | list address items => cases h
  | record address fields => cases h
  | _ => rfl

theorem content_recast (v : Value) : (v.recast r).content = v.content := by
  cases h : v.isAggregate with
  | false => rw [recast_of_scalar r h, r.keeps_content v h]
  | true => cases v <;> first | rfl | cases h

theorem isAggregate_recast (v : Value) : (v.recast r).isAggregate = v.isAggregate :=
  isAggregate_eq_of_content (content_recast r v)

theorem part?_recast (v : Value) (step : Step) :
    (v.recast r).part? step = (v.part? step).map (recast r) := by
  cases h : v.isAggregate with
  | false => rw [part?_eq_none h, part?_eq_none ((isAggregate_recast r v).trans h), Option.map_none]
  | true =>
    cases v with
    | list address items =>
      rw [recast, recastItems_eq_map]
      cases step with
      | position index => exact List.getElem?_map
      | field name =>
        change (Numeral.parse? name).bind ((items.map (recast r))[·]?) =
          ((Numeral.parse? name).bind (items[·]?)).map (recast r)
        cases Numeral.parse? name with
        | none => rfl
        | some index => exact List.getElem?_map
    | record address fields => cases step <;> exact get?_recastFields r fields _
    | _ => cases h

theorem entries_recast (v : Value) :
    (v.recast r).entries = v.entries.map fun entry => (entry.1, entry.2.recast r) := by
  cases h : v.isAggregate with
  | false =>
    rw [entries_eq_nil h, entries_eq_nil ((isAggregate_recast r v).trans h), List.map_nil]
  | true =>
    cases v with
    | list address items =>
      simp only [recast, recastItems_eq_map, entries, List.zipIdx_map, List.map_map]
      rfl
    | record address fields =>
      simp only [recast, entries, toList_recastFields, List.map_map]
      rfl
    | _ => cases h

theorem equals_recast {v : Value} (free : v.NaNFree) : v.equals (v.recast r) = true := by
  induction v using induct with
  | step v ih =>
    obtain ⟨defined, children_free⟩ := (forall_subvalues_iff v).1 free
    refine (equals_iff _ _).2
      ⟨(content_recast r v).symm, (content_ne_undefined_iff v).2 defined, fun step => ?_⟩
    rw [part?_recast]
    cases hpart : v.part? step with
    | none => exact .none
    | some part =>
      have child := mem_children_of_part? hpart
      exact .some (ih part child (children_free part child))

end Value

end ShapeMatch
