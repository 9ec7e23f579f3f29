import Mathlib.Data.List.Induction
import Mathlib.Data.List.Nodup
import ShapeMatch.Proofs.ValueParts

/-!
# The parts a value holds

A part can be found under several steps, but a value holds it under one step of its own: a list
under its position and a record under its name. The own steps of a value are distinct and lead to
all of its children.
-/

namespace ShapeMatch

theorem nodup_map_positions {α β : Type} {f : Nat → β} (injective : Function.Injective f)
    (items : List α) : (items.zipIdx.map fun item => f item.2).Nodup := by
  have positions_eq : (items.zipIdx.map fun item => f item.2) =
      (List.range' 0 items.length).map f := by
    rw [← List.zipIdx_map_snd, List.map_map]
    rfl
  rw [positions_eq]
  exact (List.nodup_range' 1).map injective

namespace Fields

variable {α : Type} {bound : Bound}

theorem below_of_mem_toList {fields : Fields α bound} {field : String × α}
    (h : field ∈ fields.toList) : bound.Below field.1 := by
  induction fields with
  | nil => cases h
  | cons name above content rest ih =>
    rcases List.mem_cons.1 h with rfl | hrest
    · exact above
    · exact above.trans (ih hrest)

theorem get?_eq_some_iff (fields : Fields α bound) (key : String) (content : α) :
    fields.get? key = some content ↔ (key, content) ∈ fields.toList := by
  refine ⟨fields.mem_toList_of_get?, fun h => ?_⟩
  induction fields with
  | nil => cases h
  | cons name above first rest ih =>
    rw [get?]
    rcases List.mem_cons.1 h with same | hrest
    · cases same
      rw [if_pos rfl]
    · have after : name < key := below_of_mem_toList hrest
      have key_ne : key ≠ name := fun e => String.lt_irrefl _ (e ▸ after)
      rw [if_neg key_ne, ih hrest]

theorem toList_inj {a b : Fields α bound} (h : a.toList = b.toList) : a = b :=
  ext_get? fun key => Option.ext fun content => by
    rw [get?_eq_some_iff, get?_eq_some_iff, h]

theorem mem_names_iff (fields : Fields α bound) (key : String) :
    key ∈ fields.names ↔ (fields.get? key).isSome = true := by
  simp only [names, Option.isSome_iff_exists, get?_eq_some_iff, List.mem_map, Prod.exists,
    exists_and_right, exists_eq_right]

theorem names_ascend (fields : Fields α bound) : fields.names.Pairwise (· < ·) := by
  induction fields with
  | nil => exact .nil
  | cons name above content rest ih =>
    exact .cons (List.forall_mem_map.2 fun field hfield => below_of_mem_toList hfield) ih

theorem names_nodup (fields : Fields α bound) : fields.names.Nodup :=
  fields.names_ascend.imp String.ne_of_lt

theorem lookup_cons_eq_ite (pair : String × α) (rest : List (String × α)) (key : String) :
    (pair :: rest).lookup key = if key = pair.1 then some pair.2 else rest.lookup key := by
  rw [List.lookup_cons]
  by_cases same : key = pair.1
  · simp [same]
  · simp [same, beq_eq_false_iff_ne.2 same]

/-- The content of the last pair with the name. -/
def last? (pairs : List (String × α)) (key : String) : Option α := pairs.reverse.lookup key

theorem last?_nil (key : String) : last? ([] : List (String × α)) key = none := rfl

@[simp] theorem last?_cons (pair : String × α) (rest : List (String × α)) (key : String) :
    last? (pair :: rest) key = (last? rest key).or (if key = pair.1 then some pair.2 else none) := by
  rw [last?, last?, List.reverse_cons, List.lookup_append, lookup_cons_eq_ite, List.lookup_nil]

theorem last?_concat (pairs : List (String × α)) (name : String) (content : α) (key : String) :
    last? (pairs ++ [(name, content)]) key =
      if key = name then some content else last? pairs key := by
  rw [last?, last?, List.reverse_concat, lookup_cons_eq_ite]

theorem forall_bne_iff (pairs : List (String × α)) (key : String) :
    (∀ pair ∈ pairs, (key != pair.1) = true) ↔ key ∉ pairs.map (·.1) := by
  simp only [bne_iff_ne, List.mem_map, not_exists, not_and]
  exact forall₂_congr fun _ _ => ne_comm

theorem last?_eq_none_iff {pairs : List (String × α)} {key : String} :
    last? pairs key = none ↔ key ∉ pairs.map (·.1) := by
  rw [last?, List.lookup_eq_none_iff, forall_bne_iff, List.map_reverse, List.mem_reverse]

theorem last?_eq_some_iff {pairs : List (String × α)} {key : String} {content : α} :
    last? pairs key = some content ↔
      ∃ before after, pairs = before ++ (key, content) :: after ∧ key ∉ after.map (·.1) := by
  simp only [last?, List.lookup_eq_some_iff, forall_bne_iff]
  constructor
  · rintro ⟨later, earlier, reversed, not_later⟩
    have pairs_eq := List.reverse_eq_append_iff.1 reversed
    exact ⟨earlier.reverse, later.reverse, by simpa using pairs_eq, by simpa using not_later⟩
  · rintro ⟨before, after, pairs_eq, not_after⟩
    exact ⟨after.reverse, before.reverse, by simp [pairs_eq], by simpa using not_after⟩

theorem get?_ofList (pairs : List (String × α)) (key : String) :
    (ofList pairs).get? key = last? pairs key := by
  induction pairs using List.reverseRecOn with
  | nil => rfl
  | append_singleton pairs pair ih =>
    rw [ofList_concat, get?_put, ih, last?_concat]

theorem get?_ofList_eq_some_iff {pairs : List (String × α)}
    (distinct : (pairs.map (·.1)).Nodup) (key : String) (content : α) :
    (ofList pairs).get? key = some content ↔ (key, content) ∈ pairs := by
  induction pairs using List.reverseRecOn with
  | nil => simp [ofList, get?]
  | append_singleton pairs pair ih =>
    rw [List.map_append, List.nodup_append_comm] at distinct
    obtain ⟨fresh, rest_distinct⟩ := List.nodup_cons.1 distinct
    obtain ⟨name, last⟩ := pair
    rw [ofList_concat, get?_put, List.mem_append, List.mem_singleton, Prod.mk.injEq]
    by_cases same : key = name
    · have not_before : (key, content) ∉ pairs := fun h =>
        fresh (List.mem_map.2 ⟨_, h, same⟩)
      simp [same, eq_comm, same ▸ not_before]
    · simp [same, ih rest_distinct]

end Fields

namespace Value

/-- The parts of a value, each under the step by which the value itself holds it. -/
def entries : Value → List (Step × Value)
  | .list _ items => items.zipIdx.map fun item => (.position item.2, item.1)
  | .record _ fields => fields.toList.map fun field => (.field field.1, field.2)
  | _ => []

theorem entries_eq_nil {v : Value} (h : v.isAggregate = false) : v.entries = [] := by
  cases v <;> first | rfl | cases h

theorem mem_children_of_mem_entries {v : Value} {entry : Step × Value} (h : entry ∈ v.entries) :
    entry.2 ∈ v.children := by
  cases v with
  | list address items =>
    obtain ⟨item, hitem, rfl⟩ := List.mem_map.1 h
    exact List.fst_mem_of_mem_zipIdx hitem
  | record address fields =>
    obtain ⟨field, hfield, rfl⟩ := List.mem_map.1 h
    exact List.mem_map_of_mem hfield
  | _ => cases h

theorem position_mem_entries {address : Address} {items : List Value} {index : Nat} {part : Value}
    (h : items[index]? = some part) :
    (Step.position index, part) ∈ (Value.list address items).entries :=
  List.mem_map.2 ⟨(part, index), List.mem_zipIdx_iff_getElem?.2 h, rfl⟩

theorem field_mem_entries {address : Address} {fields : Fields Value none} {name : String}
    {part : Value} (h : fields.get? name = some part) :
    (Step.field name, part) ∈ (Value.record address fields).entries :=
  List.mem_map.2 ⟨(name, part), Fields.mem_toList_of_get? fields h, rfl⟩

theorem exists_mem_entries_of_mem_children {v child : Value} (h : child ∈ v.children) :
    ∃ step, (step, child) ∈ v.entries := by
  cases v with
  | list address items =>
    obtain ⟨index, hindex⟩ := List.mem_iff_getElem?.1 h
    exact ⟨.position index, position_mem_entries hindex⟩
  | record address fields =>
    obtain ⟨field, hfield, rfl⟩ := List.mem_map.1 h
    exact ⟨.field field.1, List.mem_map_of_mem hfield⟩
  | _ => cases h

theorem part?_of_mem_entries {v part : Value} {step : Step} (h : (step, part) ∈ v.entries) :
    v.part? step = some part := by
  cases v with
  | list address items =>
    obtain ⟨item, hitem, same⟩ := List.mem_map.1 h
    cases same
    exact List.mem_zipIdx_iff_getElem?.1 hitem
  | record address fields =>
    obtain ⟨field, hfield, same⟩ := List.mem_map.1 h
    cases same
    exact (fields.get?_eq_some_iff _ _).2 hfield
  | _ => cases h

theorem eq_of_mem_entries {v x y : Value} {step : Step} (h : (step, x) ∈ v.entries)
    (hy : v.part? step = some y) : x = y :=
  Option.some.inj ((part?_of_mem_entries h).symm.trans hy)

def steps (v : Value) : List Step := v.entries.map (·.1)

theorem length_steps (v : Value) : v.steps.length = v.entries.length := List.length_map _

theorem steps_nodup (v : Value) : v.steps.Nodup := by
  cases v with
  | list address items =>
    rw [steps, entries, List.map_map]
    exact nodup_map_positions (fun _ _ => Step.position.inj) items
  | record address fields =>
    have steps_eq : (Value.record address fields).steps = fields.names.map .field := by
      rw [steps, entries, Fields.names, List.map_map, List.map_map]
      rfl
    rw [steps_eq]
    exact fields.names_nodup.map fun _ _ => Step.field.inj
  | _ => exact List.nodup_nil

end Value

end ShapeMatch
