import ShapeMatch.Value.Lookup

/-!
# Parts of values

Lists and records differ in how their parts are addressed. A step names a part of either kind, so
that one argument serves both. Nesting and subvalues are read off the children of a value.
-/

namespace ShapeMatch

inductive Step where
  | field (name : String)
  | position (index : Nat)
deriving DecidableEq

theorem Fields.mem_toList_of_get? {α : Type} {bound : Bound} {key : String} {content : α}
    (fields : Fields α bound) (h : fields.get? key = some content) :
    (key, content) ∈ fields.toList := by
  induction fields with
  | nil => cases h
  | cons name _ first rest ih =>
    rw [Fields.get?] at h
    rw [Fields.toList, List.mem_cons]
    by_cases same : key = name
    · left
      rw [if_pos same] at h
      rw [same, Option.some.inj h]
    · right
      rw [if_neg same] at h
      exact ih h

def levelAbove (levels : List Nat) : Nat := levels.foldr (fun level top => max (level + 1) top) 0

theorem lt_levelAbove {level : Nat} {levels : List Nat} (h : level ∈ levels) :
    level < levelAbove levels := by
  induction levels with
  | nil => cases h
  | cons first rest ih =>
    change level < max (first + 1) (levelAbove rest)
    rcases List.mem_cons.1 h with rfl | hrest
    · omega
    · have := ih hrest
      omega

namespace Value

def part? (v : Value) : Step → Option Value
  | .field name => v.get? name
  | .position index => v.at? index

def children : Value → List Value
  | .list _ items => items
  | .record _ fields => fields.toList.map (·.2)
  | _ => []

theorem mem_children_of_part? {v part : Value} {step : Step} (h : v.part? step = some part) :
    part ∈ v.children := by
  cases v with
  | list address items =>
    cases step with
    | field name =>
      obtain ⟨index, -, hindex⟩ := Option.bind_eq_some_iff.1 h
      exact List.mem_of_getElem? hindex
    | position index => exact List.mem_of_getElem? h
  | record address fields =>
    cases step <;> exact List.mem_map_of_mem (Fields.mem_toList_of_get? fields h)
  | _ => cases step <;> cases h

mutual

theorem induct {motive : Value → Prop}
    (step : ∀ v : Value, (∀ w ∈ v.children, motive w) → motive v) : (v : Value) → motive v
  | .list _ items => step _ (inductItems step items)
  | .record _ fields => step _ (inductFields step fields)
  | .null | .bool _ | .int _ | .float _ | .str _ _ | .function _ => step _ (by simp [children])

theorem inductItems {motive : Value → Prop}
    (step : ∀ v : Value, (∀ w ∈ v.children, motive w) → motive v) :
    (items : List Value) → ∀ w ∈ items, motive w
  | [] => by simp
  | v :: rest => List.forall_mem_cons.2 ⟨induct step v, inductItems step rest⟩

theorem inductFields {motive : Value → Prop}
    (step : ∀ v : Value, (∀ w ∈ v.children, motive w) → motive v) :
    {bound : Bound} → (fields : Fields Value bound) → ∀ w ∈ fields.toList.map (·.2), motive w
  | _, .nil => by simp [Fields.toList]
  | _, .cons _ _ v rest => List.forall_mem_cons.2 ⟨induct step v, inductFields step rest⟩

end

mutual

def nesting : Value → Nat
  | .list _ items => levelAbove (itemsNesting items)
  | .record _ fields => levelAbove (fieldsNesting fields)
  | _ => 0

def itemsNesting : List Value → List Nat
  | [] => []
  | v :: rest => v.nesting :: itemsNesting rest

def fieldsNesting : {bound : Bound} → Fields Value bound → List Nat
  | _, .nil => []
  | _, .cons _ _ v rest => v.nesting :: fieldsNesting rest

end

theorem itemsNesting_eq_map (items : List Value) : itemsNesting items = items.map nesting := by
  induction items with
  | nil => rfl
  | cons v rest ih => rw [itemsNesting, ih, List.map_cons]

theorem fieldsNesting_eq_map {bound : Bound} (fields : Fields Value bound) :
    fieldsNesting fields = (fields.toList.map (·.2)).map nesting := by
  induction fields with
  | nil => rfl
  | cons name _ v rest ih => rw [fieldsNesting, ih, Fields.toList, List.map_cons, List.map_cons]

theorem nesting_eq (v : Value) : v.nesting = levelAbove (v.children.map nesting) := by
  cases v with
  | list address items => rw [nesting, itemsNesting_eq_map, children]
  | record address fields => rw [nesting, fieldsNesting_eq_map, children]
  | _ => rfl

theorem nesting_part? {v part : Value} {step : Step} (h : v.part? step = some part) :
    part.nesting < v.nesting := by
  rw [nesting_eq v]
  exact lt_levelAbove (List.mem_map_of_mem (mem_children_of_part? h))

mutual

def subvalues : Value → List Value
  | .list address items => .list address items :: itemsSubvalues items
  | .record address fields => .record address fields :: fieldsSubvalues fields
  | v => [v]

def itemsSubvalues : List Value → List Value
  | [] => []
  | v :: rest => v.subvalues ++ itemsSubvalues rest

def fieldsSubvalues : {bound : Bound} → Fields Value bound → List Value
  | _, .nil => []
  | _, .cons _ _ v rest => v.subvalues ++ fieldsSubvalues rest

end

theorem itemsSubvalues_eq_flatMap (items : List Value) :
    itemsSubvalues items = items.flatMap subvalues := by
  induction items with
  | nil => rfl
  | cons v rest ih => rw [itemsSubvalues, ih, List.flatMap_cons]

theorem fieldsSubvalues_eq_flatMap {bound : Bound} (fields : Fields Value bound) :
    fieldsSubvalues fields = (fields.toList.map (·.2)).flatMap subvalues := by
  induction fields with
  | nil => rfl
  | cons name _ v rest ih =>
    rw [fieldsSubvalues, ih, Fields.toList, List.map_cons, List.flatMap_cons]

theorem subvalues_eq (v : Value) : v.subvalues = v :: v.children.flatMap subvalues := by
  cases v with
  | list address items => rw [subvalues, itemsSubvalues_eq_flatMap, children]
  | record address fields => rw [subvalues, fieldsSubvalues_eq_flatMap, children]
  | _ => rfl

theorem self_mem_subvalues (v : Value) : v ∈ v.subvalues := by
  rw [subvalues_eq]
  exact List.mem_cons_self

theorem subvalues_subset_of_mem {v part : Value} (h : part ∈ v.subvalues) :
    part.subvalues ⊆ v.subvalues := by
  induction v using induct with
  | step v ih =>
    rw [subvalues_eq v] at h ⊢
    rcases List.mem_cons.1 h with rfl | h
    · rw [subvalues_eq part]
      exact List.Subset.refl _
    · obtain ⟨child, hchild, hpart⟩ := List.mem_flatMap.1 h
      intro u hu
      exact List.mem_cons_of_mem _ (List.mem_flatMap.2 ⟨child, hchild, ih child hchild hpart hu⟩)

theorem mem_subvalues_of_mem_children {v child : Value} (h : child ∈ v.children) :
    child ∈ v.subvalues := by
  rw [subvalues_eq v]
  exact List.mem_cons_of_mem _ (List.mem_flatMap.2 ⟨child, h, child.self_mem_subvalues⟩)

theorem items?_subset_subvalues {v part : Value} {items : List Value} (h : part ∈ v.subvalues)
    (hitems : part.items? = some items) : items ⊆ v.subvalues := by
  cases part with
  | list address contents =>
    obtain rfl := Option.some.inj hitems
    intro item hitem
    exact subvalues_subset_of_mem h (mem_subvalues_of_mem_children hitem)
  | _ => cases hitems

theorem subvalues_part? {v part : Value} {step : Step} (h : v.part? step = some part) :
    part.subvalues ⊆ v.subvalues := by
  intro u hu
  rw [subvalues_eq v]
  exact List.mem_cons_of_mem _ (List.mem_flatMap.2 ⟨part, mem_children_of_part? h, hu⟩)

end Value

end ShapeMatch
