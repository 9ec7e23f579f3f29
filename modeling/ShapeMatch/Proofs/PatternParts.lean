import ShapeMatch.Pattern.Basic
import ShapeMatch.Proofs.ValueParts

/-!
# Parts of patterns

Field and position patterns are nodes, whose parts are reached by steps. `Pattern.induct` takes a
pattern apart into scalar literals, matchers, nodes, and literals that are lists or records. The
last stand for the pattern that they lift to.
-/

namespace ShapeMatch.Pattern

def isNode : Pattern → Bool
  | .fields _ | .sequence _ => true
  | _ => false

def parts : Pattern → List (Step × Pattern)
  | .fields entries => entries.map fun entry => (.field entry.1, entry.2)
  | .sequence items => items.zipIdx.map fun item => (.position item.2, item.1)
  | _ => []

theorem exists_entry_of_mem_parts {entries : List (String × Pattern)} {part : Step × Pattern}
    (h : part ∈ (Pattern.fields entries).parts) : ∃ entry ∈ entries, entry.2 = part.2 := by
  obtain ⟨entry, hentry, rfl⟩ := List.mem_map.1 h
  exact ⟨entry, hentry, rfl⟩

theorem mem_items_of_mem_parts {items : List Pattern} {part : Step × Pattern}
    (h : part ∈ (Pattern.sequence items).parts) : part.2 ∈ items := by
  obtain ⟨item, hitem, rfl⟩ := List.mem_map.1 h
  exact List.fst_mem_of_mem_zipIdx hitem

theorem entry_mem_parts {entries : List (String × Pattern)} {entry : String × Pattern}
    (h : entry ∈ entries) : (Step.field entry.1, entry.2) ∈ (Pattern.fields entries).parts :=
  List.mem_map_of_mem h

theorem exists_mem_parts_of_mem_items {items : List Pattern} {item : Pattern} (h : item ∈ items) :
    ∃ index, (Step.position index, item) ∈ (Pattern.sequence items).parts := by
  obtain ⟨index, hindex⟩ := List.mem_iff_getElem?.1 h
  exact ⟨index, List.mem_map.2 ⟨(item, index), List.mem_zipIdx_iff_getElem?.2 hindex, rfl⟩⟩

mutual

theorem inductParts {motive : Pattern → Prop}
    (step : ∀ p : Pattern, (∀ part ∈ p.parts, motive part.2) → motive p) : (p : Pattern) → motive p
  | .literal _ | .predicate _ => step _ (by simp [parts])
  | .fields entries => step _ fun part hpart => by
    obtain ⟨entry, hentry, same⟩ := exists_entry_of_mem_parts hpart
    exact same ▸ inductEntries step entries entry hentry
  | .sequence items => step _ fun part hpart =>
    inductItems step items part.2 (mem_items_of_mem_parts hpart)

theorem inductEntries {motive : Pattern → Prop}
    (step : ∀ p : Pattern, (∀ part ∈ p.parts, motive part.2) → motive p) :
    (entries : List (String × Pattern)) → ∀ entry ∈ entries, motive entry.2
  | [] => by simp
  | (_, p) :: rest => List.forall_mem_cons.2 ⟨inductParts step p, inductEntries step rest⟩

theorem inductItems {motive : Pattern → Prop}
    (step : ∀ p : Pattern, (∀ part ∈ p.parts, motive part.2) → motive p) :
    (items : List Pattern) → ∀ p ∈ items, motive p
  | [] => by simp
  | p :: rest => List.forall_mem_cons.2 ⟨inductParts step p, inductItems step rest⟩

end

section Induction

variable {motive : Pattern → Prop}
  (scalar : ∀ data : Value, data.isAggregate = false → motive (.literal data))
  (predicate : ∀ matcher, motive (.predicate matcher))
  (node : ∀ p : Pattern, p.isNode = true → (∀ part ∈ p.parts, motive part.2) → motive p)
  (aggregate : ∀ data : Value, data.isAggregate = true → motive (ofValue data) →
    motive (.literal data))

include scalar node

theorem induct_ofValue (data : Value) : motive (ofValue data) := by
  induction data using Value.induct with
  | step v ih =>
    cases v with
    | list address items =>
      rw [ofValue, ofItems_eq_map]
      refine node _ rfl ?_
      intro part hpart
      obtain ⟨w, hw, same⟩ := List.mem_map.1 (mem_items_of_mem_parts hpart)
      exact same ▸ ih w hw
    | record address members =>
      rw [ofValue, ofFields_eq_map]
      refine node _ rfl ?_
      intro part hpart
      obtain ⟨entry, hentry, same⟩ := exists_entry_of_mem_parts hpart
      obtain ⟨member, hmember, rfl⟩ := List.mem_map.1 hentry
      exact same ▸ ih member.2 (List.mem_map_of_mem hmember)
    | _ => exact scalar _ rfl

include predicate aggregate

theorem induct (p : Pattern) : motive p := by
  induction p using inductParts with
  | step p ih =>
    cases p with
    | literal data =>
      cases hdata : data.isAggregate with
      | false => exact scalar data hdata
      | true => exact aggregate data hdata (induct_ofValue scalar node data)
    | predicate matcher => exact predicate matcher
    | fields entries => exact node _ rfl ih
    | sequence items => exact node _ rfl ih

end Induction

mutual

def nesting : Pattern → Nat
  | .literal data => data.nesting
  | .predicate _ => 0
  | .fields entries => levelAbove (entriesNesting entries)
  | .sequence items => levelAbove (itemsNesting items)

def entriesNesting : List (String × Pattern) → List Nat
  | [] => []
  | (_, p) :: rest => p.nesting :: entriesNesting rest

def itemsNesting : List Pattern → List Nat
  | [] => []
  | p :: rest => p.nesting :: itemsNesting rest

end

theorem entriesNesting_eq_map (entries : List (String × Pattern)) :
    entriesNesting entries = entries.map (·.2.nesting) := by
  induction entries with
  | nil => rfl
  | cons entry rest ih => rw [entriesNesting, ih, List.map_cons]

theorem itemsNesting_eq_map (items : List Pattern) : itemsNesting items = items.map nesting := by
  induction items with
  | nil => rfl
  | cons p rest ih => rw [itemsNesting, ih, List.map_cons]

theorem nesting_part_lt {p : Pattern} {part : Step × Pattern} (h : part ∈ p.parts) :
    part.2.nesting < p.nesting := by
  cases p with
  | fields entries =>
    obtain ⟨entry, hentry, same⟩ := exists_entry_of_mem_parts h
    rw [nesting, entriesNesting_eq_map, ← same]
    exact lt_levelAbove (List.mem_map_of_mem hentry)
  | sequence items =>
    rw [nesting, itemsNesting_eq_map]
    exact lt_levelAbove (List.mem_map_of_mem (mem_items_of_mem_parts h))
  | _ => cases h

mutual

theorem nesting_ofValue : (data : Value) → (ofValue data).nesting = data.nesting
  | .list _ items => by
    rw [ofValue, nesting, Value.nesting, itemsNesting_ofItems items]
  | .record _ members => by
    rw [ofValue, nesting, Value.nesting, entriesNesting_ofFields members]
  | .null | .bool _ | .int _ | .float _ | .str _ _ | .function _ => rfl

theorem itemsNesting_ofItems : (items : List Value) →
    itemsNesting (ofItems items) = Value.itemsNesting items
  | [] => rfl
  | v :: rest => by
    rw [ofItems, itemsNesting, Value.itemsNesting, nesting_ofValue v, itemsNesting_ofItems rest]

theorem entriesNesting_ofFields : {bound : Bound} → (members : Fields Value bound) →
    entriesNesting (ofFields members) = Value.fieldsNesting members
  | _, .nil => rfl
  | _, .cons _ _ v rest => by
    rw [ofFields, entriesNesting, Value.fieldsNesting, nesting_ofValue v,
      entriesNesting_ofFields rest]

end

mutual

def aggregateLiterals : Pattern → List Value
  | .literal data => if data.isAggregate then [data] else []
  | .predicate _ => []
  | .fields entries => entriesAggregateLiterals entries
  | .sequence items => itemsAggregateLiterals items

def entriesAggregateLiterals : List (String × Pattern) → List Value
  | [] => []
  | (_, p) :: rest => p.aggregateLiterals ++ entriesAggregateLiterals rest

def itemsAggregateLiterals : List Pattern → List Value
  | [] => []
  | p :: rest => p.aggregateLiterals ++ itemsAggregateLiterals rest

end

theorem entriesAggregateLiterals_eq_flatMap (entries : List (String × Pattern)) :
    entriesAggregateLiterals entries = entries.flatMap (·.2.aggregateLiterals) := by
  induction entries with
  | nil => rfl
  | cons entry rest ih => rw [entriesAggregateLiterals, ih, List.flatMap_cons]

theorem itemsAggregateLiterals_eq_flatMap (items : List Pattern) :
    itemsAggregateLiterals items = items.flatMap aggregateLiterals := by
  induction items with
  | nil => rfl
  | cons p rest ih => rw [itemsAggregateLiterals, ih, List.flatMap_cons]

theorem aggregateLiterals_part_subset {p : Pattern} {part : Step × Pattern} (h : part ∈ p.parts) :
    part.2.aggregateLiterals ⊆ p.aggregateLiterals := by
  intro data hdata
  cases p with
  | fields entries =>
    obtain ⟨entry, hentry, same⟩ := exists_entry_of_mem_parts h
    rw [aggregateLiterals, entriesAggregateLiterals_eq_flatMap]
    exact List.mem_flatMap.2 ⟨entry, hentry, same ▸ hdata⟩
  | sequence items =>
    rw [aggregateLiterals, itemsAggregateLiterals_eq_flatMap]
    exact List.mem_flatMap.2 ⟨part.2, mem_items_of_mem_parts h, hdata⟩
  | _ => cases h

/-- No list or record literal of the pattern is the same allocation as a part of the value. -/
def Apart (p : Pattern) (v : Value) : Prop :=
  ∀ data ∈ p.aggregateLiterals, ∀ part ∈ v.subvalues, data.sharesAllocation part = false

instance (p : Pattern) (v : Value) : Decidable (p.Apart v) :=
  inferInstanceAs (Decidable (∀ data ∈ p.aggregateLiterals, ∀ part ∈ v.subvalues, _))

theorem Apart.part {p : Pattern} {v w : Value} {q : Step × Pattern} (h : p.Apart v)
    (hq : q ∈ p.parts) (hw : v.part? q.1 = some w) : q.2.Apart w := by
  intro data hdata part hpart
  have literal_of_p : data ∈ p.aggregateLiterals := aggregateLiterals_part_subset hq hdata
  have inside_v : part ∈ v.subvalues := Value.subvalues_part? hw hpart
  exact h data literal_of_p part inside_v

theorem Apart.not_shared {data v : Value} (h : (literal data).Apart v)
    (hdata : data.isAggregate = true) : data.sharesAllocation v = false := by
  refine h data ?_ v (Value.self_mem_subvalues v)
  rw [aggregateLiterals, if_pos hdata]
  exact List.mem_singleton_self data

end ShapeMatch.Pattern
