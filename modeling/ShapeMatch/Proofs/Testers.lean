import ShapeMatch.Pattern.Accepts
import ShapeMatch.Proofs.PatternParts

/-!
# Testers

The parts of a pattern whose behaviour its users supply: its matchers, and the functions in its
literals at any depth. Everything else in a pattern compares plain data.
-/

namespace ShapeMatch

inductive Tester where
  | matcher (matcher : Matcher)
  | function (callable : Callable)

def Tester.test (routines : Routines) : Tester → Value → Run Bool
  | matcher m, v => m.test v
  | function f, v => Pattern.acceptsLeaf routines (.function f) v

namespace Value

def callable? : Value → Option Callable
  | .function f => some f
  | _ => none

def callables (v : Value) : List Callable := v.subvalues.filterMap callable?

theorem callables_of_children {v : Value} (h : v.callable? = none) :
    v.callables = v.children.flatMap callables := by
  rw [callables, subvalues_eq, List.filterMap_cons, h, List.filterMap_flatMap]
  rfl

theorem callable?_of_no_callables {v : Value} (h : v.callables = []) : v.callable? = none :=
  List.filterMap_eq_nil_iff.1 h v v.self_mem_subvalues

theorem no_callables_of_mem_children {v child : Value} (h : v.callables = [])
    (hchild : child ∈ v.children) : child.callables = [] := by
  rw [callables_of_children (callable?_of_no_callables h), List.flatMap_eq_nil_iff] at h
  exact h child hchild

end Value

namespace Pattern

mutual

def testers : Pattern → List Tester
  | .literal data => data.callables.map .function
  | .predicate matcher => [.matcher matcher]
  | .fields entries => entriesTesters entries
  | .sequence items => itemsTesters items

def entriesTesters : List (String × Pattern) → List Tester
  | [] => []
  | (_, p) :: rest => p.testers ++ entriesTesters rest

def itemsTesters : List Pattern → List Tester
  | [] => []
  | p :: rest => p.testers ++ itemsTesters rest

end

theorem entriesTesters_eq_flatMap (entries : List (String × Pattern)) :
    entriesTesters entries = entries.flatMap (·.2.testers) := by
  induction entries with
  | nil => rfl
  | cons entry rest ih => rw [entriesTesters, ih, List.flatMap_cons]

theorem itemsTesters_eq_flatMap (items : List Pattern) :
    itemsTesters items = items.flatMap testers := by
  induction items with
  | nil => rfl
  | cons p rest ih => rw [itemsTesters, ih, List.flatMap_cons]

theorem testers_part_subset {p : Pattern} {part : Step × Pattern} (h : part ∈ p.parts) :
    part.2.testers ⊆ p.testers := by
  intro tester htester
  cases p with
  | fields entries =>
    obtain ⟨entry, hentry, same⟩ := exists_entry_of_mem_parts h
    rw [testers, entriesTesters_eq_flatMap]
    exact List.mem_flatMap.2 ⟨entry, hentry, same ▸ htester⟩
  | sequence items =>
    rw [testers, itemsTesters_eq_flatMap]
    exact List.mem_flatMap.2 ⟨part.2, mem_items_of_mem_parts h, htester⟩
  | _ => cases h

mutual

theorem testers_ofValue : (data : Value) → (ofValue data).testers = data.callables.map .function
  | .list _ items => by
    rw [ofValue, testers, itemsTesters_ofItems, Value.callables_of_children rfl, Value.children]
  | .record _ members => by
    rw [ofValue, testers, entriesTesters_ofFields, Value.callables_of_children rfl, Value.children]
  | .null | .bool _ | .int _ | .float _ | .str _ _ | .function _ => rfl

theorem itemsTesters_ofItems : (items : List Value) →
    itemsTesters (ofItems items) = (items.flatMap Value.callables).map .function
  | [] => rfl
  | v :: rest => by
    rw [ofItems, itemsTesters, testers_ofValue v, itemsTesters_ofItems rest, List.flatMap_cons,
      List.map_append]

theorem entriesTesters_ofFields : {bound : Bound} → (members : Fields Value bound) →
    entriesTesters (ofFields members) =
      ((members.toList.map (·.2)).flatMap Value.callables).map .function
  | _, .nil => rfl
  | _, .cons _ _ v rest => by
    rw [ofFields, entriesTesters, testers_ofValue v, entriesTesters_ofFields rest, Fields.toList,
      List.map_cons, List.flatMap_cons, List.map_append]

end

theorem aggregateLiterals_ofValue (data : Value) : (ofValue data).aggregateLiterals = [] := by
  induction data using Value.induct with
  | step v ih =>
    cases v with
    | list address items =>
      rw [ofValue, ofItems_eq_map, aggregateLiterals, itemsAggregateLiterals_eq_flatMap,
        List.flatMap_map]
      exact List.flatMap_eq_nil_iff.2 ih
    | record address members =>
      rw [ofValue, ofFields_eq_map, aggregateLiterals, entriesAggregateLiterals_eq_flatMap,
        List.flatMap_map]
      exact List.flatMap_eq_nil_iff.2 fun member hmember =>
        ih member.2 (List.mem_map_of_mem hmember)
    | _ => rfl

theorem apart_ofValue (data v : Value) : (ofValue data).Apart v := by
  simp [Apart, aggregateLiterals_ofValue]

end Pattern

end ShapeMatch
