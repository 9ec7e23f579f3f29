import ShapeMatch.Proofs.DebugTexts
import ShapeMatch.Proofs.HashedFields
import ShapeMatch.Proofs.LiftedTexts
import ShapeMatch.Proofs.Subsets
import ShapeMatch.Stored

/-!
# Stored values and what they mean

A function of values can be computed on stored values if it is computed on lists from the results
for the items, and on records from the results for the fields in any order. So the texts and the
lifted pattern of a stored value are those of the value that it means, and two stored values agree
if their values do. None of this depends on how the tables were filled.
-/

namespace ShapeMatch

theorem Fields.last?_map {α β : Type} (f : α → β) (pairs : List (String × α)) (key : String) :
    last? (pairs.map fun pair => (pair.1, f pair.2)) key = (last? pairs key).map f := by
  induction pairs with
  | nil => rfl
  | cons pair rest ih =>
    rw [List.map_cons, last?_cons, last?_cons, ih]
    split
    · cases last? rest key <;> rfl
    · rw [Option.or_none, Option.or_none]

theorem Value.agree_of_scalar_right {leaf : Value → Value → Bool} {w : Value}
    (h : w.isAggregate = false) (v : Value) : v.agree leaf w = leaf v w := by
  cases w with
  | list address items => cases h
  | record address fields => cases h
  | _ => cases v <;> rfl

namespace Stored

open Listing

def children : Stored → List Stored
  | .scalar _ _ => []
  | .list _ items => items
  | .record _ fields => fields.toList.map (·.2)

mutual

theorem induct {motive : Stored → Prop}
    (step : ∀ s : Stored, (∀ t ∈ s.children, motive t) → motive s) : (s : Stored) → motive s
  | .scalar _ _ => step _ (by simp [children])
  | .list _ items => step _ (inductItems step items)
  | .record _ fields => step _ (inductFields step fields)

theorem inductItems {motive : Stored → Prop}
    (step : ∀ s : Stored, (∀ t ∈ s.children, motive t) → motive s) :
    (items : List Stored) → ∀ t ∈ items, motive t
  | [] => by simp
  | s :: rest => List.forall_mem_cons.2 ⟨induct step s, inductItems step rest⟩

theorem inductFields {motive : Stored → Prop}
    (step : ∀ s : Stored, (∀ t ∈ s.children, motive t) → motive s) :
    {taken : List String} → (fields : Hashed Stored taken) →
      ∀ t ∈ fields.toList.map (·.2), motive t
  | _, .nil => by simp [Hashed.toList]
  | _, .cons _ _ s rest => List.forall_mem_cons.2 ⟨induct step s, inductFields step rest⟩

end

section Read

variable {β : Type} (r : Reading β)

theorem readItems_eq_map (items : List Stored) : readItems r items = items.map (read r) := by
  induction items with
  | nil => rfl
  | cons s rest ih => rw [readItems, ih, List.map_cons]

theorem readFields_eq_map {taken : List String} (fields : Hashed Stored taken) :
    readFields r fields = fields.toList.map fun field => (field.1, field.2.read r) := by
  induction fields with
  | nil => rfl
  | cons name fresh s rest ih => rw [readFields, ih, Hashed.toList, List.map_cons]

theorem value_list (address : Address) (items : List Stored) :
    (list address items).value = .list address (items.map value) :=
  congrArg (Value.list address) (readItems_eq_map _ items)

theorem value_record (address : Address) (fields : Hashed Stored []) :
    (record address fields).value =
      .record address (.ofList (fields.toList.map fun field => (field.1, field.2.value))) :=
  congrArg (fun pairs => Value.record address (.ofList pairs)) (readFields_eq_map _ fields)

/-- Whichever order the table has, the record means what the last pairs for each name say. -/
theorem value_of_filled {pairs : List (String × Stored)} {fields : Hashed Stored []}
    (filled : fields.Filled pairs) (address : Address) :
    (record address fields).value =
      .ofPairs address (pairs.map fun pair => (pair.1, pair.2.value)) := by
  rw [value_record, Value.ofPairs]
  refine congrArg (Value.record address) (Fields.ext_get? fun key => ?_)
  rw [Hashed.get?_ofList_map, filled.get?_eq, Fields.get?_ofList, Fields.last?_map]

theorem value_ofPairs (address : Address) (pairs : List (String × Stored)) :
    (ofPairs address pairs).value =
      .ofPairs address (pairs.map fun pair => (pair.1, pair.2.value)) :=
  value_of_filled (Hashed.filled_ofList pairs) address

theorem value_tagged (address tagAddress : Address) (discriminant tag : String)
    (pairs : List (String × Stored)) :
    (tagged address tagAddress discriminant tag pairs).value =
      .tagged address tagAddress discriminant tag
        (pairs.map fun pair => (pair.1, pair.2.value)) := by
  rw [tagged, value_of_filled (Hashed.filled_insert_ofList pairs _ _), List.map_append,
    Value.ofPairs, List.map_singleton, Fields.ofList_concat]
  rfl

variable {r} in
theorem read_eq {g : Value → β} (scalar : ∀ v, v.isAggregate = false → r.scalar v = g v)
    (list : ∀ address items, r.list address (items.map g) = g (.list address items))
    (record : ∀ address (pairs : List (String × Value)), (pairs.map (·.1)).Nodup →
      r.record address (pairs.map fun pair => (pair.1, g pair.2)) =
        g (.record address (.ofList pairs))) (s : Stored) : s.read r = g s.value := by
  induction s using induct with
  | step s ih =>
    cases s with
    | scalar v h => exact scalar v h
    | list address items =>
      rw [value_list, ← list, read, readItems_eq_map, List.map_map]
      exact congrArg (r.list address) (List.map_congr_left ih)
    | record address fields =>
      rw [value_record, ← record address _ (fields.names_map_nodup value), read, readFields_eq_map,
        List.map_map]
      refine congrArg (r.record address) (List.map_congr_left fun field hfield => ?_)
      exact congrArg (Prod.mk field.1) (ih field.2 (List.mem_map_of_mem hfield))

end Read

theorem display_eq (s : Stored) : s.display = s.value.display := by
  refine read_eq (fun _ _ => rfl) (fun address items => ?_) (fun address pairs distinct => ?_) s
  · exact congrArg bracketed (Value.displayItems_eq_map items).symm
  · refine congrArg braced ?_
    rw [Value.displayFields_eq_map, Fields.toList_ofList distinct, ← sortByName_map, List.map_map]
    rfl

example :
    let unsorted : Hashed Stored [] :=
      .cons "b" List.not_mem_nil (.scalar .null rfl) (.cons "a" (by decide) (.text 1 "x") .nil)
    (record 0 unsorted).display = "\x7ba: \x22x\x22, b: null\x7d" := by
  cbv

theorem debug_eq (s : Stored) : s.debug = s.value.debug := by
  refine read_eq (fun _ _ => rfl) (fun address items => ?_) (fun address pairs distinct => ?_) s
  · exact congrArg (fun texts => applied "List" [bracketed texts])
      (Value.debugItems_eq_map items).symm
  · refine congrArg (fun texts => applied "Record" [braced texts]) ?_
    rw [Value.debugFields_eq_map, Fields.toList_ofList distinct, ← sortByName_map, List.map_map]
    rfl

theorem lift_eq (s : Stored) : s.lift = .ofValue s.value := by
  refine read_eq (fun _ scalar => (Pattern.ofValue_of_scalar scalar).symm) (fun address items => ?_)
    (fun address pairs distinct => ?_) s
  · exact congrArg Pattern.sequence (Pattern.ofItems_eq_map items).symm
  · refine congrArg Pattern.fields ?_
    rw [Pattern.ofFields_eq_map, Fields.toList_ofList distinct, sortByName_map]

theorem display_lift (s : Stored) : s.lift.display = s.display := by
  rw [s.lift_eq, s.display_eq, Pattern.display_ofValue]

section Agree

variable {leaf : Value → Value → Bool}

theorem agreeItems_eq {items : List Stored}
    (ih : ∀ s ∈ items, ∀ t, s.agree leaf t = s.value.agree leaf t.value) (others : List Stored) :
    agreeItems leaf items others = Value.agreeItems leaf (items.map value) (others.map value) := by
  induction items generalizing others with
  | nil => cases others <;> rfl
  | cons s rest ih_rest =>
    obtain ⟨first, others_agree⟩ := List.forall_mem_cons.1 ih
    cases others with
    | nil => rfl
    | cons t others =>
      rw [agreeItems, List.map_cons, List.map_cons, Value.agreeItems, first t,
        ih_rest others_agree others]

theorem agreeFields_iff {taken : List String} (fields : Hashed Stored taken)
    (others : Hashed Stored []) :
    agreeFields leaf fields others = true ↔
      ∀ field ∈ fields.toList, ∃ t, others.get? field.1 = some t ∧ field.2.agree leaf t = true := by
  induction fields with
  | nil => simp [agreeFields, Hashed.toList]
  | cons name fresh s rest ih =>
    rw [agreeFields, Bool.and_eq_true, ih, Hashed.toList, List.forall_mem_cons]
    cases others.get? name <;> simp

theorem agree_record_iff (a b : Address) (fields others : Hashed Stored []) :
    agree leaf (.record a fields) (.record b others) = true ↔
      ∀ key, Option.Rel (fun s t => s.agree leaf t = true) (fields.get? key) (others.get? key) := by
  rw [agree, Bool.and_eq_true, beq_iff_eq, agreeFields_iff]
  exact (Hashed.rel_get?_iff_counted (r := fun s t => agree leaf s t = true)).symm

theorem agree_record_eq (a b : Address) {fields : Hashed Stored []}
    (ih : ∀ s ∈ (record a fields).children, ∀ t, s.agree leaf t = s.value.agree leaf t.value)
    (others : Hashed Stored []) :
    (record a fields).agree leaf (record b others) =
      (record a fields).value.agree leaf (record b others).value := by
  rw [Bool.eq_iff_iff, agree_record_iff, value_record, value_record, Value.agree,
    Value.agreeFields_iff]
  refine forall_congr' fun key => ?_
  rw [Hashed.get?_ofList_map, Hashed.get?_ofList_map]
  cases hs : fields.get? key with
  | none => cases others.get? key <;> simp
  | some s =>
    have inside := (Hashed.get?_eq_some_iff fields key s).1 hs
    cases others.get? key <;> simp [ih s (List.mem_map_of_mem inside)]

theorem agree_eq (s t : Stored) : s.agree leaf t = s.value.agree leaf t.value := by
  induction s using induct generalizing t with
  | step s ih =>
    cases s with
    | scalar v h =>
      refine Eq.trans ?_ (Value.agree_of_scalar h t.value).symm
      cases t <;> rfl
    | list address items =>
      cases t with
      | list other others =>
        rw [value_list, value_list]
        exact agreeItems_eq ih others
      | scalar w h => exact (Value.agree_of_scalar_right h _).symm
      | record other others => rfl
    | record address fields =>
      cases t with
      | record other others => exact agree_record_eq address other ih others
      | scalar w h => exact (Value.agree_of_scalar_right h _).symm
      | list other others => rfl

theorem equals_eq (s t : Stored) : s.equals t = s.value.equals t.value := agree_eq s t

theorem beq_eq (s t : Stored) : (s == t) = (s.value == t.value) := agree_eq s t

end Agree

theorem debug_eq_iff {s : Stored} (legible : s.value.Legible) (t : Stored) :
    s.debug = t.debug ↔ (s == t) = true := by
  rw [s.debug_eq, t.debug_eq, Value.debug_eq_iff_bare_eq legible, ← Value.identical_iff_bare_eq,
    beq_eq]

end Stored

end ShapeMatch
