import ShapeMatch.Hashed
import ShapeMatch.Proofs.EqualityLaws

/-!
# Hashed fields and ascending fields

A table that was filled from pairs has for each name the content of the last pair with it. Sorted by
name, its entries are those of the ascending fields made of the same pairs, so the order in which
the table hands them out is lost.
-/

namespace ShapeMatch

section Sorted

variable {α β : Type}

theorem sortByName_ascends (entries : List (String × α)) :
    (sortByName entries).Pairwise fun a b => a.1 ≤ b.1 := by
  refine (List.pairwise_mergeSort (fun a b c hab hbc => ?_) (fun a b => ?_) entries).imp
    of_decide_eq_true
  · exact decide_eq_true (String.le_trans (of_decide_eq_true hab) (of_decide_eq_true hbc))
  · rw [Bool.or_eq_true, decide_eq_true_iff, decide_eq_true_iff]
    exact String.le_total a.1 b.1

/-- Sorting looks at the names alone, so it may come before or after a change of the contents. -/
theorem sortByName_map (f : α → β) (entries : List (String × α)) :
    (sortByName entries).map (fun entry => (entry.1, f entry.2)) =
      sortByName (entries.map fun entry => (entry.1, f entry.2)) :=
  List.map_mergeSort fun _ _ _ _ => rfl

end Sorted

namespace Fields

variable {α : Type}

theorem toList_ofList {pairs : List (String × α)} (distinct : (pairs.map (·.1)).Nodup) :
    (ofList pairs).toList = sortByName pairs := by
  have sort_perm : (sortByName pairs).Perm pairs := List.mergeSort_perm _ _
  have same_fields : (ofList pairs).toList.Perm (sortByName pairs) := by
    refine List.Perm.trans ?_ sort_perm.symm
    rw [List.perm_ext_iff_of_nodup (.of_map _ (names_nodup _)) (.of_map _ distinct)]
    rintro ⟨key, content⟩
    rw [← get?_eq_some_iff, get?_ofList_eq_some_iff distinct]
  have ascends : (ofList pairs).toList.Pairwise fun a b => a.1 ≤ b.1 :=
    (List.pairwise_map.1 (names_ascend (ofList pairs))).imp
      fun before => String.not_lt.1 (String.lt_asymm before)
  refine same_fields.eq_of_pairwise (fun a b ha hb hab hba => ?_) ascends (sortByName_ascends pairs)
  have inside : b ∈ (ofList pairs).toList := same_fields.mem_iff.2 hb
  exact List.inj_on_of_nodup_map (names_nodup (ofList pairs)) ha inside (String.le_antisymm hab hba)

end Fields

namespace Hashed

variable {α : Type} {taken : List String}

theorem fresh_of_mem_toList {fields : Hashed α taken} {field : String × α}
    (h : field ∈ fields.toList) : field.1 ∉ taken := by
  induction fields with
  | nil => cases h
  | cons name fresh content rest ih =>
    rcases List.mem_cons.1 h with rfl | hrest
    · exact fresh
    · exact fun hn => ih hrest (List.mem_cons_of_mem name hn)

theorem names_nodup (fields : Hashed α taken) : fields.names.Nodup := by
  induction fields with
  | nil => exact .nil
  | cons name fresh content rest ih =>
    refine .cons (fun again => ?_) ih
    obtain ⟨field, hfield, same⟩ := List.mem_map.1 again
    exact fresh_of_mem_toList hfield (same ▸ List.mem_cons_self)

theorem names_map_nodup {β : Type} (f : α → β) (fields : Hashed α taken) :
    ((fields.toList.map fun field => (field.1, f field.2)).map (·.1)).Nodup := by
  rw [List.map_map]
  exact fields.names_nodup

theorem get?_eq_some_iff (fields : Hashed α taken) (key : String) (content : α) :
    fields.get? key = some content ↔ (key, content) ∈ fields.toList := by
  induction fields with
  | nil => simp [get?, toList]
  | cons name fresh first rest ih =>
    rw [get?, toList, List.mem_cons, Prod.mk.injEq]
    by_cases same : key = name
    · have not_after : (key, content) ∉ rest.toList := fun h =>
        fresh_of_mem_toList h (same ▸ List.mem_cons_self)
      simp [same, eq_comm, same ▸ not_after]
    · simp [same, ih]

theorem toList_weaken {fewer : List String} (h : fewer ⊆ taken) (fields : Hashed α taken) :
    (fields.weaken h).toList = fields.toList := by
  induction fields generalizing fewer with
  | nil => rfl
  | cons name fresh content rest ih => rw [weaken, toList, toList, ih]

theorem toList_erase (key : String) (fields : Hashed α taken) :
    (fields.erase key).toList = fields.toList.filter fun field => field.1 ≠ key := by
  induction fields with
  | nil => rfl
  | cons name fresh content rest ih =>
    rw [erase, toList, List.filter_cons]
    by_cases same : name = key
    · subst same
      have all_kept : ∀ field ∈ rest.toList, decide (field.1 ≠ name) = true := fun field hfield =>
        decide_eq_true fun named => fresh_of_mem_toList hfield (named ▸ List.mem_cons_self)
      rw [dif_pos rfl, if_neg (by simp), List.filter_eq_self.2 all_kept]
    · simp [same, toList, toList_weaken, ih]

theorem get?_of_inserted {before after : Hashed α []} {key : String} {content : α}
    (entries : after.toList.Perm
      ((key, content) :: before.toList.filter fun field => field.1 ≠ key)) (other : String) :
    after.get? other = if other = key then some content else before.get? other := by
  ext found
  rw [get?_eq_some_iff, entries.mem_iff, List.mem_cons, List.mem_filter, decide_eq_true_iff,
    Prod.mk.injEq]
  by_cases own : other = key
  · simp [own, eq_comm]
  · simp [own, get?_eq_some_iff]

theorem Filled.get?_eq {pairs : List (String × α)} {fields : Hashed α []} (h : Filled pairs fields)
    (key : String) : fields.get? key = Fields.last? pairs key := by
  induction h with
  | empty => rfl
  | @insert pairs before after name content filled entries ih =>
    rw [get?_of_inserted entries, ih, Fields.last?_concat]

theorem ofList_concat (pairs : List (String × α)) (key : String) (content : α) :
    ofList (pairs ++ [(key, content)]) = (ofList pairs).insert key content := by
  rw [ofList, List.foldl_append]
  rfl

theorem filled_ofList (pairs : List (String × α)) : Filled pairs (ofList pairs) := by
  induction pairs using List.reverseRecOn with
  | nil => exact .empty
  | append_singleton pairs pair ih =>
    rw [ofList_concat]
    refine ih.insert ?_
    rw [insert, toList, toList_erase]

theorem filled_insert_ofList (pairs : List (String × α)) (key : String) (content : α) :
    Filled (pairs ++ [(key, content)]) ((ofList pairs).insert key content) :=
  ofList_concat pairs key content ▸ filled_ofList _

theorem get?_ofList_map {β : Type} (f : α → β) (fields : Hashed α []) (key : String) :
    (Fields.ofList (fields.toList.map fun field => (field.1, f field.2))).get? key =
      (fields.get? key).map f := by
  ext content
  rw [Fields.get?_ofList_eq_some_iff (fields.names_map_nodup f), List.mem_map, Option.map_eq_some_iff]
  constructor
  · rintro ⟨field, hfield, same⟩
    cases same
    exact ⟨field.2, (get?_eq_some_iff _ _ _).2 hfield, rfl⟩
  · rintro ⟨found, hfound, rfl⟩
    exact ⟨(key, found), (get?_eq_some_iff _ _ _).1 hfound, rfl⟩

theorem mem_names_iff (fields : Hashed α taken) (key : String) :
    key ∈ fields.names ↔ (fields.get? key).isSome = true := by
  simp only [names, Option.isSome_iff_exists, get?_eq_some_iff, List.mem_map, Prod.exists,
    exists_and_right, exists_eq_right]

section Related

variable {β : Type} {r : α → β → Prop} {fields : Hashed α []} {others : Hashed β []}

theorem size_eq_of_rel_get? (related : ∀ key, Option.Rel r (fields.get? key) (others.get? key)) :
    fields.size = others.size := by
  have same_names : fields.names.Perm others.names := by
    rw [List.perm_ext_iff_of_nodup fields.names_nodup others.names_nodup]
    intro key
    rw [mem_names_iff, mem_names_iff, rel_isSome (related key)]
  have lengths := same_names.length_eq
  rwa [names, names, List.length_map, List.length_map] at lengths

theorem names_subset_of_found
    (found : ∀ field ∈ fields.toList,
      ∃ content, others.get? field.1 = some content ∧ r field.2 content) :
    fields.names ⊆ others.names := by
  intro name hname
  obtain ⟨field, hfield, rfl⟩ := List.mem_map.1 hname
  obtain ⟨content, hcontent, -⟩ := found field hfield
  rw [mem_names_iff, hcontent, Option.isSome_some]

/-- Of two tables of one size it is enough to look up the fields of the first. -/
theorem rel_get?_iff_counted :
    (∀ key, Option.Rel r (fields.get? key) (others.get? key)) ↔
      fields.size = others.size ∧
        ∀ field ∈ fields.toList,
          ∃ content, others.get? field.1 = some content ∧ r field.2 content := by
  constructor
  · intro related
    refine ⟨size_eq_of_rel_get? related, fun field hfield => ?_⟩
    have found := related field.1
    rw [(get?_eq_some_iff fields field.1 field.2).2 hfield] at found
    cases hother : others.get? field.1 with
    | none =>
      rw [hother] at found
      cases found
    | some content =>
      rw [hother] at found
      cases found with
      | some related_contents => exact ⟨content, rfl, related_contents⟩
  · rintro ⟨counted, found⟩ key
    -- As many distinct names on both sides, so the other table has none of its own.
    have in_fields : others.names ⊆ fields.names := by
      have all_found := fields.names_nodup.subperm (names_subset_of_found found)
      refine (all_found.perm_of_length_le ?_).symm.subset
      rw [names, names, List.length_map, List.length_map]
      exact counted.ge
    cases hfield : fields.get? key with
    | some content =>
      obtain ⟨other, hother, related⟩ := found _ ((get?_eq_some_iff _ _ _).1 hfield)
      rw [hother]
      exact .some related
    | none =>
      cases hother : others.get? key with
      | none => exact .none
      | some other =>
        have named := in_fields ((mem_names_iff others key).2 (hother ▸ rfl))
        rw [mem_names_iff, hfield] at named
        cases named

end Related

end Hashed

end ShapeMatch
