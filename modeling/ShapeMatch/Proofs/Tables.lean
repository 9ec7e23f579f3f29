import ShapeMatch.Dispatch
import ShapeMatch.Proofs.Coverage
import ShapeMatch.Proofs.OwnParts

/-!
# Tables after registrations

A table keeps for every tag the handler registered last. So it is determined by the list of
registrations, and it lacks the declared tags that the list does not name.
-/

namespace ShapeMatch

open Run

variable {α : Type} {union : Union} {registrations : List (String × Handler α)}

namespace HandlerTable

def onAll (table : HandlerTable α) (registrations : List (String × Handler α)) :
    Except MatchError (HandlerTable α) :=
  registrations.foldlM (fun table r => table.on r.1 r.2) table

/-- The table that has the handler registered last for each tag. -/
def ofLatest (union : Union) (registrations : List (String × Handler α)) : HandlerTable α :=
  ⟨union, union.tags.map (Fields.last? registrations)⟩

theorem on_map {tag : String} (h : tag ∈ union.tags) (f : String → Option (Handler α))
    (handler : Handler α) :
    on ⟨union, union.tags.map f⟩ tag handler =
      .ok ⟨union, union.tags.map fun t => if t = tag then some handler else f t⟩ := by
  obtain ⟨index, hindex, required⟩ := Union.exists_position? h
  rw [on, required, ← Union.set_map union hindex]
  rfl

theorem onAll_map (declared : ∀ r ∈ registrations, r.1 ∈ union.tags)
    (f : String → Option (Handler α)) :
    onAll ⟨union, union.tags.map f⟩ registrations =
      .ok ⟨union, union.tags.map fun tag => (Fields.last? registrations tag).or (f tag)⟩ := by
  -- Each registration overwrites an entry, so the induction is over all tables.
  induction registrations generalizing f with
  | nil => rfl
  | cons r rest ih =>
    obtain ⟨first_declared, rest_declared⟩ := List.forall_mem_cons.1 declared
    have last_cons (tag : String) : (Fields.last? (r :: rest) tag).or (f tag) =
        (Fields.last? rest tag).or (if tag = r.1 then some r.2 else f tag) := by
      rw [Fields.last?_cons, Option.or_assoc]
      split <;> rfl
    rw [onAll, List.foldlM_cons, on_map first_declared]
    simp only [last_cons]
    exact ih rest_declared _

theorem onAll_empty (declared : ∀ r ∈ registrations, r.1 ∈ union.tags) :
    (empty union).onAll registrations = .ok (ofLatest union registrations) := by
  have empty_eq : (empty union : HandlerTable α) = ⟨union, union.tags.map fun _ => none⟩ := by
    rw [empty, List.map_const']
  rw [empty_eq, onAll_map declared]
  simp only [Option.or_none]
  rfl

theorem on_of_undeclared (table : HandlerTable α) {tag : String} (h : tag ∉ table.union.tags)
    (handler : Handler α) : table.on tag handler = .error (Cause.undeclaredTag tag).error := by
  rw [on, Union.require_of_undeclared h]
  rfl

theorem on_keeps {table next : HandlerTable α} {tag : String} {handler : Handler α}
    (h : table.on tag handler = .ok next) : tag ∈ table.union.tags ∧ next.union = table.union := by
  by_cases declared : tag ∈ table.union.tags
  · obtain ⟨index, -, required⟩ := Union.exists_position? declared
    rw [on, required] at h
    exact ⟨declared, Except.ok.inj h ▸ rfl⟩
  · rw [on_of_undeclared table declared] at h
    cases h

theorem declared_of_onAll {table next : HandlerTable α}
    (h : table.onAll registrations = .ok next) : ∀ r ∈ registrations, r.1 ∈ table.union.tags := by
  induction registrations generalizing table with
  | nil => simp
  | cons r rest ih =>
    rw [onAll, List.foldlM_cons] at h
    cases first : table.on r.1 r.2 with
    | error e =>
      rw [first] at h
      cases h
    | ok middle =>
      rw [first] at h
      obtain ⟨declared, same_union⟩ := on_keeps first
      exact List.forall_mem_cons.2 ⟨declared, same_union ▸ ih h⟩

theorem onAll_append_cons {table between : HandlerTable α} {before after : List (String × Handler α)}
    {r : String × Handler α} {e : MatchError} (reached : table.onAll before = .ok between)
    (refused : between.on r.1 r.2 = .error e) :
    table.onAll (before ++ r :: after) = .error e := by
  rw [onAll] at reached ⊢
  rw [List.foldlM_append, reached]
  change (r :: after).foldlM (fun table r => table.on r.1 r.2) between = .error e
  rw [List.foldlM_cons, refused]
  rfl

theorem last?_of_undeclared (declared : ∀ r ∈ registrations, r.1 ∈ union.tags) {tag : String}
    (h : tag ∉ union.tags) : Fields.last? registrations tag = none := by
  refine Fields.last?_eq_none_iff.2 fun registered => ?_
  obtain ⟨r, hr, rfl⟩ := List.mem_map.1 registered
  exact h (declared r hr)

theorem handler?_ofLatest (declared : ∀ r ∈ registrations, r.1 ∈ union.tags) (tag : String) :
    (ofLatest union registrations).handler? tag = Fields.last? registrations tag := by
  unfold handler? ofLatest
  cases hposition : union.position? tag with
  | none =>
    have undeclared : tag ∉ union.tags := List.idxOf?_eq_none_iff.1 hposition
    exact (last?_of_undeclared declared undeclared).symm
  | some index =>
    obtain ⟨hi, rfl⟩ := Union.getElem_of_position? hposition
    simp [hi]

theorem missingTags_ofLatest :
    (ofLatest union registrations).missingTags =
      union.tags.filter fun tag => decide (tag ∉ registrations.map (·.1)) := by
  rw [missingTags, ofLatest, List.map_map, Union.tagsMarked_map]
  apply List.filter_congr
  intro tag _
  rw [Bool.eq_iff_iff, decide_eq_true_iff, ← Fields.last?_eq_none_iff]
  simp

end HandlerTable

namespace PartialTable

def onAll (table : PartialTable α) (registrations : List (String × Handler α)) :
    Except MatchError (PartialTable α) :=
  registrations.foldlM (fun table r => table.on r.1 r.2) table

theorem onAll_eq_map (table : PartialTable α) (registrations : List (String × Handler α)) :
    table.onAll registrations =
      (table.toHandlerTable.onAll registrations).map fun handlers =>
        { handlers with fallback := table.fallback } := by
  induction registrations generalizing table with
  | nil => rfl
  | cons r rest ih =>
    rw [onAll, List.foldlM_cons, HandlerTable.onAll, List.foldlM_cons, on]
    cases table.toHandlerTable.on r.1 r.2 with
    | error e => rfl
    | ok handlers => exact ih _

def ofLatest (union : Union) (registrations : List (String × Handler α)) (fallback : Handler α) :
    PartialTable α :=
  { HandlerTable.ofLatest union registrations with fallback }

theorem onAll_empty (declared : ∀ r ∈ registrations, r.1 ∈ union.tags) (fallback : Handler α) :
    (empty union fallback).onAll registrations = .ok (ofLatest union registrations fallback) := by
  rw [onAll_eq_map]
  exact congrArg _ (HandlerTable.onAll_empty declared)

def mapped? (table : PartialTable α) (v : Value) : Option (Handler α) :=
  (v.tag? table.union.discriminant).bind table.handler?

theorem apply_of_mapped {table : PartialTable α} {v : Value} {handler : Handler α}
    (h : table.mapped? v = some handler) : table.apply v = handler v := by
  rw [mapped?] at h
  rw [apply, h]

theorem apply_of_unmapped {table : PartialTable α} {v : Value} (h : table.mapped? v = none) :
    table.apply v = table.fallback v := by
  rw [mapped?] at h
  rw [apply, h]

end PartialTable

namespace TotalTable

variable {table : TotalTable α} {v : Value} {tag : String}

theorem apply_of_untagged (h : v.tag? table.union.discriminant = none) :
    table.apply v = fail (.missingDiscriminant table.union.discriminant) := by
  rw [apply, Union.tagOf, h]
  rfl

theorem apply_of_handler {handler : Handler α} (h : v.tag? table.union.discriminant = some tag)
    (hhandler : table.handler? tag = some handler) :
    table.apply v = ExceptT.lift (handler v) := by
  rw [apply, Union.tagOf, h, liftM_ok_bind, hhandler]

theorem apply_of_no_handler (h : v.tag? table.union.discriminant = some tag)
    (hhandler : table.handler? tag = none) : table.apply v = throw (table.unmatched tag) := by
  rw [apply, Union.tagOf, h, liftM_ok_bind, hhandler]

end TotalTable

end ShapeMatch
