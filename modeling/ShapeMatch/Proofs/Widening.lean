import ShapeMatch.Proofs.EqualityInvariance

/-!
# Widening a value

A value is widened by adding fields to its records and elements to the ends of its lists, at any
depth. Every part it has is then found under the same step and is itself widened. So a pattern that
accepts the value accepts the wider one, as long as its testers do and none of its literals is an
allocation of the value. The built-in matchers and the refinements are such testers.
-/

namespace ShapeMatch

open Run

namespace Value

mutual

/-- The other value has everything that the first one has, and possibly more. -/
def widensTo : Value → Value → Bool
  | .list _ items, .list _ others => itemsWidenTo items others
  | .record _ fields, .record _ others => fieldsWidenTo fields others
  | v, w => identicalLeaf v w

def itemsWidenTo : List Value → List Value → Bool
  | [], _ => true
  | v :: vs, w :: ws => v.widensTo w && itemsWidenTo vs ws
  | _ :: _, [] => false

def fieldsWidenTo : {bound : Bound} → Fields Value bound → Fields Value none → Bool
  | _, .nil, _ => true
  | _, .cons name _ v rest, others =>
    (others.get? name).any (fun w => v.widensTo w) && fieldsWidenTo rest others

end

theorem exists_wider_item {items others : List Value} (h : itemsWidenTo items others = true)
    {index : Nat} {part : Value} (hpart : items[index]? = some part) :
    ∃ other, others[index]? = some other ∧ part.widensTo other = true := by
  induction items generalizing others index with
  | nil => cases hpart
  | cons v vs ih =>
    cases others with
    | nil => cases h
    | cons w ws =>
      rw [itemsWidenTo, Bool.and_eq_true] at h
      obtain ⟨first, rest⟩ := h
      cases index with
      | zero =>
        cases hpart
        exact ⟨w, rfl, first⟩
      | succ index => exact ih rest hpart

theorem exists_wider_field {bound : Bound} {fields : Fields Value bound}
    {others : Fields Value none} (h : fieldsWidenTo fields others = true) {key : String}
    {part : Value} (hpart : fields.get? key = some part) :
    ∃ other, others.get? key = some other ∧ part.widensTo other = true := by
  induction fields with
  | nil => cases hpart
  | cons name above v rest ih =>
    rw [fieldsWidenTo, Bool.and_eq_true, Option.any_eq_true] at h
    obtain ⟨first, rest_widens⟩ := h
    rw [Fields.get?] at hpart
    by_cases same : key = name
    · rw [if_pos same] at hpart
      cases hpart
      rw [same]
      exact first
    · rw [if_neg same] at hpart
      exact ih rest_widens hpart

theorem widensTo_cases {v w : Value} (h : v.widensTo w = true) :
    (∃ a items b others, v = .list a items ∧ w = .list b others ∧
        itemsWidenTo items others = true) ∨
      (∃ a fields b others, v = .record a fields ∧ w = .record b others ∧
        fieldsWidenTo fields others = true) ∨
      v.isAggregate = false ∧ v.content = w.content := by
  have scalar (hleaf : identicalLeaf v w = true) :
      v.isAggregate = false ∧ v.content = w.content :=
    (comparesScalars_identicalLeaf v w hleaf).symm
  cases v with
  | list a items =>
    cases w with
    | list b others => exact .inl ⟨a, items, b, others, rfl, rfl, h⟩
    | _ => cases h
  | record a fields =>
    cases w with
    | record b others => exact .inr (.inl ⟨a, fields, b, others, rfl, rfl, h⟩)
    | _ => cases h
  | _ => exact .inr (.inr (scalar h))

theorem content_eq_of_widensTo {v w : Value} (h : v.widensTo w = true) :
    v.content = w.content := by
  rcases widensTo_cases h with ⟨_, _, _, _, rfl, rfl, -⟩ | ⟨_, _, _, _, rfl, rfl, -⟩ | ⟨-, same⟩
  · rfl
  · rfl
  · exact same

theorem exists_wider_part {v w part : Value} {step : Step} (h : v.widensTo w = true)
    (hpart : v.part? step = some part) :
    ∃ other, w.part? step = some other ∧ part.widensTo other = true := by
  rcases widensTo_cases h with ⟨_, items, _, others, rfl, rfl, items_widen⟩ |
    ⟨_, fields, _, others, rfl, rfl, fields_widen⟩ | ⟨scalar, -⟩
  · cases step with
    | field name =>
      obtain ⟨index, hname, hitem⟩ := Option.bind_eq_some_iff.1 hpart
      obtain ⟨other, hother, wider⟩ := exists_wider_item items_widen hitem
      exact ⟨other, Option.bind_eq_some_iff.2 ⟨index, hname, hother⟩, wider⟩
    | position index => exact exists_wider_item items_widen hpart
  · cases step with
    | field name => exact exists_wider_field fields_widen hpart
    | position index => exact exists_wider_field fields_widen hpart
  · rw [part?_eq_none scalar] at hpart
    cases hpart

theorem tag?_of_widensTo {v w : Value} {discriminant tag : String} (h : v.widensTo w = true)
    (htag : v.tag? discriminant = some tag) : w.tag? discriminant = some tag := by
  have same := content_eq_of_widensTo h
  cases v with
  | record a fields =>
    cases w with
    | record b others =>
      obtain ⟨text, htext, text_eq⟩ := Option.bind_eq_some_iff.1 htag
      obtain ⟨other, hother, wider⟩ := exists_wider_field h htext
      have same_text := text?_eq_of_content (content_eq_of_widensTo wider)
      exact Option.bind_eq_some_iff.2 ⟨other, hother, same_text.symm.trans text_eq⟩
    | _ => cases same
  | _ => cases htag

end Value

def AcceptsWider (test : Value → Run Bool) : Prop :=
  ∀ v w : Value, v.widensTo w = true → (test v).outcome = .ok true → (test w).outcome = .ok true

theorem AcceptsWider.holds {test : Value → Run Bool} (h : AcceptsWider test) {v w : Value}
    (wider : v.widensTo w = true) (accepted : (test v).holds = true) : (test w).holds = true :=
  holds_iff.2 (h v w wider (holds_iff.1 accepted))

namespace Pattern

variable {routines : Routines} {v w : Value}

/-- No literal of the pattern is an allocation of the value, and its testers accept what is wider
than what they accept. -/
structure Widenable (routines : Routines) (p : Pattern) (v : Value) : Prop where
  apart : p.Apart v
  acceptsWider : ∀ tester ∈ p.testers, AcceptsWider (tester.test routines)

theorem Widenable.part {p : Pattern} (h : p.Widenable routines v) {q : Step × Pattern}
    (hq : q ∈ p.parts) {part : Value} (hpart : v.part? q.1 = some part) :
    q.2.Widenable routines part where
  apart := h.apart.part hq hpart
  acceptsWider tester htester := h.acceptsWider tester (testers_part_subset hq htester)

theorem Widenable.ofValue {data : Value} (h : (literal data).Widenable routines v) :
    (ofValue data).Widenable routines v where
  apart := apart_ofValue data v
  acceptsWider := by
    rw [testers_ofValue]
    exact h.acceptsWider

theorem holds_acceptsLeaf_of_widensTo {data : Value} (scalar : data.isAggregate = false)
    (wider : v.widensTo w = true) (h : (literal data).Widenable routines v)
    (accepted : (acceptsLeaf routines data v).holds = true) :
    (acceptsLeaf routines data w).holds = true := by
  have same := Value.content_eq_of_widensTo wider
  cases data with
  | function f =>
    exact (h.acceptsWider (.function f) (List.mem_singleton_self _)).holds wider accepted
  | list address items => cases scalar
  | record address fields => cases scalar
  | _ => rwa [← acceptsLeaf_eq_of_content scalar rfl same]

variable (routines) (limit : Nat)

theorem holds_acceptsFrom_of_widensTo (p : Pattern) (depth : Nat) (v w : Value)
    (wider : v.widensTo w = true) (h : p.Widenable routines v)
    (accepted : (acceptsFrom routines limit depth p v).holds = true) :
    (acceptsFrom routines limit depth p w).holds = true := by
  induction p using induct generalizing depth v w with
  | scalar data hdata =>
    rw [acceptsFrom_scalar _ _ _ _ hdata, holds_within_iff] at accepted ⊢
    exact ⟨accepted.1, holds_acceptsLeaf_of_widensTo hdata wider h accepted.2⟩
  | predicate matcher =>
    rw [acceptsFrom_predicate, holds_within_iff] at accepted ⊢
    have acceptsWider := h.acceptsWider (.matcher matcher) (List.mem_singleton_self _)
    exact ⟨accepted.1, acceptsWider.holds wider accepted.2⟩
  | aggregate data hdata ih =>
    rw [acceptsFrom_aggregate _ _ _ _ hdata, holds_within_iff] at accepted ⊢
    rw [h.apart.not_shared hdata, if_neg Bool.false_ne_true] at accepted
    refine ⟨accepted.1, ?_⟩
    -- The literal may be an allocation of the wider value, which is then accepted at once.
    split
    · rfl
    · exact ih depth v w wider h.ofValue accepted.2
  | node p hp ih =>
    rw [holds_acceptsFrom_node _ _ _ _ hp] at accepted ⊢
    obtain ⟨within, aggregate, parts_accepted⟩ := accepted
    have same := Value.isAggregate_eq_of_content (Value.content_eq_of_widensTo wider)
    refine ⟨within, same.symm.trans aggregate, ?_⟩
    intro q hq
    obtain ⟨part, hpart, part_accepted⟩ := parts_accepted q hq
    obtain ⟨other, hother, part_wider⟩ := Value.exists_wider_part wider hpart
    exact ⟨other, hother, ih q hq (depth + 1) part other part_wider (h.part hq hpart) part_accepted⟩

end Pattern

namespace Matcher

theorem acceptsWider_of_mem_builtins {m : Matcher} (hm : m ∈ builtins) : AcceptsWider m.test := by
  intro v w wider accepted
  rwa [← test_eq_of_content hm (Value.content_eq_of_widensTo wider)]

theorem acceptsWider_refinement {union : Union} {tags : List String} {m : Matcher}
    (hm : union.refinement tags = .ok m) : AcceptsWider m.test := by
  intro v w wider accepted
  rw [Union.test_refinement hm] at accepted ⊢
  obtain ⟨tag, listed, htag⟩ := (union.carries_iff v).1 (Except.ok.inj accepted)
  have same_tag := Value.tag?_of_widensTo wider htag
  exact congrArg Except.ok ((union.carries_iff w).2 ⟨tag, listed, same_tag⟩)

example :
    let v : Value := .list 0 [.int 1]
    let w : Value := .list 0 [.int 1, .null]
    v.widensTo w = true ∧ ((arrayOf number).test v).holds = true ∧
      ((arrayOf number).test w).holds = false := by
  decide

end Matcher

theorem acceptance_survives_widening (routines : Routines) (config : Config) :
    (∀ (p : Pattern) (v w : Value), p.Widenable routines v → v.widensTo w = true →
        (p.accepts routines config v).outcome = .ok true →
        (p.accepts routines config w).outcome = .ok true) ∧
      (∀ m ∈ Matcher.builtins, AcceptsWider m.test) ∧
      ∀ (union : Union) (tags : List String) (m : Matcher),
        union.refinement tags = .ok m → AcceptsWider m.test := by
  refine ⟨?_, fun m => Matcher.acceptsWider_of_mem_builtins,
    fun union tags m => Matcher.acceptsWider_refinement⟩
  intro p v w widenable wider accepted
  exact holds_iff.1 (Pattern.holds_acceptsFrom_of_widensTo routines config.maxDepth p 0 v w wider
    widenable (holds_iff.2 accepted))

theorem acceptance_survives_widening_at_every_depth :
    let routines : Routines := fun _ _ => pure (.ok (.bool true))
    let p : Pattern := .fields
      [("xs", .literal (.list 9 [.function ⟨"f", "g"⟩])), ("xs", .predicate .array),
        ("m", .fields [("+00", .predicate .number)]),
        ("m", .literal (.list 10 [.float ⟨0x3FF0000000000000⟩, .ofPairs 11 [("k", .str 12 "s")]]))]
    let v : Value := .ofPairs 0
      [("xs", .list 1 [.null]), ("m", .list 2 [.int 1, .ofPairs 3 [("k", .str 4 "s")]])]
    let w : Value := .ofPairs 5
      [("a", .null), ("xs", .list 1 [.null, .null]),
        ("m", .list 6 [.int 1, .ofPairs 7 [("k", .str 8 "s"), ("j", .list 9 [])], .null])]
    p.Widenable routines v ∧ v.widensTo w = true ∧
      (p.accepts routines .standard v).outcome = .ok true ∧
      (p.accepts routines .standard w).outcome = .ok true := by
  intro routines p v w
  have widenable : p.Widenable routines v := by
    refine ⟨by decide +kernel, ?_⟩
    intro tester htester
    have cases_of_tester : tester = .function ⟨"f", "g"⟩ ∨ tester = .matcher .array ∨
        tester = .matcher .number := by
      simpa using (show tester ∈ [.function ⟨"f", "g"⟩, .matcher .array, .matcher .number] from
        htester)
    rcases cases_of_tester with rfl | rfl | rfl
    · exact fun _ _ _ _ => rfl
    · exact Matcher.acceptsWider_of_mem_builtins (by simp [Matcher.builtins])
    · exact Matcher.acceptsWider_of_mem_builtins (by simp [Matcher.builtins])
  have wider : v.widensTo w = true := by decide +kernel
  have accepted : (p.accepts routines .standard v).outcome = .ok true :=
    holds_iff.1 (by decide +kernel)
  exact ⟨widenable, wider, accepted,
    (acceptance_survives_widening routines .standard).1 p v w widenable wider accepted⟩

end ShapeMatch
