import Mathlib.Data.List.Forall2
import ShapeMatch.Proofs.ExactNumbers
import ShapeMatch.Proofs.ValueParts
import ShapeMatch.Value.Equality

/-!
# Equal values

Both comparisons agree part by part, down to scalars of the same content. The content of a number
is its quantity, so numeric equality of scalars is equality of contents, which makes it symmetric
and transitive across integers and floats.
-/

namespace ShapeMatch

theorem rel_mono {α β : Type} {r s : α → β → Prop} {a? : Option α} {b? : Option β}
    (hab : Option.Rel r a? b?) (h : ∀ a b, a? = some a → r a b → s a b) : Option.Rel s a? b? := by
  cases hab with
  | none => exact .none
  | some hr => exact .some (h _ _ rfl hr)

theorem bind_eq_of_rel {α β γ : Type} {r : α → β → Prop} {f : α → Option γ} {g : β → Option γ}
    (h : ∀ a b, r a b → f a = g b) {a? : Option α} {b? : Option β} :
    Option.Rel r a? b? → a?.bind f = b?.bind g
  | .none => rfl
  | .some hab => h _ _ hab

/-- What is left of a value without its parts and its address. -/
inductive Content where
  | null
  | bool (b : Bool)
  | number (quantity : Binary64.Quantity)
  | text (text : String)
  | list
  | record
  | function (callable : Callable)

def Content.Comparable (c : Content) : Prop :=
  c ≠ .number .undefined ∧ c ≠ .list ∧ c ≠ .record

namespace Value

def content : Value → Content
  | .null => .null
  | .bool b => .bool b
  | .int n => .number (.finite n.toInt)
  | .float x => .number x.quantity
  | .str _ text => .text text
  | .list _ _ => .list
  | .record _ _ => .record
  | .function f => .function f

theorem content_eq_of_identicalLeaf {v w : Value} (h : identicalLeaf v w = true) :
    v.content = w.content := by
  cases v <;> cases w <;> simp_all [identicalLeaf, content, Binary64.bits_inj]

theorem comparable_finite (q : ℚ) : (Content.number (.finite q)).Comparable := by
  simp [Content.Comparable]

theorem equalLeaf_iff (v w : Value) :
    equalLeaf v w = true ↔ v.content = w.content ∧ v.content.Comparable := by
  cases v with
  | int n =>
    cases w with
    | int m =>
      simp [equalLeaf, identicalLeaf, content, comparable_finite, Int64.toInt_inj]
    | float y =>
      simp only [equalLeaf, beq_iff_eq, Binary64.toInt?_eq_some_iff_quantity, content,
        Content.number.injEq, comparable_finite, and_true]
      exact eq_comm
    | _ => simp [equalLeaf, identicalLeaf, content]
  | float x =>
    cases w with
    | int m =>
      simp only [equalLeaf, beq_iff_eq, Binary64.toInt?_eq_some_iff_quantity, content,
        Content.number.injEq]
      exact ⟨fun h => ⟨h, h ▸ comparable_finite _⟩, And.left⟩
    | float y => simp [equalLeaf, content, Content.Comparable, Binary64.equals_iff]
    | _ => simp [equalLeaf, identicalLeaf, content]
  | _ => cases w <;> simp [equalLeaf, identicalLeaf, content, Content.Comparable]

def ComparesScalars (leaf : Value → Value → Bool) : Prop :=
  ∀ v w, leaf v w = true → v.content = w.content ∧ v.isAggregate = false

theorem comparesScalars_identicalLeaf : ComparesScalars identicalLeaf := by
  intro v w h
  exact ⟨content_eq_of_identicalLeaf h, by cases v <;> first | rfl | cases w <;> cases h⟩

theorem comparesScalars_equalLeaf : ComparesScalars equalLeaf := by
  intro v w h
  obtain ⟨same, comparable⟩ := (equalLeaf_iff v w).1 h
  refine ⟨same, ?_⟩
  cases v with
  | list address items => exact absurd rfl comparable.2.1
  | record address fields => exact absurd rfl comparable.2.2
  | _ => rfl

theorem isAggregate_eq_of_content {v w : Value} (h : v.content = w.content) :
    v.isAggregate = w.isAggregate := by
  cases v <;> cases w <;> first | rfl | cases h

theorem text?_eq_of_content {v w : Value} (h : v.content = w.content) : v.text? = w.text? := by
  cases v <;> cases w <;> first | rfl | (cases h; rfl) | cases h

section Agreement

variable {leaf : Value → Value → Bool}

theorem agreeItems_iff (items others : List Value) :
    agreeItems leaf items others = true ↔
      List.Forall₂ (fun v w => v.agree leaf w = true) items others := by
  induction items generalizing others with
  | nil => cases others <;> simp [agreeItems]
  | cons v vs ih => cases others <;> simp [agreeItems, ih]

theorem rel_getElem?_of_forall₂ {r : Value → Value → Prop} {items others : List Value}
    (h : List.Forall₂ r items others) (index : Nat) :
    Option.Rel r items[index]? others[index]? := by
  induction h generalizing index with
  | nil => exact .none
  | cons first rest ih =>
    cases index with
    | zero => exact .some first
    | succ index => exact ih index

theorem rel_get?_of_agreeFields {b c : Bound} (fields : Fields Value b) (others : Fields Value c)
    (h : agreeFields leaf fields others = true) (key : String) :
    Option.Rel (fun v w => v.agree leaf w = true) (fields.get? key) (others.get? key) := by
  induction fields generalizing c with
  | nil =>
    cases others with
    | nil => exact .none
    | cons _ _ _ _ => cases h
  | cons name above v rest ih =>
    cases others with
    | nil => cases h
    | cons other above' w others =>
      simp only [agreeFields, Bool.and_eq_true, beq_iff_eq] at h
      obtain ⟨⟨rfl, parts_agree⟩, rest_agree⟩ := h
      simp only [Fields.get?]
      split
      · exact .some parts_agree
      · exact ih others rest_agree

theorem agree_cases (h : ComparesScalars leaf) {v w : Value} (hvw : v.agree leaf w = true) :
    (∃ a items b others, v = .list a items ∧ w = .list b others ∧
        List.Forall₂ (fun x y => x.agree leaf y = true) items others) ∨
      (∃ a fields b others, v = .record a fields ∧ w = .record b others ∧
        agreeFields leaf fields others = true) ∨
      v.isAggregate = false ∧ w.isAggregate = false ∧ v.content = w.content := by
  have scalars (hleaf : leaf v w = true) :
      v.isAggregate = false ∧ w.isAggregate = false ∧ v.content = w.content := by
    obtain ⟨same, hv⟩ := h v w hleaf
    exact ⟨hv, (isAggregate_eq_of_content same).symm.trans hv, same⟩
  cases v with
  | list a items =>
    cases w with
    | list b others => exact .inl ⟨a, items, b, others, rfl, rfl, (agreeItems_iff _ _).1 hvw⟩
    | _ => exact .inr (.inr (scalars hvw))
  | record a fields =>
    cases w with
    | record b others => exact .inr (.inl ⟨a, fields, b, others, rfl, rfl, hvw⟩)
    | _ => exact .inr (.inr (scalars hvw))
  | _ => exact .inr (.inr (scalars hvw))

theorem content_eq_of_agree (h : ComparesScalars leaf) {v w : Value} (hvw : v.agree leaf w = true) :
    v.content = w.content := by
  rcases agree_cases h hvw with ⟨_, _, _, _, rfl, rfl, -⟩ | ⟨_, _, _, _, rfl, rfl, -⟩ | ⟨-, -, same⟩
  · rfl
  · rfl
  · exact same

theorem part?_eq_none {v : Value} (h : v.isAggregate = false) (step : Step) :
    v.part? step = none := by
  cases v <;> cases step <;> first | rfl | cases h

theorem rel_part?_of_agree (h : ComparesScalars leaf) {v w : Value} (hvw : v.agree leaf w = true)
    (step : Step) :
    Option.Rel (fun x y => x.agree leaf y = true) (v.part? step) (w.part? step) := by
  rcases agree_cases h hvw with ⟨_, items, _, others, rfl, rfl, items_agree⟩ |
    ⟨_, fields, _, others, rfl, rfl, fields_agree⟩ | ⟨hv, hw, -⟩
  · cases step with
    | field name =>
      simp only [part?, get?]
      cases Numeral.parse? name with
      | none => exact .none
      | some index => exact rel_getElem?_of_forall₂ items_agree index
    | position index => exact rel_getElem?_of_forall₂ items_agree index
  · cases step with
    | field name => exact rel_get?_of_agreeFields fields others fields_agree name
    | position index => exact rel_get?_of_agreeFields fields others fields_agree _
  · rw [part?_eq_none hv, part?_eq_none hw]
    exact .none

theorem rel_items?_of_agree (h : ComparesScalars leaf) {v w : Value}
    (hvw : v.agree leaf w = true) :
    Option.Rel (List.Forall₂ fun x y => x.agree leaf y = true) v.items? w.items? := by
  have items?_eq_none {u : Value} (hu : u.isAggregate = false) : u.items? = none := by
    cases u <;> first | rfl | cases hu
  rcases agree_cases h hvw with ⟨_, _, _, _, rfl, rfl, items_agree⟩ |
    ⟨_, _, _, _, rfl, rfl, -⟩ | ⟨hv, hw, -⟩
  · exact .some items_agree
  · exact .none
  · rw [items?_eq_none hv, items?_eq_none hw]
    exact .none

end Agreement

def Alike (v w : Value) : Prop := v.equals w = true ∨ (v == w) = true

instance (v w : Value) : Decidable (v.Alike w) := inferInstanceAs (Decidable (_ ∨ _))

namespace Alike

variable {v w : Value}

theorem content_eq (h : v.Alike w) : v.content = w.content := by
  rcases h with h | h
  · exact content_eq_of_agree comparesScalars_equalLeaf h
  · exact content_eq_of_agree comparesScalars_identicalLeaf h

theorem rel_part? (h : v.Alike w) (step : Step) :
    Option.Rel Alike (v.part? step) (w.part? step) := by
  rcases h with h | h
  · exact rel_mono (rel_part?_of_agree comparesScalars_equalLeaf h step) fun _ _ _ => .inl
  · exact rel_mono (rel_part?_of_agree comparesScalars_identicalLeaf h step) fun _ _ _ => .inr

theorem rel_items? (h : v.Alike w) : Option.Rel (List.Forall₂ Alike) v.items? w.items? := by
  rcases h with h | h
  · exact rel_mono (rel_items?_of_agree comparesScalars_equalLeaf h) fun _ _ _ =>
      .imp fun _ _ => .inl
  · exact rel_mono (rel_items?_of_agree comparesScalars_identicalLeaf h) fun _ _ _ =>
      .imp fun _ _ => .inr

theorem tag?_eq (h : v.Alike w) (discriminant : String) :
    v.tag? discriminant = w.tag? discriminant := by
  have same := h.content_eq
  have fields_alike := h.rel_part? (.field discriminant)
  cases v with
  | record a fields =>
    cases w with
    | record b others =>
      exact bind_eq_of_rel (fun _ _ alike => text?_eq_of_content alike.content_eq) fields_alike
    | _ => cases same
  | _ =>
    cases w with
    | record b others => cases same
    | _ => rfl

end Alike

end Value

end ShapeMatch
