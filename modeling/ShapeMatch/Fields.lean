/-!
# Fields

A finite map from names to contents, kept in ascending order of the names. The type itself keeps
the order: a field's name lies above the bound that the fields before it leave. This is what a
hash table means, when the order in which it hands out its entries is left aside.
-/

namespace ShapeMatch

/-- No bound, or a name that later names exceed. -/
abbrev Bound := Option String

def Bound.Below : Bound → String → Prop
  | none, _ => True
  | some last, name => last < name

inductive Fields (α : Type) : Bound → Type where
  | nil {bound : Bound} : Fields α bound
  | cons {bound : Bound} (name : String) (above : bound.Below name) (content : α)
      (rest : Fields α (some name)) : Fields α bound

namespace Bound

instance : (bound : Bound) → (name : String) → Decidable (bound.Below name)
  | none, _ => isTrue trivial
  | some last, name => inferInstanceAs (Decidable (last < name))

theorem Below.trans {bound : Bound} {a b : String} (h : bound.Below a) (hab : a < b) :
    bound.Below b := by
  cases bound with
  | none => trivial
  | some last => exact String.lt_trans h hab

end Bound

namespace Fields

variable {α : Type} {bound : Bound}

def toList : {bound : Bound} → Fields α bound → List (String × α)
  | _, .nil => []
  | _, .cons name _ content rest => (name, content) :: rest.toList

def names (fields : Fields α bound) : List String := fields.toList.map (·.1)

def get? (key : String) : {bound : Bound} → Fields α bound → Option α
  | _, .nil => none
  | _, .cons name _ content rest => if key = name then some content else rest.get? key

def insert (key : String) (new : α) : {bound : Bound} → (above : bound.Below key) →
    Fields α bound → Fields α bound
  | _, above, .nil => .cons key above new .nil
  | _, above, .cons name h content rest =>
    if before : key < name then .cons key above new (.cons name before content rest)
    else if after : name < key then .cons name h content (rest.insert key new after)
    else .cons name h new rest

def put (fields : Fields α none) (key : String) (new : α) : Fields α none :=
  fields.insert key new trivial

/-- The last of several contents for one name stays. -/
def ofList (pairs : List (String × α)) : Fields α none :=
  pairs.foldl (fun fields pair => fields.put pair.1 pair.2) .nil

theorem get?_eq_none_of_not_lt {key last : String} (h : ¬ last < key)
    (fields : Fields α (some last)) : fields.get? key = none := by
  generalize hb : (some last : Bound) = bound at fields
  induction fields generalizing last with
  | nil => rfl
  | @cons b name above content rest ih =>
    subst hb
    have key_ne : key ≠ name := fun e => h (e ▸ above)
    rw [get?, if_neg key_ne]
    exact ih (fun hn => h (String.lt_trans above hn)) rfl

theorem get?_insert (key other : String) (new : α) (above : bound.Below key)
    (fields : Fields α bound) :
    (fields.insert key new above).get? other =
      if other = key then some new else fields.get? other := by
  induction fields with
  | nil => rfl
  | cons name h content rest ih =>
    rw [insert]
    split
    · rfl
    · split
      · rename_i after
        rw [get?, get?, ih after]
        by_cases hn : other = name
        · subst hn
          have : other ≠ key := fun e => String.lt_irrefl _ (e ▸ after)
          simp [this]
        · simp [hn]
      · rename_i before after
        have same : key = name :=
          String.le_antisymm (String.not_lt.1 after) (String.not_lt.1 before)
        subst same
        rw [get?, get?]
        split <;> rfl

theorem get?_put (fields : Fields α none) (key other : String) (new : α) :
    (fields.put key new).get? other = if other = key then some new else fields.get? other :=
  get?_insert key other new _ fields

theorem ofList_concat (pairs : List (String × α)) (key : String) (content : α) :
    ofList (pairs ++ [(key, content)]) = (ofList pairs).put key content := by
  rw [ofList, List.foldl_append]
  rfl

theorem ext_get? {a b : Fields α bound} (h : ∀ key, a.get? key = b.get? key) : a = b := by
  induction a with
  | nil =>
    cases b with
    | nil => rfl
    | cons name _ content rest => simpa [get?] using h name
  | cons name above content rest ih =>
    cases b with
    | nil => simpa [get?] using h name
    | cons other above' content' rest' =>
      have absent {n m : String} (hn : n < m) (fields : Fields α (some m)) :
          fields.get? n = none :=
        get?_eq_none_of_not_lt (fun hm => String.lt_irrefl _ (String.lt_trans hn hm)) fields
      have names_eq : name = other := by
        apply String.le_antisymm <;> refine String.not_lt.1 fun hlt => ?_
        · have := h other
          rw [get?, get?, if_pos rfl, if_neg (fun e => String.lt_irrefl _ (e ▸ hlt)),
            absent hlt] at this
          cases this
        · have := h name
          rw [get?, get?, if_pos rfl, if_neg (fun e => String.lt_irrefl _ (e ▸ hlt)),
            absent hlt] at this
          cases this
      subst names_eq
      have contents_eq : content = content' := by
        have := h name
        rw [get?, get?, if_pos rfl, if_pos rfl] at this
        exact Option.some.inj this
      have rests_eq : rest = rest' := ih fun key => by
        by_cases hk : key = name
        · subst hk
          rw [get?_eq_none_of_not_lt (String.lt_irrefl _),
            get?_eq_none_of_not_lt (String.lt_irrefl _)]
        · have := h key
          rwa [get?, get?, if_neg hk, if_neg hk] at this
      rw [contents_eq, rests_eq]

end Fields

end ShapeMatch
