import Mathlib.Data.List.Induction
import ShapeMatch.Proofs.EqualityInvariance
import ShapeMatch.Proofs.Numerals
import ShapeMatch.Proofs.Subsets

/-!
# Lists as records of their positions

A list can be written as a record that holds each element under the numeral of its position. Under
every position, and under every name that is not another spelling of one, the record has what the
list has. So a pattern that only compares data, by such names, cannot tell the two apart, whatever
the depth at which lists are written as records.
-/

namespace ShapeMatch

open Run

theorem rel_of_rel_map {α β γ : Type} {f : α → γ} {r : γ → β → Prop} {a? : Option α}
    {b? : Option β} (h : Option.Rel r (a?.map f) b?) : Option.Rel (fun a b => r (f a) b) a? b? := by
  cases a? with
  | none =>
    cases h
    exact .none
  | some a =>
    cases h with
    | some hr => exact .some hr

namespace Value

mutual

/-- Every list becomes the record of its elements under the numerals of their positions. -/
def indexed : Value → Value
  | .list address items => .record address (.ofList (indexedItems 0 items))
  | .record address fields => .record address (indexedFields fields)
  | v => v

def indexedItems : Nat → List Value → List (String × Value)
  | _, [] => []
  | index, v :: rest => (Numeral.render index, v.indexed) :: indexedItems (index + 1) rest

def indexedFields : {bound : Bound} → Fields Value bound → Fields Value bound
  | _, .nil => .nil
  | _, .cons name above v rest => .cons name above v.indexed (indexedFields rest)

end

theorem indexedItems_eq_map (items : List Value) (index : Nat) :
    indexedItems index items =
      (items.zipIdx index).map fun item => (Numeral.render item.2, item.1.indexed) := by
  induction items generalizing index with
  | nil => rfl
  | cons v rest ih => rw [indexedItems, ih, List.zipIdx_cons, List.map_cons]

theorem indexedItems_names_nodup (items : List Value) :
    ((indexedItems 0 items).map (·.1)).Nodup := by
  rw [indexedItems_eq_map, List.map_map]
  exact nodup_map_positions Numeral.render_injective items

theorem get?_indexedItems_eq_some_iff (items : List Value) (key : String) (part : Value) :
    (Fields.ofList (indexedItems 0 items)).get? key = some part ↔
      ∃ index item, items[index]? = some item ∧ Numeral.render index = key ∧
        item.indexed = part := by
  rw [Fields.get?_ofList_eq_some_iff (indexedItems_names_nodup items), indexedItems_eq_map,
    List.mem_map]
  constructor
  · rintro ⟨item, hitem, same⟩
    cases same
    exact ⟨item.2, item.1, List.mem_zipIdx_iff_getElem?.1 hitem, rfl, rfl⟩
  · rintro ⟨index, item, hitem, rfl, rfl⟩
    exact ⟨(item, index), List.mem_zipIdx_iff_getElem?.2 hitem, rfl⟩

theorem get?_indexedItems (items : List Value) (index : Nat) :
    (Fields.ofList (indexedItems 0 items)).get? (Numeral.render index) =
      items[index]?.map indexed := by
  ext part
  rw [get?_indexedItems_eq_some_iff, Option.map_eq_some_iff]
  constructor
  · rintro ⟨other, item, hitem, same, rfl⟩
    rw [Numeral.render_injective same] at hitem
    exact ⟨item, hitem, rfl⟩
  · rintro ⟨item, hitem, rfl⟩
    exact ⟨index, item, hitem, rfl, rfl⟩

theorem get?_indexedItems_of_no_numeral {items : List Value}
    (words : items.length ≤ Numeral.wordBound) {key : String} (h : Numeral.parse? key = none) :
    (Fields.ofList (indexedItems 0 items)).get? key = none := by
  rw [Option.eq_none_iff_forall_ne_some]
  intro part hpart
  obtain ⟨index, item, hitem, rfl, -⟩ := (get?_indexedItems_eq_some_iff items key part).1 hpart
  have inside : index < items.length := (List.getElem?_eq_some_iff.1 hitem).1
  rw [Numeral.parse?_render (Nat.lt_of_lt_of_le inside words)] at h
  cases h

theorem get?_indexedFields {bound : Bound} (fields : Fields Value bound) (key : String) :
    (indexedFields fields).get? key = (fields.get? key).map indexed := by
  induction fields with
  | nil => rfl
  | cons name above v rest ih =>
    rw [indexedFields, Fields.get?, Fields.get?, ih]
    split <;> rfl

/-- Every position of every list in the value is a word, as it is for any list that fits in memory.
A longer list would have elements that no name leads to. -/
def WordSized (v : Value) : Prop :=
  ∀ part ∈ v.subvalues, ∀ items ∈ part.items?, items.length ≤ Numeral.wordBound

instance (v : Value) : Decidable v.WordSized :=
  inferInstanceAs (Decidable (∀ part ∈ v.subvalues, ∀ items ∈ part.items?, _))

theorem WordSized.part {v part : Value} {step : Step} (h : v.WordSized)
    (hpart : v.part? step = some part) : part.WordSized :=
  fun u hu => h u (subvalues_part? hpart hu)

theorem part?_indexed {v : Value} (words : v.WordSized) {step : Step}
    (canonical : ∀ name, step = .field name → Numeral.Canonical name) :
    v.indexed.part? step = (v.part? step).map indexed := by
  cases v with
  | list address items =>
    rw [indexed]
    cases step with
    | position index => exact get?_indexedItems items index
    | field name =>
      change (Fields.ofList (indexedItems 0 items)).get? name =
        ((Numeral.parse? name).bind (items[·]?)).map indexed
      cases hname : Numeral.parse? name with
      | none =>
        exact get?_indexedItems_of_no_numeral (words _ (self_mem_subvalues _) items rfl) hname
      | some index =>
        rw [canonical name rfl index hname]
        exact get?_indexedItems items index
  | record address fields =>
    rw [indexed]
    cases step <;> exact get?_indexedFields fields _
  | _ => cases step <;> rfl

def IndexedAs (v w : Value) : Prop := (v.indexed == w) = true

theorem indexed_of_scalar {v : Value} (h : v.isAggregate = false) : v.indexed = v := by
  cases v with
  | list address items => cases h
  | record address fields => cases h
  | _ => rfl

theorem isAggregate_indexed (v : Value) : v.indexed.isAggregate = v.isAggregate := by
  cases v <;> rfl

namespace IndexedAs

variable {v w : Value}

theorem content_eq (h : v.IndexedAs w) : v.indexed.content = w.content :=
  content_eq_of_agree comparesScalars_identicalLeaf h

theorem isAggregate_eq (h : v.IndexedAs w) : v.isAggregate = w.isAggregate :=
  (isAggregate_indexed v).symm.trans (isAggregate_eq_of_content h.content_eq)

theorem rel_part? (h : v.IndexedAs w) (words : v.WordSized) {step : Step}
    (canonical : ∀ name, step = .field name → Numeral.Canonical name) :
    Option.Rel IndexedAs (v.part? step) (w.part? step) := by
  have parts_agree := rel_part?_of_agree comparesScalars_identicalLeaf h step
  rw [part?_indexed words canonical] at parts_agree
  have parts_indexed := rel_of_rel_map parts_agree
  exact parts_indexed

end IndexedAs

end Value

namespace Pattern

mutual

def keys : Pattern → List String
  | .literal data => data.keys
  | .predicate _ => []
  | .fields entries => entries.map (·.1) ++ entriesKeys entries
  | .sequence items => itemsKeys items

def entriesKeys : List (String × Pattern) → List String
  | [] => []
  | (_, p) :: rest => p.keys ++ entriesKeys rest

def itemsKeys : List Pattern → List String
  | [] => []
  | p :: rest => p.keys ++ itemsKeys rest

end

theorem entriesKeys_eq_flatMap (entries : List (String × Pattern)) :
    entriesKeys entries = entries.flatMap (·.2.keys) := by
  induction entries with
  | nil => rfl
  | cons entry rest ih => rw [entriesKeys, ih, List.flatMap_cons]

theorem itemsKeys_eq_flatMap (items : List Pattern) : itemsKeys items = items.flatMap keys := by
  induction items with
  | nil => rfl
  | cons p rest ih => rw [itemsKeys, ih, List.flatMap_cons]

theorem mem_keys_node {p : Pattern} (h : p.isNode = true) (key : String) :
    key ∈ p.keys ↔ ∃ part ∈ p.parts, part.1 = .field key ∨ key ∈ part.2.keys := by
  cases p with
  | fields entries =>
    rw [keys, entriesKeys_eq_flatMap, List.mem_append, List.mem_map, List.mem_flatMap]
    constructor
    · rintro (⟨entry, hentry, rfl⟩ | ⟨entry, hentry, hkey⟩)
      · exact ⟨_, List.mem_map_of_mem hentry, .inl rfl⟩
      · exact ⟨_, List.mem_map_of_mem hentry, .inr hkey⟩
    · rintro ⟨part, hpart, named | hkey⟩
      · obtain ⟨entry, hentry, rfl⟩ := List.mem_map.1 hpart
        exact .inl ⟨entry, hentry, Step.field.inj named⟩
      · obtain ⟨entry, hentry, same⟩ := exists_entry_of_mem_parts hpart
        exact .inr ⟨entry, hentry, same ▸ hkey⟩
  | sequence items =>
    rw [keys, itemsKeys_eq_flatMap, List.mem_flatMap]
    constructor
    · rintro ⟨p, hp, hkey⟩
      obtain ⟨index, hpart⟩ := exists_mem_parts_of_mem_items hp
      exact ⟨_, hpart, .inr hkey⟩
    · rintro ⟨part, hpart, named | hkey⟩
      · obtain ⟨item, -, rfl⟩ := List.mem_map.1 hpart
        cases named
      · exact ⟨part.2, mem_items_of_mem_parts hpart, hkey⟩
  | _ => cases h

theorem isNode_of_mem_parts {p : Pattern} {part : Step × Pattern} (h : part ∈ p.parts) :
    p.isNode = true := by
  cases p <;> first | rfl | cases h

theorem keys_ofValue_subset (data : Value) : (ofValue data).keys ⊆ data.keys := by
  induction data using Value.induct with
  | step v ih =>
    cases hv : v.isAggregate with
    | false =>
      rw [ofValue_of_scalar hv, keys]
      exact List.Subset.refl _
    | true =>
      intro key hkey
      obtain ⟨part, hpart, named⟩ := (mem_keys_node (isNode_ofValue hv) key).1 hkey
      rw [parts_ofValue] at hpart
      obtain ⟨⟨step, child⟩, hentry, rfl⟩ := List.mem_map.1 hpart
      rcases named with rfl | inside
      · exact Value.mem_keys_of_mem_entries hentry
      · have hchild := Value.mem_children_of_mem_entries hentry
        exact Value.keys_child_subset hchild (ih child hchild inside)

variable {routines : Routines} {v w : Value}

structure NamesCanonically (p : Pattern) (v w : Value) : Prop where
  no_testers : p.testers = []
  canonical : ∀ key ∈ p.keys, Numeral.Canonical key
  apart_left : p.Apart v
  apart_right : p.Apart w

theorem NamesCanonically.step {p : Pattern} (h : p.NamesCanonically v w) {q : Step × Pattern}
    (hq : q ∈ p.parts) (name : String) (named : q.1 = .field name) : Numeral.Canonical name :=
  h.canonical name ((mem_keys_node (isNode_of_mem_parts hq) name).2 ⟨q, hq, .inl named⟩)

theorem NamesCanonically.part {p : Pattern} (h : p.NamesCanonically v w) {q : Step × Pattern}
    (hq : q ∈ p.parts) {x y : Value} (hx : v.part? q.1 = some x) (hy : w.part? q.1 = some y) :
    q.2.NamesCanonically x y where
  no_testers := List.subset_nil.1 (h.no_testers ▸ testers_part_subset hq)
  canonical key hkey :=
    h.canonical key ((mem_keys_node (isNode_of_mem_parts hq) key).2 ⟨q, hq, .inr hkey⟩)
  apart_left := h.apart_left.part hq hx
  apart_right := h.apart_right.part hq hy

theorem NamesCanonically.ofValue {data : Value} (h : (literal data).NamesCanonically v w) :
    (ofValue data).NamesCanonically v w where
  no_testers := (testers_ofValue data).trans h.no_testers
  canonical key hkey := h.canonical key (keys_ofValue_subset data hkey)
  apart_left := apart_ofValue data v
  apart_right := apart_ofValue data w

theorem acceptsLeaf_of_aggregate {data : Value} (scalar : data.isAggregate = false)
    (no_function : data.callable? = none) (aggregate : v.isAggregate = true) :
    acceptsLeaf routines data v = pure false := by
  cases data with
  | function f => cases no_function
  | list address items => cases scalar
  | record address fields => cases scalar
  | _ => cases v <;> first | rfl | cases aggregate

theorem acceptsFrom_eq_of_indexedAs (limit : Nat) (p : Pattern) (depth : Nat) (v w : Value)
    (indexed : v.IndexedAs w) (words : v.WordSized) (h : p.NamesCanonically v w) :
    acceptsFrom routines limit depth p v = acceptsFrom routines limit depth p w := by
  induction p using induct generalizing depth v w with
  | scalar data hdata =>
    have no_function : data.callable? = none :=
      Value.callable?_of_no_callables (List.map_eq_nil_iff.1 h.no_testers)
    have leaf_eq : acceptsLeaf routines data v = acceptsLeaf routines data w := by
      cases hv : v.isAggregate with
      | true =>
        rw [acceptsLeaf_of_aggregate hdata no_function hv,
          acceptsLeaf_of_aggregate hdata no_function (indexed.isAggregate_eq.symm.trans hv)]
      | false =>
        have same := indexed.content_eq
        rw [Value.indexed_of_scalar hv] at same
        exact acceptsLeaf_eq_of_content hdata no_function same
    rw [acceptsFrom_scalar _ _ _ _ hdata, acceptsFrom_scalar _ _ _ _ hdata, leaf_eq]
  | predicate matcher => cases h.no_testers
  | aggregate data hdata ih =>
    rw [acceptsFrom_aggregate _ _ _ _ hdata, acceptsFrom_aggregate _ _ _ _ hdata,
      h.apart_left.not_shared hdata, h.apart_right.not_shared hdata,
      ih depth v w indexed words h.ofValue]
  | node p hp ih =>
    have parts_eq : ∀ q ∈ p.parts,
        acceptsPart routines limit depth v q = acceptsPart routines limit depth w q := by
      intro q hq
      have parts_indexed := indexed.rel_part? words (h.step hq)
      exact onPart_congr id parts_indexed fun x y hx hy hxy =>
        ih q hq (depth + 1) x y hxy (words.part hx) (h.part hq hx hy)
    rw [acceptsFrom_node _ _ _ _ hp, acceptsFrom_node _ _ _ _ hp, List.map_congr_left parts_eq,
      ofAggregate, ofAggregate, indexed.isAggregate_eq]

/-- `w` is `v` with its lists written as records, wherever these are allocated. A literal accepts
its own allocation whatever is in it, so it must be apart from the records of `w` as well. -/
theorem accepts_eq_of_indexed (routines : Routines) (config : Config) {p : Pattern} {v w : Value}
    (no_testers : p.testers = []) (canonical : ∀ key ∈ p.keys, Numeral.Canonical key)
    (apart_v : p.Apart v) (apart_w : p.Apart w) (words : v.WordSized)
    (indexed : (v.indexed == w) = true) :
    p.accepts routines config v = p.accepts routines config w :=
  acceptsFrom_eq_of_indexedAs config.maxDepth p 0 v w indexed words
    ⟨no_testers, canonical, apart_v, apart_w⟩

theorem accepts_eq_of_indexed_at_every_depth :
    let routines : Routines := fun _ _ => pure (.ok .null)
    let p : Pattern := .fields
      [("n", .literal (.int 1)), ("rows", .sequence
        [.literal (.ofPairs 20 [("1", .str 21 "s")]), .fields [("k", .literal (.list 22 []))]])]
    let v : Value := .ofPairs 0
      [("rows", .list 1 [.list 2 [.null, .str 3 "s"], .ofPairs 4 [("k", .list 5 [])]]),
        ("n", .float ⟨0x3FF0000000000000⟩)]
    let w : Value := .ofPairs 10
      [("n", .float ⟨0x3FF0000000000000⟩),
        ("rows", .ofPairs 11 [("1", .ofPairs 12 [("k", .ofPairs 13 [])]),
          ("0", .ofPairs 14 [("0", .null), ("1", .str 3 "s")])])]
    p.testers = [] ∧ (∀ key ∈ p.keys, Numeral.Canonical key) ∧ p.Apart v ∧ p.Apart w ∧
      v.WordSized ∧ (v.indexed == w) = true ∧
      (p.accepts routines .standard w).outcome = .ok true ∧
      p.accepts routines .standard v = p.accepts routines .standard w ∧
      p.accepts routines ⟨2⟩ v = p.accepts routines ⟨2⟩ w ∧
      (p.accepts routines ⟨2⟩ v).outcome = .error (Cause.depthLimitExceeded 2).error := by
  intro routines p v w
  have no_testers : p.testers = [] := rfl
  have canonical : ∀ key ∈ p.keys, Numeral.Canonical key := by decide +kernel
  have apart_v : p.Apart v := by decide +kernel
  have apart_w : p.Apart w := by decide +kernel
  have words : v.WordSized := by decide +kernel
  have indexed : (v.indexed == w) = true := by decide +kernel
  have accepted : (p.accepts routines .standard w).outcome = .ok true :=
    holds_iff.1 (by decide +kernel)
  have same_run (config : Config) : p.accepts routines config v = p.accepts routines config w :=
    accepts_eq_of_indexed routines config no_testers canonical apart_v apart_w words indexed
  exact ⟨no_testers, canonical, apart_v, apart_w, words, indexed, accepted, same_run _, same_run _,
    rfl⟩

theorem accepts_ne_of_literal_of_the_record :
    let routines : Routines := fun _ _ => pure (.ok .null)
    let v : Value := .list 0 [.null]
    let w : Value := .ofPairs 1 [("0", .null)]
    let p : Pattern := .literal w
    p.testers = [] ∧ (∀ key ∈ p.keys, Numeral.Canonical key) ∧ p.Apart v ∧ v.WordSized ∧
      (v.indexed == w) = true ∧ ¬ p.Apart w ∧
      (p.accepts routines .standard v).outcome = .ok false ∧
      (p.accepts routines .standard w).outcome = .ok true := by
  intro routines v w p
  have canonical : ∀ key ∈ p.keys, Numeral.Canonical key := by decide +kernel
  have apart : p.Apart v := by decide +kernel
  have words : v.WordSized := by decide +kernel
  have indexed : (v.indexed == w) = true := by decide +kernel
  have shared : ¬ p.Apart w := by decide +kernel
  have refused : (p.accepts routines .standard v).outcome = .ok false :=
    refuses_iff.1 (by decide +kernel)
  have accepted : (p.accepts routines .standard w).outcome = .ok true :=
    holds_iff.1 (by decide +kernel)
  exact ⟨rfl, canonical, apart, words, indexed, shared, refused, accepted⟩

/-- A list is read under every spelling of a position, a record under the canonical one alone. -/
example :
    let routines : Routines := fun _ _ => pure (.ok .null)
    let p : Pattern := .fields [("00", .literal (.int 1))]
    let v : Value := .list 0 [.int 1]
    (p.accepts routines .standard v).holds = true ∧
      (p.accepts routines .standard v.indexed).holds = false := by
  decide +kernel

end Pattern

end ShapeMatch
