import ShapeMatch.Proofs.Recasting
import ShapeMatch.Proofs.Subsets
import ShapeMatch.Value.Render

/-!
# Values without their allocations

A bare value has the same address everywhere, so that nothing of its allocations is left in it. Two
values are identical if they come to the same bare value. Neither the texts of a value nor the
pattern that it lifts to tell where it was allocated.
-/

namespace ShapeMatch

theorem rel_iff_map_eq {α β γ : Type} {r : α → β → Prop} {f : α → γ} {g : β → γ} {a? : Option α}
    {b? : Option β} (h : ∀ a b, a? = some a → (r a b ↔ f a = g b)) :
    Option.Rel r a? b? ↔ a?.map f = b?.map g := by
  cases a? with
  | none => cases b? <;> simp
  | some a => cases b? <;> simp [h a _ rfl]

namespace Value

def bareScalar : Value → Value
  | .str _ text => .str 0 text
  | v => v

theorem content_bareScalar (v : Value) : (bareScalar v).content = v.content := by
  cases v <;> rfl

theorem identicalLeaf_iff_bareScalar {v : Value} (scalar : v.isAggregate = false) (w : Value) :
    identicalLeaf v w = true ↔ bareScalar v = bareScalar w := by
  cases v with
  | list address items => cases scalar
  | record address fields => cases scalar
  | _ => cases w <;> simp [identicalLeaf, bareScalar, Binary64.bits_inj]

def unplaced : Recasting := ⟨fun _ => 0, bareScalar, fun v _ => content_bareScalar v⟩

def bare (v : Value) : Value := v.recast unplaced

theorem content_bare (v : Value) : v.bare.content = v.content := content_recast unplaced v

theorem isAggregate_bare (v : Value) : v.bare.isAggregate = v.isAggregate :=
  isAggregate_recast unplaced v

theorem part?_bare (v : Value) (step : Step) : v.bare.part? step = (v.part? step).map bare :=
  part?_recast unplaced v step

theorem entries_bare (v : Value) :
    v.bare.entries = v.entries.map fun entry => (entry.1, entry.2.bare) :=
  entries_recast unplaced v

theorem bare_of_scalar {v : Value} (h : v.isAggregate = false) : v.bare = bareScalar v :=
  recast_of_scalar unplaced h

theorem bare_list (address : Address) (items : List Value) :
    (Value.list address items).bare = .list 0 (items.map bare) :=
  congrArg (Value.list 0) (recastItems_eq_map unplaced items)

theorem bare_record (address : Address) (fields : Fields Value none) :
    (Value.record address fields).bare = .record 0 (recastFields unplaced fields) :=
  rfl

theorem bare_list_eq {a b : Address} {items others : List Value}
    (h : ∀ index : Nat, items[index]?.map bare = others[index]?.map bare) :
    (Value.list a items).bare = (Value.list b others).bare := by
  rw [bare_list, bare_list]
  refine congrArg (Value.list 0) (List.ext_getElem? fun index => ?_)
  rw [List.getElem?_map, List.getElem?_map]
  exact h index

theorem bare_record_eq {a b : Address} {fields others : Fields Value none}
    (h : ∀ key, (fields.get? key).map bare = (others.get? key).map bare) :
    (Value.record a fields).bare = (Value.record b others).bare := by
  rw [bare_record, bare_record]
  refine congrArg (Value.record 0) (Fields.ext_get? fun key => ?_)
  rw [get?_recastFields, get?_recastFields]
  exact h key

theorem bare_eq_iff (v w : Value) :
    v.bare = w.bare ↔
      v.content = w.content ∧ (v.isAggregate = false → identicalLeaf v w = true) ∧
        ∀ step, (v.part? step).map bare = (w.part? step).map bare := by
  constructor
  · intro h
    have same : v.content = w.content := by rw [← content_bare v, h, content_bare]
    refine ⟨same, fun scalar => ?_, fun step => ?_⟩
    · have other_scalar := (isAggregate_eq_of_content same).symm.trans scalar
      rwa [bare_of_scalar scalar, bare_of_scalar other_scalar,
        ← identicalLeaf_iff_bareScalar scalar] at h
    · rw [← part?_bare, h, part?_bare]
  · rintro ⟨same, scalars, parts_eq⟩
    cases v with
    | list a items =>
      cases w with
      | list b others => exact bare_list_eq fun index => parts_eq (.position index)
      | _ => cases same
    | record a fields =>
      cases w with
      | record b others => exact bare_record_eq fun key => parts_eq (.field key)
      | _ => cases same
    | _ =>
      rw [bare_of_scalar rfl, bare_of_scalar (isAggregate_eq_of_content same).symm,
        ← identicalLeaf_iff_bareScalar rfl]
      exact scalars rfl

theorem identical_iff_bare_eq (v w : Value) : (v == w) = true ↔ v.bare = w.bare := by
  induction v using induct generalizing w with
  | step v ih =>
    rw [bare_eq_iff]
    refine (agree_iff comparesScalars_identicalLeaf v w).trans ?_
    refine and_congr_right fun _ => and_congr_right fun _ => forall_congr' fun step => ?_
    exact rel_iff_map_eq fun x y hx => ih x (mem_children_of_part? hx) y

theorem display_bare (v : Value) : v.bare.display = v.display := by
  induction v using induct with
  | step v ih =>
    cases v with
    | list address items =>
      rw [bare_list, display, display, displayItems_eq_map, displayItems_eq_map, List.map_map]
      exact congrArg Listing.bracketed (List.map_congr_left ih)
    | record address fields =>
      rw [bare_record, display, display, displayFields_eq_map, displayFields_eq_map,
        toList_recastFields, List.map_map]
      refine congrArg Listing.braced (List.map_congr_left fun field hfield => ?_)
      exact congrArg (Listing.entry field.1) (ih field.2 (List.mem_map_of_mem hfield))
    | _ => rfl

theorem debug_bare (v : Value) : v.bare.debug = v.debug := by
  induction v using induct with
  | step v ih =>
    cases v with
    | list address items =>
      rw [bare_list, debug, debug, debugItems_eq_map, debugItems_eq_map, List.map_map]
      exact congrArg (fun texts => Listing.applied "List" [Listing.bracketed texts])
        (List.map_congr_left ih)
    | record address fields =>
      rw [bare_record, debug, debug, debugFields_eq_map, debugFields_eq_map, toList_recastFields,
        List.map_map]
      refine congrArg (fun texts => Listing.applied "Record" [Listing.braced texts])
        (List.map_congr_left fun field hfield => ?_)
      exact congrArg (Listing.entry (Quoted.encode field.1))
        (ih field.2 (List.mem_map_of_mem hfield))
    | _ => rfl

end Value

namespace Pattern

mutual

def bare : Pattern → Pattern
  | .literal data => .literal data.bare
  | .predicate matcher => .predicate matcher
  | .fields entries => .fields (bareEntries entries)
  | .sequence items => .sequence (bareItems items)

def bareEntries : List (String × Pattern) → List (String × Pattern)
  | [] => []
  | (name, p) :: rest => (name, p.bare) :: bareEntries rest

def bareItems : List Pattern → List Pattern
  | [] => []
  | p :: rest => p.bare :: bareItems rest

end

theorem bareEntries_eq_map (entries : List (String × Pattern)) :
    bareEntries entries = entries.map fun entry => (entry.1, entry.2.bare) := by
  induction entries with
  | nil => rfl
  | cons entry rest ih => rw [bareEntries, ih, List.map_cons]

theorem bareItems_eq_map (items : List Pattern) : bareItems items = items.map bare := by
  induction items with
  | nil => rfl
  | cons p rest ih => rw [bareItems, ih, List.map_cons]

theorem bare_ofValue (data : Value) : (ofValue data).bare = ofValue data.bare := by
  induction data using Value.induct with
  | step v ih =>
    cases v with
    | list address items =>
      rw [Value.bare_list, ofValue, ofValue, bare, bareItems_eq_map, ofItems_eq_map,
        ofItems_eq_map, List.map_map, List.map_map]
      exact congrArg Pattern.sequence (List.map_congr_left ih)
    | record address members =>
      rw [Value.bare_record, ofValue, ofValue, bare, bareEntries_eq_map, ofFields_eq_map,
        ofFields_eq_map, Value.toList_recastFields, List.map_map, List.map_map]
      refine congrArg Pattern.fields (List.map_congr_left fun member hmember => ?_)
      exact congrArg (Prod.mk member.1) (ih member.2 (List.mem_map_of_mem hmember))
    | _ => rfl

variable (routines : Routines)

theorem acceptsLeaf_bareScalar (data v : Value) :
    acceptsLeaf routines (Value.bareScalar data) v = acceptsLeaf routines data v := by
  cases data with
  | str address text => cases v <;> rfl
  | _ => rfl

theorem acceptsFrom_ofValue_bare (limit depth : Nat) (data v : Value) :
    acceptsFrom routines limit depth (ofValue data.bare) v =
      acceptsFrom routines limit depth (ofValue data) v := by
  induction data using Value.induct generalizing depth v with
  | step data ih =>
    have same_kind := data.isAggregate_bare
    cases hdata : data.isAggregate with
    | false =>
      rw [hdata] at same_kind
      rw [ofValue_of_scalar same_kind, ofValue_of_scalar hdata,
        acceptsFrom_scalar _ _ _ _ same_kind, acceptsFrom_scalar _ _ _ _ hdata,
        Value.bare_of_scalar hdata, acceptsLeaf_bareScalar]
    | true =>
      rw [hdata] at same_kind
      have runs_eq : (ofValue data.bare).parts.map (acceptsPart routines limit depth v) =
          (ofValue data).parts.map (acceptsPart routines limit depth v) := by
        rw [parts_ofValue, parts_ofValue, Value.entries_bare, List.map_map, List.map_map,
          List.map_map]
        refine List.map_congr_left fun entry hentry => ?_
        have child := Value.mem_children_of_mem_entries hentry
        exact congrArg (onPart (v.part? entry.1)) (funext (ih entry.2 child (depth + 1)))
      rw [acceptsFrom_node _ _ _ _ (isNode_ofValue same_kind),
        acceptsFrom_node _ _ _ _ (isNode_ofValue hdata), runs_eq]

end Pattern

end ShapeMatch
