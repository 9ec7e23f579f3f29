import ShapeMatch.Proofs.Allocations
import ShapeMatch.Proofs.StoredValues

/-!
# Values built in different ways

A record is built by inserting pairs into a table one after the other, so the last pair for each
name stays. Two values are built alike if at every depth the same names are written, and the last
contents written for them are built alike. Their tables may come in different orders all the same.
Such values mean the same but for their allocations, so nothing shows which way was taken.
-/

namespace ShapeMatch

namespace Stored

/-- Of two lists of pairs only the last ones for each name are compared. Of the tables only that
they were filled from the pairs is known. -/
inductive BuiltAlike : Stored → Stored → Prop
  | same (s : Stored) : BuiltAlike s s
  | text (a b : Address) (content : String) : BuiltAlike (.text a content) (.text b content)
  | list (a b : Address) {items others : List Stored} (as_long : items.length = others.length)
      (parts : ∀ (index : Nat) x y, items[index]? = some x → others[index]? = some y →
        BuiltAlike x y) :
      BuiltAlike (.list a items) (.list b others)
  | record (a b : Address) {fields members : Hashed Stored []}
      {pairs others : List (String × Stored)} (filled : fields.Filled pairs)
      (other_filled : members.Filled others)
      (names : ∀ key, (Fields.last? pairs key).isSome = (Fields.last? others key).isSome)
      (parts : ∀ key x y, Fields.last? pairs key = some x → Fields.last? others key = some y →
        BuiltAlike x y) :
      BuiltAlike (.record a fields) (.record b members)
  /-- What is paired with the discriminant is overwritten by the tag. -/
  | tagged (a b aTag bTag : Address) (discriminant tag : String) {fields members : Hashed Stored []}
      {pairs others : List (String × Stored)}
      (filled : fields.Filled (pairs ++ [(discriminant, .text aTag tag)]))
      (other_filled : members.Filled (others ++ [(discriminant, .text bTag tag)]))
      (names : ∀ key, key ≠ discriminant →
        (Fields.last? pairs key).isSome = (Fields.last? others key).isSome)
      (parts : ∀ key x y, key ≠ discriminant → Fields.last? pairs key = some x →
        Fields.last? others key = some y → BuiltAlike x y) :
      BuiltAlike (.record a fields) (.record b members)

def bare (s : Stored) : Value := s.value.bare

theorem map_bare_eq {a? b? : Option Stored} (both : a?.isSome = b?.isSome)
    (h : ∀ x y, a? = some x → b? = some y → x.bare = y.bare) : a?.map bare = b?.map bare := by
  cases a? with
  | none =>
    cases b? with
    | none => rfl
    | some y => cases both
  | some x =>
    cases b? with
    | none => cases both
    | some y => exact congrArg some (h x y rfl rfl)

theorem bare_eq_of_filled (a b : Address) {fields members : Hashed Stored []}
    {pairs others : List (String × Stored)} (filled : fields.Filled pairs)
    (other_filled : members.Filled others)
    (h : ∀ key, (Fields.last? pairs key).map bare = (Fields.last? others key).map bare) :
    (record a fields).bare = (record b members).bare := by
  rw [bare, bare, value_of_filled filled, value_of_filled other_filled]
  refine Value.bare_record_eq fun key => ?_
  rw [Fields.get?_ofList, Fields.get?_ofList, Fields.last?_map, Fields.last?_map, Option.map_map,
    Option.map_map]
  exact h key

theorem BuiltAlike.bare_eq {s t : Stored} (alike : s.BuiltAlike t) : s.bare = t.bare := by
  induction alike with
  | same s => rfl
  | text a b content => rfl
  | list a b as_long parts ih =>
    rw [bare, bare, value_list, value_list]
    refine Value.bare_list_eq fun index => ?_
    rw [List.getElem?_map, List.getElem?_map, Option.map_map, Option.map_map]
    refine map_bare_eq ?_ (ih index)
    rw [Bool.eq_iff_iff]
    simp only [isSome_getElem?, as_long]
  | record a b filled other_filled names parts ih =>
    exact bare_eq_of_filled a b filled other_filled fun key => map_bare_eq (names key) (ih key)
  | tagged a b aTag bTag discriminant tag filled other_filled names parts ih =>
    refine bare_eq_of_filled a b filled other_filled fun key => ?_
    rw [Fields.last?_concat, Fields.last?_concat]
    by_cases own : key = discriminant
    · rw [if_pos own, if_pos own]
      rfl
    · rw [if_neg own, if_neg own]
      exact map_bare_eq (names key own) fun x y => ih key x y own

end Stored

namespace Pattern

/-- Field patterns at every depth list their names in strictly ascending order. -/
inductive NamesAscend : Pattern → Prop
  | intro {p : Pattern}
      (names : ∀ entries, p = .fields entries → (entries.map (·.1)).Pairwise (· < ·))
      (parts : ∀ part ∈ p.parts, NamesAscend part.2) : NamesAscend p

theorem namesAscend_ofValue (data : Value) : (ofValue data).NamesAscend := by
  induction data using Value.induct with
  | step data ih =>
    refine .intro (fun entries same => ?_) fun part hpart => ?_
    · cases data with
      | record address members =>
        rw [ofValue, ofFields_eq_map] at same
        rw [← Pattern.fields.inj same, List.map_map]
        exact members.names_ascend
      | _ => cases same
    · rw [parts_ofValue] at hpart
      obtain ⟨entry, hentry, rfl⟩ := List.mem_map.1 hpart
      exact ih entry.2 (Value.mem_children_of_mem_entries hentry)

end Pattern

theorem construction_unobservable {a b : Stored} (alike : a.BuiltAlike b) :
    a.display = b.display ∧ a.debug = b.debug ∧ (a == b) = true ∧ a.lift.bare = b.lift.bare ∧
      a.lift.NamesAscend ∧ b.lift.NamesAscend ∧
      ∀ (routines : Routines) (config : Config) (v : Value),
        a.lift.accepts routines config v = b.lift.accepts routines config v := by
  have same : a.value.bare = b.value.bare := alike.bare_eq
  rw [a.lift_eq, b.lift_eq]
  refine ⟨?displays, ?debugs, ?identical, ?patterns, Pattern.namesAscend_ofValue a.value,
    Pattern.namesAscend_ofValue b.value, fun routines config v => ?runs⟩
  case displays =>
    rw [a.display_eq, b.display_eq, ← Value.display_bare a.value, same, Value.display_bare]
  case debugs => rw [a.debug_eq, b.debug_eq, ← Value.debug_bare a.value, same, Value.debug_bare]
  case identical => exact (a.beq_eq b).trans ((Value.identical_iff_bare_eq _ _).2 same)
  case patterns => rw [Pattern.bare_ofValue, Pattern.bare_ofValue, same]
  case runs =>
    rw [Pattern.accepts, Pattern.accepts, ← Pattern.acceptsFrom_ofValue_bare _ config.maxDepth 0,
      same, Pattern.acceptsFrom_ofValue_bare]

theorem construction_unobservable_of_overwritten_pairs :
    let routines : Routines := fun _ _ => pure (.ok .null)
    let null : Stored := .scalar .null rfl
    let two : Stored := .scalar (.int 2) rfl
    let inner : Stored := .ofPairs 1 [("y", null), ("x", two), ("y", .text 2 "s")]
    let reordered : Stored := .ofPairs 11 [("y", .text 12 "s"), ("x", two)]
    let leaf : Stored := .tagged 3 4 "kind" "leaf" [("n", null), ("kind", two)]
    let shadowless : Stored := .tagged 13 14 "kind" "leaf" [("n", null)]
    let a : Stored := .ofPairs 0 [("k", inner), ("t", .list 5 [leaf])]
    let b : Stored := .ofPairs 10 [("t", .list 15 [shadowless]), ("k", null), ("k", reordered)]
    a.BuiltAlike b ∧ a.display = b.display ∧ a.debug = b.debug ∧ (a == b) = true ∧
      a.lift.bare = b.lift.bare ∧
      a.lift.accepts routines .standard a.value = b.lift.accepts routines .standard a.value := by
  intro routines null two inner reordered leaf shadowless a b
  have inner_alike : inner.BuiltAlike reordered := by
    refine .record _ _ (Hashed.filled_ofList _) (Hashed.filled_ofList _) (fun key => ?_)
      fun key x y hx hy => ?_
    · by_cases at_x : key = "x" <;> by_cases at_y : key = "y" <;> simp_all [Fields.last?_nil]
    · by_cases at_x : key = "x"
      · obtain rfl : two = x := by simpa [at_x, Fields.last?_nil] using hx
        obtain rfl : two = y := by simpa [at_x, Fields.last?_nil] using hy
        exact .same _
      · by_cases at_y : key = "y"
        · obtain rfl : Stored.text 2 "s" = x := by simpa [at_y, Fields.last?_nil] using hx
          obtain rfl : Stored.text 12 "s" = y := by simpa [at_y, Fields.last?_nil] using hy
          exact .text 2 12 "s"
        · simp [at_x, at_y, Fields.last?_nil] at hx
  have leaf_alike : leaf.BuiltAlike shadowless := by
    refine .tagged _ _ _ _ _ _ (Hashed.filled_insert_ofList _ _ _)
      (Hashed.filled_insert_ofList _ _ _) (fun key other => ?_) fun key x y other hx hy => ?_
    · simp [other]
    · obtain ⟨rfl, rfl⟩ : key = "n" ∧ null = x := by simpa [other, Fields.last?_nil] using hx
      obtain rfl : null = y := by simpa [Fields.last?_nil] using hy
      exact .same _
  have alike : a.BuiltAlike b := by
    refine .record _ _ (Hashed.filled_ofList _) (Hashed.filled_ofList _) (fun key => ?_)
      fun key x y hx hy => ?_
    · by_cases at_k : key = "k" <;> by_cases at_t : key = "t" <;> simp_all [Fields.last?_nil]
    · by_cases at_k : key = "k"
      · obtain rfl : inner = x := by simpa [at_k, Fields.last?_nil] using hx
        obtain rfl : reordered = y := by simpa [at_k, Fields.last?_nil] using hy
        exact inner_alike
      · obtain ⟨rfl, rfl⟩ : key = "t" ∧ Stored.list 5 [leaf] = x := by
          simpa [at_k, Fields.last?_nil] using hx
        obtain rfl : Stored.list 15 [shadowless] = y := by simpa [Fields.last?_nil] using hy
        refine .list _ _ rfl fun index x y hx hy => ?_
        obtain ⟨rfl, rfl⟩ : index = 0 ∧ leaf = x := by simpa [List.getElem?_singleton] using hx
        obtain rfl : shadowless = y := by simpa using hy
        exact leaf_alike
  obtain ⟨displays, debugs, identical, patterns, -, -, runs⟩ := construction_unobservable alike
  exact ⟨alike, displays, debugs, identical, patterns, runs routines .standard a.value⟩

end ShapeMatch
