import ShapeMatch.Proofs.Recasting

/-!
# One form for each number

A number can be held by an integer, by a float, and zero by two floats. The canonical form of a
value writes each of its floats as an integer where there is one with the same value. Then numbers
of the same quantity are the same, so that numeric equality is strict equality of canonical forms.
-/

namespace ShapeMatch

namespace Binary64

def int64? (x : Binary64) : Option Int64 :=
  x.toInt?.bind fun n =>
    if -9223372036854775808 ≤ n ∧ n < 9223372036854775808 then some (Int64.ofInt n) else none

theorem int64?_eq_some_iff (x : Binary64) (n : Int64) :
    x.int64? = some n ↔ x.quantity = .finite n.toInt := by
  rw [← toInt?_eq_some_iff_quantity, int64?, Option.bind_eq_some_iff]
  constructor
  · rintro ⟨m, hm, same⟩
    split at same
    · next inside =>
      obtain rfl := Option.some.inj same
      rw [hm, Int64.toInt_ofInt_of_le inside.1 inside.2]
    · cases same
  · intro h
    have inside : -9223372036854775808 ≤ n.toInt ∧ n.toInt < 9223372036854775808 :=
      ⟨n.le_toInt, n.toInt_lt⟩
    exact ⟨n.toInt, h, by rw [if_pos inside, Int64.ofInt_toInt]⟩

theorem quantity_of_isZero {x : Binary64} (h : x.isZero = true) : x.quantity = .finite 0 := by
  have value_zero : x.value = 0 := by
    rw [value, (magnitude_eq_zero_iff x).2 h, neg_zero, ite_self]
  rw [quantity, if_pos (isFinite_of_isZero h), value_zero]

end Binary64

namespace Value

def canonicalNumber : Value → Value
  | .float x => match x.int64? with
    | some n => .int n
    | none => .float x
  | v => v

theorem canonicalNumber_of_int64 {v : Value} {n : Int64}
    (h : v.content = .number (.finite n.toInt)) : canonicalNumber v = .int n := by
  cases v with
  | int m =>
    have same : m = n := by simpa [content, Int64.toInt_inj] using h
    rw [same]
    rfl
  | float x =>
    have held : x.int64? = some n := (x.int64?_eq_some_iff n).2 (Content.number.inj h)
    rw [canonicalNumber, held]
  | _ => cases h

theorem canonicalNumber_of_no_int64 {v : Value}
    (h : ∀ n : Int64, v.content ≠ .number (.finite n.toInt)) : canonicalNumber v = v := by
  cases v with
  | float x =>
    have not_held : x.int64? = none := by
      refine Option.eq_none_iff_forall_ne_some.2 fun n held => h n ?_
      rw [content, (x.int64?_eq_some_iff n).1 held]
    rw [canonicalNumber, not_held]
  | _ => rfl

theorem content_canonicalNumber (v : Value) : (canonicalNumber v).content = v.content := by
  by_cases held : ∃ n : Int64, v.content = .number (.finite n.toInt)
  · obtain ⟨n, hn⟩ := held
    rw [canonicalNumber_of_int64 hn, hn, content]
  · rw [canonicalNumber_of_no_int64 (not_exists.1 held)]

theorem identicalLeaf_canonicalNumber {v w : Value} (scalar : v.isAggregate = false)
    (same : v.content = w.content) (defined : v.content ≠ .number .undefined) :
    identicalLeaf (canonicalNumber v) (canonicalNumber w) = true := by
  by_cases held : ∃ n : Int64, v.content = .number (.finite n.toInt)
  · obtain ⟨n, hn⟩ := held
    rw [canonicalNumber_of_int64 hn, canonicalNumber_of_int64 (same ▸ hn)]
    simp [identicalLeaf]
  · have not_held := not_exists.1 held
    rw [canonicalNumber_of_no_int64 not_held, canonicalNumber_of_no_int64 (same ▸ not_held)]
    cases v with
    | float x =>
      cases w with
      | float y =>
        have x_number : x.isNaN = false := (content_ne_undefined_iff (.float x)).1 defined
        have y_number : y.isNaN = false := (content_ne_undefined_iff (.float y)).1 (same ▸ defined)
        rcases (Binary64.quantity_eq_iff x_number y_number).1 (Content.number.inj same) with
          rfl | ⟨zero, -⟩
        · simp [identicalLeaf]
        · refine absurd ?_ (not_held 0)
          rw [content, Binary64.quantity_of_isZero zero, Int64.toInt_zero, Int.cast_zero]
      | int n => exact absurd same (not_held n)
      | _ => cases same
    | int n => exact absurd rfl (not_held n)
    | list address items => cases scalar
    | record address fields => cases scalar
    | _ => cases w <;> simp_all [content, identicalLeaf]

/-- Every float whose value is an integer of 64 bits becomes that integer. -/
def canonical (v : Value) : Value :=
  v.recast ⟨id, canonicalNumber, fun v _ => content_canonicalNumber v⟩

theorem canonical_of_scalar {v : Value} (h : v.isAggregate = false) :
    v.canonical = canonicalNumber v :=
  recast_of_scalar _ h

theorem canonical_float_eq_int_iff (x : Binary64) (n : Int64) :
    (Value.float x).canonical = .int n ↔ x.isFinite = true ∧ x.value = n.toInt := by
  rw [← Binary64.toInt?_eq_some_iff_value, Binary64.toInt?_eq_some_iff_quantity,
    ← Binary64.int64?_eq_some_iff, canonical_of_scalar rfl, canonicalNumber]
  cases x.int64? <;> simp

theorem canonical_float_of_isZero {x : Binary64} (h : x.isZero = true) :
    (Value.float x).canonical = .int 0 := by
  rw [canonical_of_scalar rfl]
  apply canonicalNumber_of_int64
  rw [content, Binary64.quantity_of_isZero h, Int64.toInt_zero, Int.cast_zero]

theorem identical_canonical_of_equals {a b : Value} (h : a.equals b = true) :
    (a.canonical == b.canonical) = true := by
  induction a using induct generalizing b with
  | step a ih =>
    obtain ⟨same, defined, parts_equal⟩ := (equals_iff a b).1 h
    refine (agree_iff comparesScalars_identicalLeaf _ _).2 ⟨?_, fun scalar => ?_, fun step => ?_⟩
    · rw [canonical, canonical, content_recast, content_recast, same]
    · rw [canonical, isAggregate_recast] at scalar
      have other_scalar := (isAggregate_eq_of_content same).symm.trans scalar
      rw [canonical_of_scalar scalar, canonical_of_scalar other_scalar]
      exact identicalLeaf_canonicalNumber scalar same defined
    · rw [canonical, canonical, part?_recast, part?_recast]
      exact rel_map (rel_mono (parts_equal step) fun x y hx hxy =>
        ih x (mem_children_of_part? hx) hxy)

theorem equals_of_identical {a b : Value} (h : (a == b) = true) (free : a.NaNFree) :
    a.equals b = true := by
  induction a using induct generalizing b with
  | step a ih =>
    obtain ⟨same, -, parts_identical⟩ := (agree_iff comparesScalars_identicalLeaf a b).1 h
    obtain ⟨defined, children_free⟩ := (forall_subvalues_iff a).1 free
    refine (equals_iff a b).2 ⟨same, (content_ne_undefined_iff a).2 defined, fun step => ?_⟩
    exact rel_mono (parts_identical step) fun x y hx hxy =>
      have child := mem_children_of_part? hx
      ih x child hxy (children_free x child)

theorem naNFree_of_equals {a b : Value} (h : a.equals b = true) : a.NaNFree :=
  (equals_self_iff a).1 (equals_trans h (equals_symm h))

theorem equals_iff_canonical :
    (∀ a b : Value, a.equals b = true ↔
        a.NaNFree ∧ b.NaNFree ∧ (a.canonical == b.canonical) = true) ∧
      (∀ a b : Value, (a == b) = true → a.NaNFree → a.equals b = true) ∧
      ∀ (x : Binary64) (n : Int64),
        (Value.float x).canonical = .int n ↔ x.isFinite = true ∧ x.value = n.toInt := by
  refine ⟨fun a b => ⟨fun h => ?_, ?_⟩, fun a b => equals_of_identical, canonical_float_eq_int_iff⟩
  · exact ⟨naNFree_of_equals h, naNFree_of_equals (equals_symm h), identical_canonical_of_equals h⟩
  · rintro ⟨a_free, b_free, identical⟩
    have a_equals : a.equals a.canonical = true := equals_recast _ a_free
    have equals_b : b.canonical.equals b = true := equals_symm (equals_recast _ b_free)
    have canonical_free : a.canonical.NaNFree := naNFree_of_equals (equals_symm a_equals)
    have forms_equal := equals_of_identical identical canonical_free
    exact equals_trans a_equals (equals_trans forms_equal equals_b)

theorem equals_iff_canonical_at_the_edges :
    let a : Value := .ofPairs 0 [("low", .float ⟨0xC3E0000000000000⟩),
      ("xs", .list 1 [.float ⟨0x8000000000000000⟩, .int 1, .float ⟨0x3FE0000000000000⟩])]
    let b : Value := .ofPairs 2 [("xs", .list 3 [.int 0, .float ⟨0x3FF0000000000000⟩,
      .float ⟨0x3FE0000000000000⟩]), ("low", .int (-9223372036854775808))]
    let high : Value := .list 4 [.float ⟨0x43E0000000000000⟩]
    let below : Value := .list 5 [.int 9223372036854775807]
    let nan : Value := .list 6 [.float ⟨0x7FF8000000000000⟩]
    a.NaNFree ∧ b.NaNFree ∧ (a.canonical == b.canonical) = true ∧ (a == b) = false ∧
      a.equals b = true ∧ (high.canonical == below.canonical) = false ∧
      high.equals below = false ∧ (high == high) = true ∧ high.NaNFree ∧
      high.equals high = true ∧ (nan == nan) = true ∧ nan.equals nan = false ∧
      (Value.float ⟨0x8000000000000000⟩).canonical = .int 0 ∧
      Binary64.value ⟨0x8000000000000000⟩ = (0 : Int64).toInt := by
  intro a b high below nan
  obtain ⟨equals_iff, equals_of_identical, canonical_iff⟩ := equals_iff_canonical
  have a_free : a.NaNFree := by decide +kernel
  have b_free : b.NaNFree := by decide +kernel
  have forms_identical : (a.canonical == b.canonical) = true := by decide +kernel
  have forms_differ : (high.canonical == below.canonical) = false := by decide +kernel
  have high_free : high.NaNFree := by decide +kernel
  have nan_not_free : ¬ nan.NaNFree := by decide +kernel
  have zero_form : (Value.float ⟨0x8000000000000000⟩).canonical = .int 0 :=
    canonical_float_of_isZero (by decide)
  have high_not_equal : high.equals below = false := by
    refine Bool.eq_false_iff.2 fun h => ?_
    have identical := ((equals_iff high below).1 h).2.2
    rw [forms_differ] at identical
    cases identical
  have nan_not_equal : nan.equals nan = false :=
    Bool.eq_false_iff.2 fun h => nan_not_free ((equals_iff nan nan).1 h).1
  exact ⟨a_free, b_free, forms_identical, by decide +kernel,
    (equals_iff a b).2 ⟨a_free, b_free, forms_identical⟩, forms_differ, high_not_equal, rfl,
    high_free, equals_of_identical high high rfl high_free, by decide +kernel, nan_not_equal,
    zero_form, ((canonical_iff _ 0).1 zero_form).2⟩

end Value

end ShapeMatch
