import ShapeMatch.Proofs.Acceptance

/-!
# Matchers of elements

A list is accepted by an element matcher if it is accepted by the position pattern that has the
matcher at every position of the list. The two are the same run: both test the elements from the
left, up to the first that is not accepted, and end as that test does.
-/

namespace ShapeMatch.Matcher

open Run Pattern

variable (m : Matcher)

theorem testAll_eq_inOrder (items : List Value) : m.testAll items = inOrder (items.map m.test) := by
  induction items with
  | nil => rfl
  | cons v rest ih => rw [testAll, ih, List.map_cons, inOrder_cons]

theorem test_arrayOf_list (address : Address) (items : List Value) :
    (arrayOf m).test (.list address items) = inOrder (items.map m.test) :=
  testAll_eq_inOrder m items

theorem test_arrayOf_of_no_list {v : Value} (h : ∀ address items, v ≠ .list address items) :
    (arrayOf m).test v = pure false := by
  cases v with
  | list address items => exact absurd rfl (h address items)
  | _ => rfl

def everywhere (count : Nat) : Pattern := .sequence (List.replicate count (.predicate m))

theorem map_acceptsPart_everywhere (routines : Routines) {limit : Nat} (address : Address)
    {items : List Value} (h : 1 ≤ limit ∨ items = []) :
    (m.everywhere items.length).parts.map (acceptsPart routines limit 0 (.list address items)) =
      items.map m.test := by
  apply List.ext_getElem
  · simp [everywhere, parts]
  · intro index _ inside
    have position : index < items.length := by simpa using inside
    have not_empty : items ≠ [] := List.ne_nil_of_length_pos (Nat.zero_lt_of_lt position)
    have within : ¬ limit < 0 + 1 := by have := h.resolve_right not_empty; omega
    simp [everywhere, parts, acceptsPart, Value.part?, Value.at?, position, onPart,
      acceptsFrom_predicate, within]

theorem accepts_everywhere (routines : Routines) {limit : Nat} (address : Address)
    {items : List Value} (h : 1 ≤ limit ∨ items = []) :
    (m.everywhere items.length).accepts routines ⟨limit⟩ (.list address items) =
      inOrder (items.map m.test) := by
  have aggregate : (Value.list address items).isAggregate = true := rfl
  rw [accepts, acceptsFrom_node _ _ _ _ rfl, if_neg (Nat.not_lt_zero _), ofAggregate,
    if_pos aggregate, map_acceptsPart_everywhere m routines address h]

theorem test_arrayOf (routines : Routines) :
    (∀ address items limit, 1 ≤ limit ∨ items = [] →
        (arrayOf m).test (.list address items) =
          (m.everywhere items.length).accepts routines ⟨limit⟩ (.list address items)) ∧
      (∀ address items, (∀ v ∈ items, (m.test v).outcome = .ok true) →
        (arrayOf m).test (.list address items) =
          Run.of (.ok true) (items.flatMap fun v => (m.test v).calls)) ∧
      (∀ address before item after, (∀ v ∈ before, (m.test v).outcome = .ok true) →
        (m.test item).outcome ≠ .ok true →
        (arrayOf m).test (.list address (before ++ item :: after)) =
          Run.of (m.test item).outcome ((before ++ [item]).flatMap fun v => (m.test v).calls)) ∧
      ∀ v, (∀ address items, v ≠ .list address items) → (arrayOf m).test v = pure false := by
  refine ⟨fun address items limit h => ?_, fun address items accepted => ?_,
    fun address before item after accepted decides => ?_, fun v => test_arrayOf_of_no_list m⟩
  · exact (test_arrayOf_list m address items).trans (accepts_everywhere m routines address h).symm
  · have all_hold : ∀ run ∈ items.map m.test, run.holds = true :=
      List.forall_mem_map.2 fun v hv => holds_iff.2 (accepted v hv)
    rw [test_arrayOf_list, inOrder_of_holds all_hold, List.flatMap_map]
  · have before_hold : ∀ run ∈ before.map m.test, run.holds = true :=
      List.forall_mem_map.2 fun v hv => holds_iff.2 (accepted v hv)
    have not_holds : (m.test item).holds = false := Bool.eq_false_iff.2 (mt holds_iff.1 decides)
    rw [test_arrayOf_list, List.map_append, List.map_cons, inOrder_of_first before_hold not_holds,
      ← List.map_singleton, ← List.map_append, List.flatMap_map]

theorem test_arrayOf_nested :
    let routines : Routines := fun _ _ => pure (.ok .null)
    let seen (v : Value) : Event := ⟨"int", v⟩
    let watch : Matcher := ⟨"int", fun v => do
      ExceptT.lift (Traced.log (seen v))
      match v with
      | .int _ => pure true
      | _ => fail (.predicateFailure "int" "no integer")⟩
    let rows : Value := .list 0
      [.list 1 [.int 1, .int 2], .list 2 [.int 3, .null, .int 4], .list 3 [.int 5]]
    let run : Run Bool :=
      .of (.error (Cause.predicateFailure "int" "no integer").error)
        [seen (.int 1), seen (.int 2), seen (.int 3), seen .null]
    (arrayOf (arrayOf watch)).test rows = run ∧
      ((arrayOf watch).everywhere 3).accepts routines ⟨1⟩ rows = run ∧
      (arrayOf watch).test (.ofPairs 4 [("0", .int 1)]) = pure false := by
  intro routines seen watch rows run
  obtain ⟨-, rows_accepted, rows_decided, -⟩ := test_arrayOf watch routines
  obtain ⟨same_run, -, table_decided, -⟩ := test_arrayOf (arrayOf watch) routines
  have int_accepted (n : Int64) : (watch.test (.int n)).outcome = .ok true := rfl
  have first_row : (arrayOf watch).test (.list 1 [.int 1, .int 2]) =
      .of (.ok true) [seen (.int 1), seen (.int 2)] :=
    rows_accepted 1 [.int 1, .int 2] (by simp [int_accepted])
  have second_row : (arrayOf watch).test (.list 2 [.int 3, .null, .int 4]) =
      .of run.outcome [seen (.int 3), seen .null] :=
    rows_decided 2 [.int 3] .null [.int 4] (by simp [int_accepted]) (by rintro ⟨⟩)
  have table_run : (arrayOf (arrayOf watch)).test rows = run := by
    refine (table_decided 0 [.list 1 [.int 1, .int 2]] (.list 2 [.int 3, .null, .int 4])
      [.list 3 [.int 5]] (by simp [first_row]) (by simp [second_row, run])).trans ?_
    simp [first_row, second_row, run]
  exact ⟨table_run, (same_run 0 _ 1 (.inl (Nat.le_refl 1))).symm.trans table_run,
    (test_arrayOf watch routines).2.2.2 _ (by simp [Value.ofPairs])⟩

end ShapeMatch.Matcher
