import ShapeMatch.Proofs.Coverage

/-!
# The order of the cases

Which case a chain takes depends only on the cases with the value's tag and on their order, and
which tags it covers does not depend on any order. So a chain of declared cases runs the same when
they are reordered and those with the value's tag keep their order.
-/

namespace ShapeMatch.CaseChain

open Run

variable {α : Type} {routines : Routines} {config : Config} {union : Union} {v : Value}
  {cases others : List (Case α)}

/-- The cases are reordered, but not those with the value's tag among themselves. -/
structure Reordered (union : Union) (v : Value) (cases others : List (Case α)) : Prop where
  perm : cases.Perm others
  own_eq : (cases.filter fun c => v.tag? union.discriminant = some c.tag) =
    others.filter fun c => v.tag? union.discriminant = some c.tag

theorem Reordered.declared (h : Reordered union v cases others)
    (declared : ∀ c ∈ cases, union.contains c.tag = true) :
    ∀ c ∈ others, union.contains c.tag = true := fun c hc =>
  declared c (h.perm.mem_iff.2 hc)

theorem Reordered.candidates_eq (h : Reordered union v cases others)
    (declared : ∀ c ∈ cases, union.contains c.tag = true) :
    candidates union v cases = candidates union v others := by
  -- No undeclared tag cuts the lists short, so the candidates are all cases with the value's tag.
  rw [candidates_of_declared declared, candidates_of_declared (h.declared declared), h.own_eq]

theorem deciding?_congr (h : candidates union v cases = candidates union v others) :
    deciding? routines config union v cases = deciding? routines config union v others := by
  rw [deciding?, deciding?, h]

theorem guarded_congr (h : candidates union v cases = candidates union v others) :
    guarded routines config union v cases = guarded routines config union v others := by
  rw [guarded, guarded, h, deciding?_congr h]

theorem handled?_congr (h : candidates union v cases = candidates union v others) :
    handled? routines config union v cases = handled? routines config union v others := by
  rw [handled?, handled?, deciding?_congr h]

theorem trace_congr (h : candidates union v cases = candidates union v others) :
    trace routines config union v cases = trace routines config union v others := by
  rw [trace, trace, guarded_congr h, handled?_congr h]

theorem Reordered.ending_eq (h : Reordered union v cases others)
    (declared : ∀ c ∈ cases, union.contains c.tag = true) :
    ending routines config union v cases = ending routines config union v others := by
  rw [ending, ending, deciding?_congr (h.candidates_eq declared)]
  simp only [checked_of_all_declared declared, checked_of_all_declared (h.declared declared)]

theorem Reordered.registered_iff (h : Reordered union v cases others) (tag : String) :
    tag ∈ registered cases ↔ tag ∈ registered others :=
  (h.perm.map (·.tag)).mem_iff

theorem addAll_eq_of_reordered (routines : Routines) (config : Config)
    (declared : ∀ c ∈ cases, c.tag ∈ union.tags)
    (reordered : Reordered union v cases others) :
    (start union v).addAll routines config cases =
        (start union v).addAll routines config others ∧
      guarded routines config union v cases = guarded routines config union v others ∧
      handled? routines config union v cases = handled? routines config union v others := by
  have contained : ∀ c ∈ cases, union.contains c.tag = true := fun c hc =>
    (union.contains_iff_mem c.tag).2 (declared c hc)
  have candidates_eq := reordered.candidates_eq contained
  refine ⟨ext_outcome ?_ ?_, guarded_congr candidates_eq, handled?_congr candidates_eq⟩
  · rw [outcome_addAll_eq, outcome_addAll_eq, reordered.ending_eq contained]
    simp only [reordered.registered_iff]
  · rw [calls_addAll_start, calls_addAll_start, trace_congr candidates_eq]

theorem addAll_eq_of_reordered_around_refusal :
    let routines : Routines := fun _ _ => pure (.error "no")
    let union : Union := ⟨"t", ["a", "b", "c"], by decide, by decide, by decide⟩
    let v : Value := .tagged 0 1 "t" "b" [("x", .int 1)]
    let watch : Matcher := ⟨"watch", fun v => ⟨.ok true, [⟨"watch", v⟩]⟩⟩
    let refusing : Case Nat :=
      ⟨"b", .fields [("t", .predicate watch), ("x", .literal (.int 2))], fun _ => pure 1⟩
    let accepting : Case Nat := ⟨"b", .any, fun v => ⟨2, [⟨"taken", v⟩]⟩⟩
    let failing : Case Nat := ⟨"a", .literal (.function ⟨"f", "g"⟩), fun _ => pure 3⟩
    let cases : List (Case Nat) := [refusing, failing, accepting]
    let others : List (Case Nat) := [failing, refusing, accepting]
    (∀ c ∈ cases, c.tag ∈ union.tags) ∧ Reordered union v cases others ∧
      (start union v).addAll routines .standard cases =
        (start union v).addAll routines .standard others ∧
      ((start union v).addAll routines .standard cases).outcome =
        .ok ⟨union, v, .resolved 2, [true, true, false]⟩ ∧
      ((start union v).addAll routines .standard cases).calls =
        [⟨"watch", .str 1 "b"⟩, ⟨"taken", v⟩] := by
  intro routines union v watch refusing accepting failing cases others
  have declared : ∀ c ∈ cases, c.tag ∈ union.tags := by
    simp [cases, union, refusing, accepting, failing]
  have reordered : Reordered union v cases others := ⟨.swap _ _ _, rfl⟩
  exact ⟨declared, reordered,
    (addAll_eq_of_reordered routines .standard declared reordered).1, rfl, rfl⟩

end ShapeMatch.CaseChain
