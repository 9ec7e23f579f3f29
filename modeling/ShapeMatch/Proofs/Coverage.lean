import Mathlib.Data.List.TakeWhile
import ShapeMatch.Proofs.CaseSelection

/-!
# Coverage of a chain

Every case that is added marks the position of its tag, and nothing else changes the marks. So in
every chain that can be reached the marks are those of the tags registered so far, and a chain that
claims to be exhaustive fails with the other tags. When all tags are covered it fails only if every
case with the value's tag has refused the value.
-/

namespace ShapeMatch

namespace Union

variable {β : Type} (u : Union)

theorem set_map {tag : String} {index : Nat} (h : u.position? tag = some index) (f : String → β)
    (x : β) : (u.tags.map f).set index x = u.tags.map fun t => if t = tag then x else f t := by
  obtain ⟨hi, rfl⟩ := getElem_of_position? h
  apply List.ext_getElem
  · simp
  · intro i _ hj
    have hj : i < u.tags.length := by simpa using hj
    have same_iff : index = i ↔ u.tags[i] = u.tags[index] :=
      eq_comm.trans (List.getElem_inj u.distinct).symm
    simp only [List.getElem_set, List.getElem_map, same_iff]

theorem tagsMarked_map (mark : Bool) (f : String → Bool) :
    u.tagsMarked mark (u.tags.map f) = u.tags.filter (f · == mark) := by
  unfold tagsMarked
  induction u.tags with
  | nil => rfl
  | cons tag rest ih =>
    rw [List.map_cons, List.zip_cons_cons, List.filter_cons, List.filter_cons]
    split
    · rw [List.map_cons, ih]
    · exact ih

end Union

namespace CaseChain

open Run

variable {α : Type} {routines : Routines} {config : Config} {chain next : CaseChain α}

def registered (cases : List (Case α)) : List String := cases.map (·.tag)

structure Registers (union : Union) (v : Value) (chain : CaseChain α) (tags : List String) :
    Prop where
  union_eq : chain.union = union
  value_eq : chain.value = v
  covered_eq : chain.covered = union.tags.map fun tag => decide (tag ∈ tags)

theorem attempt_changes_state {c : Case α}
    (h : (chain.attempt routines config c).outcome = .ok next) :
    ∃ state, next = { chain with state := state } := by
  cases hstate : chain.state with
  | resolved result =>
    rw [attempt_of_resolved routines config chain c hstate] at h
    cases h
    exact ⟨_, rfl⟩
  | searching =>
    rw [attempt_of_searching routines config chain c hstate] at h
    split at h
    · obtain ⟨accepted, -, h⟩ := outcome_bind_eq_ok_iff.1 h
      split at h
      · obtain ⟨result, -, h⟩ := outcome_bind_eq_ok_iff.1 h
        cases h
        exact ⟨_, rfl⟩
      · cases h
        exact ⟨_, rfl⟩
    · cases h
      exact ⟨_, rfl⟩

theorem add_covers {c : Case α} (h : (chain.add routines config c).outcome = .ok next) :
    ∃ index state, chain.union.position? c.tag = some index ∧
      next = { chain.cover index with state := state } := by
  obtain ⟨index, hindex, h⟩ := outcome_bind_eq_ok_iff.1 h
  obtain ⟨state, hstate⟩ := attempt_changes_state h
  exact ⟨index, state, (chain.union.require_eq_ok_iff _ _).1 hindex, hstate⟩

theorem Registers.add {union : Union} {v : Value} {tags : List String} {c : Case α}
    (h : Registers union v chain tags)
    (hadd : (chain.add routines config c).outcome = .ok next) :
    Registers union v next (tags ++ [c.tag]) := by
  obtain ⟨rfl, rfl, covered_eq⟩ := h
  obtain ⟨index, state, hindex, rfl⟩ := add_covers hadd
  refine ⟨rfl, rfl, ?_⟩
  change chain.covered.set index true = _
  rw [covered_eq, Union.set_map _ hindex]
  apply List.map_congr_left
  intro tag _
  by_cases same : tag = c.tag
  · simp [same]
  · simp [same]

theorem Registers.addAll {union : Union} {v : Value} {tags : List String} {cases : List (Case α)}
    (h : Registers union v chain tags)
    (hadd : (chain.addAll routines config cases).outcome = .ok next) :
    Registers union v next (tags ++ registered cases) := by
  induction cases generalizing chain tags with
  | nil =>
    cases hadd
    simpa [registered] using h
  | cons c rest ih =>
    rw [addAll_cons] at hadd
    obtain ⟨middle, hmiddle, hrest⟩ := outcome_bind_eq_ok_iff.1 hadd
    simpa [registered] using ih (h.add hmiddle) hrest

theorem registers_start (union : Union) (v : Value) :
    Registers union v (start union v : CaseChain α) [] where
  union_eq := rfl
  value_eq := rfl
  covered_eq := by simp [start, List.map_const']

section Reached

variable {union : Union} {v : Value} {cases : List (Case α)}
  (reached : ((start union v).addAll routines config cases).outcome = .ok chain)

include reached

theorem registers_of_reached : Registers union v chain (registered cases) := by
  simpa using (registers_start union v).addAll reached

theorem ending_of_reached : ending routines config union v cases = .ok chain.state := by
  rw [← outcome_addAll_start, reached]
  rfl

end Reached

theorem outcome_addAll_eq (routines : Routines) (config : Config) (union : Union) (v : Value)
    (cases : List (Case α)) :
    ((start union v).addAll routines config cases).outcome =
      (ending routines config union v cases).map fun state =>
        ⟨union, v, state, union.tags.map fun tag => decide (tag ∈ registered cases)⟩ := by
  rw [← outcome_addAll_start]
  cases hrun : ((start union v).addAll routines config cases).outcome with
  | error e => rfl
  | ok chain =>
    obtain ⟨rfl, rfl, covered_eq⟩ := registers_of_reached hrun
    rw [← covered_eq]
    rfl

section Registers

variable {union : Union} {v : Value} {tags : List String} (h : Registers union v chain tags)

include h

theorem Registers.coveredTags_eq :
    chain.coveredTags = union.tags.filter fun tag => decide (tag ∈ tags) := by
  rw [coveredTags, h.union_eq, h.covered_eq, Union.tagsMarked_map]
  simp

theorem Registers.missingTags_eq :
    chain.missingTags = union.tags.filter fun tag => decide (tag ∉ tags) := by
  rw [missingTags, h.union_eq, h.covered_eq, Union.tagsMarked_map]
  simp

theorem Registers.missingTags_eq_nil_iff : chain.missingTags = [] ↔ union.tags ⊆ tags := by
  rw [h.missingTags_eq, List.filter_eq_nil_iff]
  simp [List.subset_def]

theorem Registers.tag?_eq : chain.tag? = v.tag? union.discriminant := by
  rw [tag?, h.union_eq, h.value_eq]

end Registers

section Ending

variable {union : Union} {v : Value} {cases : List (Case α)}

theorem candidates_of_declared (declared : ∀ c ∈ cases, union.contains c.tag = true) :
    candidates union v cases = cases.filter fun c => v.tag? union.discriminant = some c.tag := by
  rw [candidates, List.takeWhile_eq_self_iff.2 declared]

theorem checked_eq_ok_iff {state state' : CaseState α} :
    checked union cases state = .ok state' ↔
      (∀ c ∈ cases, union.contains c.tag = true) ∧ state = state' := by
  unfold checked
  cases h : cases.find? fun c => !union.contains c.tag with
  | none =>
    have declared : ∀ c ∈ cases, union.contains c.tag = true := by simpa using h
    simpa using fun _ => declared
  | some c =>
    have undeclared : union.contains c.tag = false := by simpa using List.find?_some h
    simp only [reduceCtorEq, false_iff, not_and]
    intro declared
    rw [declared c (List.mem_of_find?_eq_some h)] at undeclared
    cases undeclared

theorem checked_of_all_declared (declared : ∀ c ∈ cases, union.contains c.tag = true)
    (state : CaseState α) : checked union cases state = .ok state :=
  checked_eq_ok_iff.2 ⟨declared, rfl⟩

theorem deciding?_of_searching (h : ending routines config union v cases = .ok .searching) :
    (∀ c ∈ cases, union.contains c.tag = true) ∧
      deciding? routines config union v cases = none := by
  unfold ending at h
  cases hdeciding : deciding? routines config union v cases with
  | none =>
    rw [hdeciding] at h
    exact ⟨(checked_eq_ok_iff.1 h).1, rfl⟩
  | some c =>
    rw [hdeciding] at h
    dsimp only at h
    split at h
    · cases h
    · cases (checked_eq_ok_iff.1 h).2

theorem refused_of_searching (h : ending routines config union v cases = .ok .searching) :
    (∀ c ∈ cases, v.tag? union.discriminant = some c.tag →
        (guard routines config v c).outcome = .ok false) ∧
      trace routines config union v cases =
        (cases.filter fun c => v.tag? union.discriminant = some c.tag).flatMap
          fun c => (guard routines config v c).calls := by
  obtain ⟨declared, undecided⟩ := deciding?_of_searching h
  have candidates_eq := candidates_of_declared (v := v) declared
  have refuses : ∀ c ∈ candidates union v cases, (guard routines config v c).refuses = true := by
    simpa using List.find?_eq_none.1 undecided
  constructor
  · intro c hc own_tag
    have candidate : c ∈ candidates union v cases := by
      rw [candidates_eq]
      exact List.mem_filter.2 ⟨hc, decide_eq_true own_tag⟩
    exact refuses_iff.1 (refuses c candidate)
  · rw [trace, guarded, handled?, undecided, List.takeWhile_eq_self_iff.2 refuses, candidates_eq]
    simp

end Ending

section Exhaustive

theorem searching_of_no_result (h : chain.result? = none) : chain.state = .searching := by
  rw [CaseChain.result?] at h
  cases hstate : chain.state with
  | searching => rfl
  | resolved result => rw [hstate] at h; cases h

theorem exhaustive_of_missing (h : chain.missingTags ≠ []) :
    chain.exhaustive = .error (Cause.incompleteCases chain.missingTags).error := by
  rw [exhaustive, if_pos h]

theorem exhaustive_of_result {result : α} (h : chain.missingTags = [])
    (hresult : chain.result? = some result) : chain.exhaustive = .ok result := by
  rw [exhaustive, if_neg (not_not_intro h)]
  cases hstate : chain.state with
  | searching => rw [CaseChain.result?, hstate] at hresult; cases hresult
  | resolved other => rw [CaseChain.result?, hstate] at hresult; cases hresult; rfl

theorem exhaustive_of_no_result (h : chain.missingTags = []) (hresult : chain.result? = none) :
    chain.exhaustive = .error (Cause.unresolvedExhaustive chain.tag?).error := by
  rw [exhaustive, if_neg (not_not_intro h), searching_of_no_result hresult]

theorem exhaustive_eq_ok_iff (h : chain.missingTags = []) (result : α) :
    chain.exhaustive = .ok result ↔ chain.result? = some result := by
  cases hresult : chain.result? with
  | none => simp [exhaustive_of_no_result h hresult]
  | some other => simp [exhaustive_of_result h hresult]

end Exhaustive

theorem coverage_of_reached (routines : Routines) (config : Config) (union : Union) (v : Value)
    (cases : List (Case α)) (chain : CaseChain α)
    (reached : ((start union v).addAll routines config cases).outcome = .ok chain) :
    chain.covered.length = union.tags.length ∧
      (∀ i (hi : i < union.tags.length),
        chain.covered[i]? = some (decide (union.tags[i] ∈ registered cases))) ∧
      (∀ tag index, union.position? tag = some index → index < chain.covered.length) ∧
      chain.coveredTags = union.tags.filter (fun tag => decide (tag ∈ registered cases)) ∧
      chain.missingTags = union.tags.filter (fun tag => decide (tag ∉ registered cases)) ∧
      (chain.coveredTags ++ chain.missingTags).Perm union.tags ∧
      (chain.missingTags ≠ [] →
        chain.exhaustive = .error (Cause.incompleteCases chain.missingTags).error) ∧
      (chain.missingTags = [] →
        (∀ result, chain.exhaustive = .ok result ↔ chain.result? = some result) ∧
        (chain.result? = none →
          chain.exhaustive =
              .error (Cause.unresolvedExhaustive (v.tag? union.discriminant)).error ∧
            ∀ tag ∈ union.tags, v.tag? union.discriminant = some tag →
              (∃ c ∈ cases, c.tag = tag) ∧
              (∀ c ∈ cases, c.tag = tag → (guard routines config v c).outcome = .ok false) ∧
              ((start union v).addAll routines config cases).calls =
                (cases.filter (·.tag = tag)).flatMap fun c =>
                  (guard routines config v c).calls)) := by
  have registers := registers_of_reached reached
  have length_eq : chain.covered.length = union.tags.length := by
    rw [registers.covered_eq, List.length_map]
  refine ⟨length_eq, ?marks, ?bounds, registers.coveredTags_eq, registers.missingTags_eq,
    ?partition, exhaustive_of_missing, ?covered⟩
  case marks =>
    intro i hi
    rw [registers.covered_eq, List.getElem?_map, List.getElem?_eq_getElem hi]
    rfl
  case bounds =>
    intro tag index hindex
    rw [length_eq]
    exact (Union.getElem_of_position? hindex).1
  case partition =>
    rw [registers.coveredTags_eq, registers.missingTags_eq]
    simpa using List.filter_append_perm (fun tag => decide (tag ∈ registered cases)) union.tags
  case covered =>
    intro covered
    refine ⟨exhaustive_eq_ok_iff covered, fun no_result => ⟨?_, ?_⟩⟩
    · rw [exhaustive_of_no_result covered no_result, registers.tag?_eq]
    · intro tag htag own_tag
      have ending_eq := ending_of_reached reached
      rw [searching_of_no_result no_result] at ending_eq
      obtain ⟨refused, trace_eq⟩ := refused_of_searching ending_eq
      have tag_registered := registers.missingTags_eq_nil_iff.1 covered htag
      refine ⟨List.mem_map.1 tag_registered, ?_, ?_⟩
      · rintro c hc rfl
        exact refused c hc own_tag
      · rw [calls_addAll_start, trace_eq, own_tag]
        simp only [Option.some.injEq, eq_comm]

theorem coverage_of_refusing_guard :
    let routines : Routines := fun _ _ => pure (.ok .null)
    let union : Union := ⟨"t", ["a", "b"], by decide, by decide, by decide⟩
    let v : Value := .tagged 0 1 "t" "b" [("x", .int 1)]
    let watch : Matcher := ⟨"watch", fun v => ⟨.ok true, [⟨"watch", v⟩]⟩⟩
    let refusing : Pattern := .fields [("t", .predicate watch), ("x", .literal (.int 2))]
    let cases : List (Case Nat) :=
      [⟨"b", refusing, fun _ => pure 1⟩, ⟨"a", .any, fun _ => pure 2⟩]
    let chain : CaseChain Nat := ⟨union, v, .searching, [true, true]⟩
    ((start union v).addAll routines .standard cases).outcome = .ok chain ∧
      chain.exhaustive = .error (Cause.unresolvedExhaustive (some "b")).error ∧
      ((start union v).addAll routines .standard cases).calls = [⟨"watch", .str 1 "b"⟩] := by
  intro routines union v watch refusing cases chain
  have reached : ((start union v).addAll routines .standard cases).outcome = .ok chain := rfl
  obtain ⟨-, -, -, -, -, -, -, covered⟩ :=
    coverage_of_reached routines .standard union v cases chain reached
  obtain ⟨-, unresolved⟩ := covered rfl
  obtain ⟨exhaustive_eq, every_case⟩ := unresolved rfl
  obtain ⟨-, -, calls_eq⟩ := every_case "b" (by decide) rfl
  exact ⟨reached, exhaustive_eq, calls_eq.trans rfl⟩

end CaseChain

end ShapeMatch
