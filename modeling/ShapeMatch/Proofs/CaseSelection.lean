import ShapeMatch.CaseChain
import ShapeMatch.Proofs.Runs
import ShapeMatch.Proofs.Unions

/-!
# Which case a chain takes

Only the candidates count: the cases with the value's own tag that come before any undeclared tag.
The first candidate whose guard does not refuse the value decides. Either the guard fails, or the
handler runs and the later cases only have their tags checked.
-/

namespace ShapeMatch.CaseChain

open Run

variable {α : Type} (routines : Routines) (config : Config)

section Selection

variable (union : Union) (v : Value) (cases : List (Case α))

def guard (c : Case α) : Run Bool := c.pattern.accepts routines config v

def candidates : List (Case α) :=
  (cases.takeWhile fun c => union.contains c.tag).filter fun c =>
    v.tag? union.discriminant = some c.tag

def deciding? : Option (Case α) :=
  (candidates union v cases).find? fun c => !(guard routines config v c).refuses

/-- The candidates whose guards are evaluated: all up to and including the one that decides. -/
def guarded : List (Case α) :=
  ((candidates union v cases).takeWhile fun c => (guard routines config v c).refuses) ++
    (deciding? routines config union v cases).toList

def handled? : Option (Case α) :=
  (deciding? routines config union v cases).filter fun c => (guard routines config v c).holds

def checked (state : CaseState α) : Except MatchError (CaseState α) :=
  match cases.find? fun c => !union.contains c.tag with
  | some c => .error (Cause.undeclaredTag c.tag).error
  | none => .ok state

def ending : Except MatchError (CaseState α) :=
  match deciding? routines config union v cases with
  | none => checked union cases .searching
  | some c =>
    match (guard routines config v c).outcome with
    | .error e => .error e
    | .ok _ => checked union cases (.resolved (c.handler v).value)

def trace : List Event :=
  (guarded routines config union v cases).flatMap (fun c => (guard routines config v c).calls) ++
    (handled? routines config union v cases).toList.flatMap fun c => (c.handler v).events

def selection : Run (CaseState α) :=
  of (ending routines config union v cases) (trace routines config union v cases)

variable {union v cases} {routines config} {c : Case α}

theorem mem_of_mem_candidates (h : c ∈ candidates union v cases) : c ∈ cases :=
  (List.takeWhile_sublist _).subset (List.mem_filter.1 h).1

theorem mem_of_deciding? (h : deciding? routines config union v cases = some c) : c ∈ cases :=
  mem_of_mem_candidates (List.mem_of_find?_eq_some h)

end Selection

section Cons

variable {union : Union} {v : Value} {c : Case α} (rest : List (Case α))

theorem candidates_of_undeclared (h : union.contains c.tag = false) :
    candidates union v (c :: rest) = [] := by
  simp [candidates, h]

theorem candidates_of_other_tag (h : union.contains c.tag = true)
    (ht : v.tag? union.discriminant ≠ some c.tag) :
    candidates union v (c :: rest) = candidates union v rest := by
  simp [candidates, h, ht]

theorem candidates_of_own_tag (h : union.contains c.tag = true)
    (ht : v.tag? union.discriminant = some c.tag) :
    candidates union v (c :: rest) = c :: candidates union v rest := by
  simp [candidates, h, ht]

theorem checked_of_undeclared (h : union.contains c.tag = false) (state : CaseState α) :
    checked union (c :: rest) state = .error (Cause.undeclaredTag c.tag).error := by
  simp [checked, h]

theorem checked_of_declared (h : union.contains c.tag = true) (state : CaseState α) :
    checked union (c :: rest) state = checked union rest state := by
  simp [checked, h]

theorem selection_of_undeclared (h : union.contains c.tag = false) :
    selection routines config union v (c :: rest) = fail (.undeclaredTag c.tag) := by
  unfold selection ending trace guarded handled? deciding?
  rw [candidates_of_undeclared rest h, List.find?_nil]
  exact ext_outcome (checked_of_undeclared rest h _) rfl

theorem selection_of_other_tag (h : union.contains c.tag = true)
    (ht : v.tag? union.discriminant ≠ some c.tag) :
    selection routines config union v (c :: rest) = selection routines config union v rest := by
  unfold selection ending trace guarded handled? deciding?
  rw [candidates_of_other_tag rest h ht]
  simp only [checked_of_declared rest h]

theorem selection_of_own_tag (h : union.contains c.tag = true)
    (ht : v.tag? union.discriminant = some c.tag) :
    selection routines config union v (c :: rest) =
      guard routines config v c >>= fun accepted =>
        if accepted then
          ExceptT.lift (c.handler v) >>= fun result =>
            of (checked union rest (.resolved result)) []
        else selection routines config union v rest := by
  unfold selection ending trace guarded handled? deciding?
  rw [candidates_of_own_tag rest h ht]
  cases hg : (guard routines config v c).outcome with
  | error e =>
    have decides : (guard routines config v c).refuses = false := by rw [refuses, hg]
    have not_holds : (guard routines config v c).holds = false := by rw [holds, hg]
    apply ext_outcome
    · rw [outcome_bind_of_error hg]
      simp [decides, hg]
    · rw [calls_bind_of_error hg]
      simp [decides, not_holds, Option.filter_some]
  | ok accepted =>
    cases accepted with
    | false =>
      have refuses : (guard routines config v c).refuses = true := refuses_iff.2 hg
      apply ext_outcome
      · rw [outcome_bind_of_ok hg]
        simp [refuses, checked_of_declared rest h]
      · rw [calls_bind_of_ok hg]
        simp [refuses]
    | true =>
      have decides : (guard routines config v c).refuses = false := by rw [refuses, hg]; rfl
      have does_hold : (guard routines config v c).holds = true := holds_iff.2 hg
      apply ext_outcome
      · rw [outcome_bind_of_ok hg, if_pos rfl, outcome_bind_of_ok (outcome_lift _)]
        simp [decides, hg, checked_of_declared rest h]
      · rw [calls_bind_of_ok hg, if_pos rfl, calls_bind_of_ok (outcome_lift _), calls_lift]
        simp [decides, does_hold, Option.filter_some]

end Cons

section Step

variable (chain : CaseChain α) (c : Case α)

theorem add_of_undeclared (h : chain.union.contains c.tag = false) :
    chain.add routines config c = fail (.undeclaredTag c.tag) := by
  have not_declared : c.tag ∉ chain.union.tags :=
    mt (chain.union.contains_iff_mem c.tag).2 (Bool.eq_false_iff.1 h)
  rw [add, Union.require_of_undeclared not_declared]
  rfl

theorem add_of_declared (h : chain.union.contains c.tag = true) :
    ∃ index, chain.add routines config c = (chain.cover index).attempt routines config c := by
  obtain ⟨index, -, required⟩ :=
    Union.exists_position? ((chain.union.contains_iff_mem c.tag).1 h)
  refine ⟨index, ?_⟩
  rw [add, required]
  rfl

theorem attempt_of_resolved {result : α} (h : chain.state = .resolved result) :
    chain.attempt routines config c = pure chain := by
  rw [attempt, h]

theorem attempt_of_searching (h : chain.state = .searching) :
    chain.attempt routines config c =
      if chain.tag? = some c.tag then
        guard routines config chain.value c >>= fun accepted =>
          if accepted then
            ExceptT.lift (c.handler chain.value) >>= fun result =>
              pure { chain with state := .resolved result }
          else pure chain
      else pure chain := by
  rw [attempt, h]
  rfl

theorem addAll_cons (rest : List (Case α)) :
    chain.addAll routines config (c :: rest) =
      chain.add routines config c >>= fun next => next.addAll routines config rest := by
  rw [addAll, List.foldlM_cons]
  rfl

end Step

theorem state_addAll_of_resolved {chain : CaseChain α} {result : α}
    (h : chain.state = .resolved result) (cases : List (Case α)) :
    (·.state) <$> chain.addAll routines config cases =
      of (checked chain.union cases (.resolved result)) [] := by
  induction cases generalizing chain with
  | nil => exact congrArg (fun state => of (.ok state) []) h
  | cons c rest ih =>
    rw [addAll_cons, map_bind]
    cases hc : chain.union.contains c.tag with
    | false =>
      rw [add_of_undeclared routines config chain c hc, checked_of_undeclared rest hc]
      rfl
    | true =>
      obtain ⟨index, hadd⟩ := add_of_declared routines config chain c hc
      rw [hadd, attempt_of_resolved routines config (chain.cover index) c h, pure_bind,
        checked_of_declared rest hc]
      exact ih h

theorem state_addAll_of_searching {chain : CaseChain α} (h : chain.state = .searching)
    (cases : List (Case α)) :
    (·.state) <$> chain.addAll routines config cases =
      selection routines config chain.union chain.value cases := by
  -- A case that is passed over changes the coverage, so the chain is general in the induction.
  induction cases generalizing chain with
  | nil => exact congrArg (fun state => of (.ok state) []) h
  | cons c rest ih =>
    rw [addAll_cons, map_bind]
    cases hc : chain.union.contains c.tag with
    | false =>
      rw [add_of_undeclared routines config chain c hc, selection_of_undeclared _ _ rest hc]
      rfl
    | true =>
      obtain ⟨index, hadd⟩ := add_of_declared routines config chain c hc
      rw [hadd, attempt_of_searching routines config (chain.cover index) c h]
      by_cases ht : (chain.cover index).tag? = some c.tag
      · rw [if_pos ht, selection_of_own_tag (v := chain.value) _ _ rest hc ht, bind_assoc]
        apply bind_congr
        intro accepted
        cases accepted with
        | false => exact ih h
        | true =>
          rw [if_pos rfl, if_pos rfl, bind_assoc]
          apply bind_congr
          intro result
          rw [pure_bind]
          exact state_addAll_of_resolved routines config rfl rest
      · rw [if_neg ht, pure_bind, selection_of_other_tag (v := chain.value) _ _ rest hc ht]
        exact ih h

theorem outcome_addAll_start (union : Union) (v : Value) (cases : List (Case α)) :
    ((start union v).addAll routines config cases).outcome.map (·.state) =
      ending routines config union v cases := by
  have starts_searching : (start union v : CaseChain α).state = .searching := rfl
  rw [← outcome_map, state_addAll_of_searching routines config starts_searching cases]
  rfl

theorem calls_addAll_start (union : Union) (v : Value) (cases : List (Case α)) :
    ((start union v).addAll routines config cases).calls =
      trace routines config union v cases := by
  have starts_searching : (start union v : CaseChain α).state = .searching := rfl
  rw [← calls_map (·.state), state_addAll_of_searching routines config starts_searching cases]
  rfl

theorem addAll_start (union : Union) (v : Value) (cases : List (Case α)) :
    ((start union v).addAll routines config cases).outcome.map (·.state) =
        ending routines config union v cases ∧
      ((start union v).addAll routines config cases).calls =
        (guarded routines config union v cases).flatMap
            (fun c => (guard routines config v c).calls) ++
          (handled? routines config union v cases).toList.flatMap
            fun c => (c.handler v).events :=
  ⟨outcome_addAll_start routines config union v cases,
    calls_addAll_start routines config union v cases⟩

end ShapeMatch.CaseChain
