import Mathlib.Data.List.Find
import ShapeMatch.Proofs.CaseSelection

/-!
# The case taken

Handlers have no part in which case a chain takes. So a chain whose handlers return their own cases
takes the same case as the chain itself, and its result is that case.
-/

namespace ShapeMatch

open Run

variable {α : Type}

def Case.marked (c : Case α) : Case (Case α) := ⟨c.tag, c.pattern, fun _ => pure c⟩

namespace CaseChain

variable (routines : Routines) (config : Config) (union : Union) (v : Value)

def taken (cases : List (Case α)) : Except MatchError (Option (Case α)) :=
  ((start union v).addAll routines config (cases.map Case.marked)).outcome.map (·.result?)

theorem result?_addAll_start (cases : List (Case α)) :
    ((start union v).addAll routines config cases).outcome.map (·.result?) =
      (ending routines config union v cases).map CaseState.result? := by
  rw [← outcome_addAll_start]
  cases ((start union v).addAll routines config cases).outcome <;> rfl

theorem deciding?_marked (cases : List (Case α)) :
    deciding? routines config union v (cases.map Case.marked) =
      (deciding? routines config union v cases).map Case.marked := by
  simp only [deciding?, candidates, List.takeWhile_map, List.filter_map, List.find?_map]
  rfl

theorem checked_marked (cases : List (Case α)) {state : CaseState (Case α)} {state' : CaseState α}
    {result : Case α → α} (h : state'.result? = state.result?.map result) :
    (checked union cases state').map CaseState.result? =
      ((checked union (cases.map Case.marked) state).map CaseState.result?).map (·.map result) := by
  have find_eq : (cases.map Case.marked).find? (fun c => !union.contains c.tag) =
      (cases.find? fun c => !union.contains c.tag).map Case.marked := List.find?_map
  simp only [checked, find_eq]
  cases cases.find? fun c => !union.contains c.tag with
  | none => exact congrArg _ h
  | some c => rfl

theorem result?_addAll_eq_taken (cases : List (Case α)) :
    ((start union v).addAll routines config cases).outcome.map (·.result?) =
      (taken routines config union v cases).map (·.map fun c => (c.handler v).value) := by
  rw [taken, result?_addAll_start, result?_addAll_start, ending, ending, deciding?_marked]
  cases deciding? routines config union v cases with
  | none => exact checked_marked union cases rfl
  | some c =>
    have guard_eq : guard routines config v c.marked = guard routines config v c := rfl
    simp only [Option.map_some, guard_eq]
    cases (guard routines config v c).outcome with
    | error e => rfl
    | ok accepted => exact checked_marked union cases rfl

section Congruence

variable {routines config union v} {w : Value} {cases : List (Case α)}

theorem ending_congr (tags_eq : v.tag? union.discriminant = w.tag? union.discriminant)
    (guards_eq : ∀ c ∈ cases,
      (guard routines config v c).outcome = (guard routines config w c).outcome)
    (results_eq : ∀ c ∈ cases, (c.handler v).value = (c.handler w).value) :
    ending routines config union v cases = ending routines config union w cases := by
  have candidates_eq : candidates union v cases = candidates union w cases := by
    simp only [candidates, tags_eq]
  have deciding_eq : deciding? routines config union v cases =
      deciding? routines config union w cases := by
    rw [deciding?, deciding?, candidates_eq]
    apply List.find?_congr
    intro c hc
    simp only [refuses, guards_eq c (mem_of_mem_candidates hc)]
  rw [ending, ending, deciding_eq]
  cases hdeciding : deciding? routines config union w cases with
  | none => rfl
  | some c =>
    have hc := mem_of_deciding? hdeciding
    simp only [guards_eq c hc, results_eq c hc]

theorem taken_congr (tags_eq : v.tag? union.discriminant = w.tag? union.discriminant)
    (guards_eq : ∀ c ∈ cases,
      (guard routines config v c).outcome = (guard routines config w c).outcome) :
    taken routines config union v cases = taken routines config union w cases := by
  rw [taken, taken, result?_addAll_start, result?_addAll_start]
  refine congrArg _ (ending_congr tags_eq ?_ ?_)
  · exact List.forall_mem_map.2 guards_eq
  · exact List.forall_mem_map.2 fun _ _ => rfl

end Congruence

end CaseChain

end ShapeMatch
