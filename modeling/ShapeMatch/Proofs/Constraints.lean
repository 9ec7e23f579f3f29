import ShapeMatch.Proofs.Acceptance

/-!
# The constraints of a pattern

A pattern is a list of constraints on parts of the value, each at the end of a path from the root.
The constraints are tried in the order in which the pattern is written, a node before its parts.
The first one that does not hold decides, and nothing after it is tried. The calls made are those
of the constraints tried, each on its own part, one after the other.
-/

namespace ShapeMatch

open Run

def Value.follow? : List Step → Value → Option Value
  | [], v => some v
  | step :: path, v => (v.part? step).bind (follow? path)

theorem Value.follow?_concat (path : List Step) (step : Step) (root : Value) :
    root.follow? (path ++ [step]) = (root.follow? path).bind (·.part? step) := by
  induction path generalizing root with
  | nil => simp [follow?]
  | cons first path ih =>
    rw [List.cons_append, follow?, follow?, Option.bind_assoc]
    exact congrArg _ (funext ih)

inductive Test where
  | aggregate
  | matched (matcher : Matcher)
  | called (function : Callable)
  | never
  | equal (leaf : Value)

structure Constraint where
  path : List Step
  test : Test

namespace Test

def ofLiteral : Value → Test
  | .function f => called f
  | .null => never
  | leaf => equal leaf

def run (routines : Routines) (part : Value) : Test → Run Bool
  | aggregate => pure part.isAggregate
  | matched matcher => matcher.test part
  | called f =>
    let answer := routines f.routine [part]
    match answer.value with
    | .ok result => of (.ok result.isTruthy) answer.events
    | .error message => of (.error (Cause.predicateFailure f.shown message).error) answer.events
  | never => pure false
  | equal leaf => pure (leaf.equals part)

end Test

namespace Constraint

/-- A missing part is rejected before the length of its path is compared with the limit. -/
def run (routines : Routines) (limit : Nat) (root : Value) (c : Constraint) : Run Bool :=
  match root.follow? c.path with
  | none => pure false
  | some part =>
    if limit < c.path.length then fail (.depthLimitExceeded limit) else c.test.run routines part

def holds (routines : Routines) (limit : Nat) (root : Value) (c : Constraint) : Bool :=
  (c.run routines limit root).holds

def deciding? (routines : Routines) (limit : Nat) (root : Value) (cs : List Constraint) :
    Option Constraint :=
  cs.find? fun c => !c.holds routines limit root

def verdict (routines : Routines) (limit : Nat) (root : Value) (cs : List Constraint) :
    Except MatchError Bool :=
  match deciding? routines limit root cs with
  | some c => (c.run routines limit root).outcome
  | none => .ok true

/-- The constraints up to and including the one that decides. -/
def tried (routines : Routines) (limit : Nat) (root : Value) (cs : List Constraint) :
    List Constraint :=
  cs.takeWhile (holds routines limit root) ++ (deciding? routines limit root cs).toList

end Constraint

namespace Pattern

mutual

def constraintsAt (path : List Step) : Pattern → List Constraint
  | .literal data => [⟨path, .ofLiteral data⟩]
  | .predicate matcher => [⟨path, .matched matcher⟩]
  | .fields entries => ⟨path, .aggregate⟩ :: entriesConstraints path entries
  | .sequence items => ⟨path, .aggregate⟩ :: itemsConstraints path 0 items

def entriesConstraints (path : List Step) : List (String × Pattern) → List Constraint
  | [] => []
  | (name, p) :: rest => constraintsAt (path ++ [.field name]) p ++ entriesConstraints path rest

def itemsConstraints (path : List Step) : Nat → List Pattern → List Constraint
  | _, [] => []
  | index, p :: rest =>
    constraintsAt (path ++ [.position index]) p ++ itemsConstraints path (index + 1) rest

end

def constraints (p : Pattern) : List Constraint := p.constraintsAt []

theorem entriesConstraints_eq (path : List Step) (entries : List (String × Pattern)) :
    entriesConstraints path entries =
      entries.flatMap fun entry => constraintsAt (path ++ [.field entry.1]) entry.2 := by
  induction entries with
  | nil => rfl
  | cons entry rest ih => rw [entriesConstraints, ih, List.flatMap_cons]

theorem itemsConstraints_eq (path : List Step) (items : List Pattern) (index : Nat) :
    itemsConstraints path index items =
      (items.zipIdx index).flatMap fun item =>
        constraintsAt (path ++ [.position item.2]) item.1 := by
  induction items generalizing index with
  | nil => rfl
  | cons p rest ih => rw [itemsConstraints, ih, List.zipIdx_cons, List.flatMap_cons]

theorem constraintsAt_node (path : List Step) {p : Pattern} (h : p.isNode = true) :
    constraintsAt path p =
      ⟨path, .aggregate⟩ :: p.parts.flatMap fun part => constraintsAt (path ++ [part.1]) part.2 := by
  cases p with
  | fields entries => rw [constraintsAt, entriesConstraints_eq, parts, List.flatMap_map]
  | sequence items => rw [constraintsAt, itemsConstraints_eq, parts, List.flatMap_map]
  | _ => cases h

theorem exists_constraintsAt_eq_cons (path : List Step) (p : Pattern) :
    ∃ test rest, constraintsAt path p = ⟨path, test⟩ :: rest := by
  cases p with
  | literal data => exact ⟨_, _, rfl⟩
  | predicate matcher => exact ⟨_, _, rfl⟩
  | fields entries => exact ⟨_, _, by rw [constraintsAt]⟩
  | sequence items => exact ⟨_, _, by rw [constraintsAt]⟩

variable (routines : Routines) (limit : Nat) (root : Value)

theorem run_ofLiteral (data part : Value) (h : data.isAggregate = false) :
    (Test.ofLiteral data).run routines part = acceptsLeaf routines data part := by
  cases data with
  | function f =>
    have answer := outcome_lift (routines f.routine [part])
    apply ext_outcome
    · change _ = outcome (ExceptT.lift (routines f.routine [part]) >>= _)
      rw [outcome_bind_of_ok answer, Test.ofLiteral, Test.run]
      cases (routines f.routine [part]).value <;> rfl
    · change _ = calls (ExceptT.lift (routines f.routine [part]) >>= _)
      rw [calls_bind_of_ok answer, calls_lift, Test.ofLiteral, Test.run]
      cases (routines f.routine [part]).value <;> exact (List.append_nil _).symm
  | list address items => cases h
  | record address members => cases h
  | _ => rfl

theorem inOrder_constraintsAt_absent {path : List Step} (h : root.follow? path = none)
    (p : Pattern) :
    inOrder ((constraintsAt path p).map (Constraint.run routines limit root)) = pure false := by
  obtain ⟨test, rest, hc⟩ := exists_constraintsAt_eq_cons path p
  rw [hc, List.map_cons, inOrder_cons, Constraint.run, h, both_pure_false]

theorem acceptsFrom_eq_inOrder (p : Pattern) (h : p.aggregateLiterals = []) {path : List Step}
    {part : Value} (hpart : root.follow? path = some part) :
    acceptsFrom routines limit path.length p part =
      inOrder ((constraintsAt path p).map (Constraint.run routines limit root)) := by
  induction p using induct generalizing path part with
  | scalar data hdata =>
    rw [acceptsFrom_scalar _ _ _ _ hdata, constraintsAt, List.map_singleton, inOrder_singleton,
      Constraint.run, hpart]
    simp only [run_ofLiteral routines data part hdata]
  | predicate matcher =>
    rw [acceptsFrom_predicate, constraintsAt, List.map_singleton, inOrder_singleton,
      Constraint.run, hpart]
    rfl
  | aggregate data hdata ih => simp [aggregateLiterals, hdata] at h
  | node p hp ih =>
    have parts_eq : ∀ q ∈ p.parts, acceptsPart routines limit path.length part q =
        inOrder ((constraintsAt (path ++ [q.1]) q.2).map (Constraint.run routines limit root)) := by
      intro q hq
      have follow_eq : root.follow? (path ++ [q.1]) = part.part? q.1 := by
        rw [Value.follow?_concat, hpart, Option.bind_some]
      have no_literal : q.2.aggregateLiterals = [] :=
        List.subset_nil.1 (h ▸ aggregateLiterals_part_subset hq)
      rw [acceptsPart]
      cases hsub : part.part? q.1 with
      | none =>
        -- The part is missing, so the first constraint on it decides before the limit is compared.
        have absent := follow_eq.trans hsub
        rw [onPart, inOrder_constraintsAt_absent routines limit root absent]
      | some sub =>
        have sub_eq := ih q hq no_literal (follow_eq.trans hsub)
        rwa [List.length_append, List.length_singleton] at sub_eq
    rw [acceptsFrom_node _ _ _ _ hp, constraintsAt_node path hp, List.map_cons, inOrder_cons,
      List.map_flatMap, inOrder_flatMap, ← List.map_congr_left parts_eq, Constraint.run, hpart]
    change _ = both (if limit < path.length then _ else pure part.isAggregate) _
    split
    · rw [both_fail]
    · exact ofAggregate_eq_both part _

theorem outcome_inOrder_run (cs : List Constraint) :
    (inOrder (cs.map (Constraint.run routines limit root))).outcome =
      Constraint.verdict routines limit root cs := by
  rw [outcome_inOrder, List.find?_map]
  unfold Constraint.verdict Constraint.deciding? Constraint.holds Function.comp
  cases cs.find? _ <;> rfl

theorem calls_inOrder_run (cs : List Constraint) :
    (inOrder (cs.map (Constraint.run routines limit root))).calls =
      (Constraint.tried routines limit root cs).flatMap
        fun c => (c.run routines limit root).calls := by
  rw [calls_inOrder, List.find?_map, List.takeWhile_map, Option.toList_map, ← List.map_append,
    List.flatMap_map]
  rfl

theorem accepts_eq_verdict (config : Config) (p : Pattern) (v : Value)
    (h : p.aggregateLiterals = []) :
    (p.accepts routines config v).outcome =
        Constraint.verdict routines config.maxDepth v p.constraints ∧
      (p.accepts routines config v).calls =
        (Constraint.tried routines config.maxDepth v p.constraints).flatMap
          fun c => (c.run routines config.maxDepth v).calls := by
  have at_root : v.follow? [] = some v := rfl
  have flat := acceptsFrom_eq_inOrder routines config.maxDepth v p h at_root
  rw [accepts, constraints, ← outcome_inOrder_run, ← calls_inOrder_run, ← flat]
  exact ⟨rfl, rfl⟩

theorem accepts_eq_verdict_of_failing_routine :
    let watch : Matcher := ⟨"watch", fun v => ⟨.ok true, [⟨"watch", v⟩]⟩⟩
    let p : Pattern := .fields
      [("a", .sequence [.predicate watch]), ("b", .literal (.function ⟨"f", "g"⟩)),
        ("c", .predicate watch)]
    let v : Value := .record 0 (.ofList [("a", .list 1 [.int 1]), ("b", .null)])
    let routines : Routines := fun _ _ => pure (.error "no")
    p.aggregateLiterals = [] ∧
      (p.accepts routines .standard v).outcome =
        .error (Cause.predicateFailure "g" "no").error ∧
      (p.accepts routines .standard v).calls = [⟨"watch", .int 1⟩] := by
  intro watch p v routines
  obtain ⟨outcome_eq, calls_eq⟩ := accepts_eq_verdict routines .standard p v rfl
  exact ⟨rfl, outcome_eq.trans rfl, calls_eq.trans rfl⟩

end Pattern

end ShapeMatch
