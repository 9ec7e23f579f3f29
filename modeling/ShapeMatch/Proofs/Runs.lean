import ShapeMatch.Run

/-!
# Outcomes and calls of runs

A run is read off in two parts: the outcome it ends in and the calls it makes on the way. A list of
tests run one after the other is decided by the first test that does not hold, and no later test
makes any call.
-/

namespace ShapeMatch.Run

variable {α β : Type}

def outcome (run : Run α) : Except MatchError α := (ExceptT.run run).value

def calls (run : Run α) : List Event := (ExceptT.run run).events

def of (outcome : Except MatchError α) (calls : List Event) : Run α := ExceptT.mk ⟨outcome, calls⟩

@[simp] theorem outcome_of (o : Except MatchError α) (events : List Event) :
    (of o events).outcome = o := rfl

@[simp] theorem calls_of (o : Except MatchError α) (events : List Event) :
    (of o events).calls = events := rfl

theorem ext_outcome {x y : Run α} (ho : x.outcome = y.outcome) (hc : x.calls = y.calls) : x = y :=
  Traced.ext ho hc

@[simp] theorem outcome_pure (a : α) : outcome (pure a : Run α) = .ok a := rfl

@[simp] theorem calls_pure (a : α) : calls (pure a : Run α) = [] := rfl

theorem pure_inj {a b : α} : (pure a : Run α) = pure b ↔ a = b := by
  constructor
  · intro same
    exact Except.ok.inj (congrArg outcome same)
  · exact congrArg pure

@[simp] theorem outcome_fail (cause : Cause) :
    outcome (fail cause : Run α) = .error cause.error := rfl

theorem outcome_throw (e : MatchError) : outcome (throw e : Run α) = .error e := rfl

@[simp] theorem outcome_lift (x : Traced α) :
    outcome (ExceptT.lift x : Run α) = .ok x.value := rfl

@[simp] theorem calls_lift (x : Traced α) : calls (ExceptT.lift x : Run α) = x.events :=
  List.append_nil _

theorem liftM_ok_bind (a : α) (f : α → Run β) :
    ((liftM (.ok a : Except MatchError α) : Run α) >>= f) = f a := rfl

theorem outcome_bind_of_ok {x : Run α} {a : α} (h : x.outcome = .ok a) (f : α → Run β) :
    (x >>= f).outcome = (f a).outcome := by
  obtain ⟨value, events⟩ := x
  cases h
  rfl

theorem calls_bind_of_ok {x : Run α} {a : α} (h : x.outcome = .ok a) (f : α → Run β) :
    (x >>= f).calls = x.calls ++ (f a).calls := by
  obtain ⟨value, events⟩ := x
  cases h
  rfl

theorem outcome_bind_of_error {x : Run α} {e : MatchError} (h : x.outcome = .error e)
    (f : α → Run β) : (x >>= f).outcome = .error e := by
  obtain ⟨value, events⟩ := x
  cases h
  rfl

theorem calls_bind_of_error {x : Run α} {e : MatchError} (h : x.outcome = .error e)
    (f : α → Run β) : (x >>= f).calls = x.calls := by
  obtain ⟨value, events⟩ := x
  cases h
  exact List.append_nil _

theorem outcome_bind_eq_ok_iff {x : Run α} {f : α → Run β} {b : β} :
    (x >>= f).outcome = .ok b ↔ ∃ a, x.outcome = .ok a ∧ (f a).outcome = .ok b := by
  cases h : x.outcome with
  | error e => rw [outcome_bind_of_error h]; simp
  | ok a => rw [outcome_bind_of_ok h]; simp

theorem outcome_map (f : α → β) (x : Run α) : (f <$> x).outcome = x.outcome.map f := by
  obtain ⟨value, events⟩ := x
  cases value <;> rfl

theorem calls_map (f : α → β) (x : Run α) : (f <$> x).calls = x.calls := by
  obtain ⟨value, events⟩ := x
  cases value <;> exact List.append_nil _

def holds (run : Run Bool) : Bool :=
  match run.outcome with
  | .ok b => b
  | .error _ => false

theorem holds_iff {run : Run Bool} : run.holds = true ↔ run.outcome = .ok true := by
  unfold holds
  cases run.outcome <;> simp

def refuses (run : Run Bool) : Bool :=
  match run.outcome with
  | .ok b => !b
  | .error _ => false

theorem refuses_iff {run : Run Bool} : run.refuses = true ↔ run.outcome = .ok false := by
  unfold refuses
  cases run.outcome <;> simp

@[simp] theorem holds_pure (b : Bool) : holds (pure b) = b := rfl

theorem outcome_both (first second : Run Bool) :
    (both first second).outcome = if first.holds then second.outcome else first.outcome := by
  unfold both holds
  cases h : first.outcome with
  | error e => rw [outcome_bind_of_error h]; rfl
  | ok b => rw [outcome_bind_of_ok h]; cases b <;> rfl

theorem calls_both (first second : Run Bool) :
    (both first second).calls =
      if first.holds then first.calls ++ second.calls else first.calls := by
  unfold both holds
  cases h : first.outcome with
  | error e => rw [calls_bind_of_error h]; rfl
  | ok b => rw [calls_bind_of_ok h]; cases b <;> simp

theorem holds_congr {x y : Run Bool} (h : x.outcome = y.outcome) : x.holds = y.holds := by
  rw [holds, h, holds]

theorem holds_both (first second : Run Bool) :
    (both first second).holds = (first.holds && second.holds) := by
  have ho := outcome_both first second
  cases h : first.holds with
  | true =>
    rw [h, if_pos rfl] at ho
    exact holds_congr ho
  | false =>
    rw [h, if_neg Bool.false_ne_true] at ho
    rw [holds_congr ho, h, Bool.false_and]

theorem outcome_both_of_holds {first : Run Bool} (h : first.holds = true) (second : Run Bool) :
    (both first second).outcome = second.outcome := by
  rw [outcome_both, if_pos h]

theorem both_of_not_holds {first : Run Bool} (h : first.holds = false) (second : Run Bool) :
    both first second = first := by
  apply ext_outcome
  · rw [outcome_both, h]; rfl
  · rw [calls_both, h]; rfl

@[simp] theorem both_pure_true (second : Run Bool) : both (pure true) second = second := rfl

@[simp] theorem both_pure_false (second : Run Bool) : both (pure false) second = pure false := rfl

@[simp] theorem both_fail (cause : Cause) (second : Run Bool) :
    both (fail cause) second = fail cause := rfl

theorem both_pure_true_right (first : Run Bool) : both first (pure true) = first := by
  apply ext_outcome
  · rw [outcome_both]
    split
    · next h => rw [holds_iff.1 h, outcome_pure]
    · rfl
  · rw [calls_both, calls_pure, List.append_nil, ite_self]

theorem both_assoc (x y z : Run Bool) : both (both x y) z = both x (both y z) := by
  apply ext_outcome
  · simp only [outcome_both, holds_both]
    cases x.holds <;> simp
  · simp only [calls_both, holds_both]
    cases x.holds <;> cases y.holds <;> simp

def inOrder (runs : List (Run Bool)) : Run Bool := runs.foldr both (pure true)

@[simp] theorem inOrder_cons (run : Run Bool) (runs : List (Run Bool)) :
    inOrder (run :: runs) = both run (inOrder runs) := rfl

theorem inOrder_singleton (run : Run Bool) : inOrder [run] = run := both_pure_true_right run

theorem inOrder_append (xs ys : List (Run Bool)) :
    inOrder (xs ++ ys) = both (inOrder xs) (inOrder ys) := by
  induction xs with
  | nil => rfl
  | cons x xs ih => rw [List.cons_append, inOrder_cons, inOrder_cons, ih, both_assoc]

theorem inOrder_flatMap (items : List α) (runs : α → List (Run Bool)) :
    inOrder (items.flatMap runs) = inOrder (items.map fun item => inOrder (runs item)) := by
  induction items with
  | nil => rfl
  | cons item rest ih => rw [List.flatMap_cons, inOrder_append, ih, List.map_cons, inOrder_cons]

theorem holds_inOrder {runs : List (Run Bool)} :
    (inOrder runs).holds = true ↔ ∀ run ∈ runs, run.holds = true := by
  induction runs with
  | nil => exact iff_of_true rfl (List.forall_mem_nil _)
  | cons run rest ih => simp [holds_both, ih]

theorem outcome_inOrder (runs : List (Run Bool)) :
    (inOrder runs).outcome =
      match runs.find? (!·.holds) with
      | some run => run.outcome
      | none => .ok true := by
  induction runs with
  | nil => rfl
  | cons run runs ih =>
    rw [inOrder_cons, outcome_both, List.find?_cons]
    cases h : run.holds with
    | true => simpa using ih
    | false => simp

theorem outcome_inOrder_congr {items : List α} {f g : α → Run Bool}
    (h : ∀ item ∈ items, (f item).outcome = (g item).outcome) :
    (inOrder (items.map f)).outcome = (inOrder (items.map g)).outcome := by
  induction items with
  | nil => rfl
  | cons item rest ih =>
    obtain ⟨first_eq, rest_eq⟩ := List.forall_mem_cons.1 h
    simp only [List.map_cons, inOrder_cons, outcome_both, holds_congr first_eq, first_eq,
      ih rest_eq]

theorem calls_inOrder (runs : List (Run Bool)) :
    (inOrder runs).calls =
      (runs.takeWhile holds ++ (runs.find? (!·.holds)).toList).flatMap calls := by
  induction runs with
  | nil => rfl
  | cons run runs ih =>
    rw [inOrder_cons, calls_both, List.find?_cons]
    cases h : run.holds with
    | true => simp [h, ih]
    | false => simp [h]

theorem inOrder_of_holds {runs : List (Run Bool)} (h : ∀ run ∈ runs, run.holds = true) :
    inOrder runs = of (.ok true) (runs.flatMap calls) := by
  induction runs with
  | nil => rfl
  | cons run rest ih =>
    obtain ⟨first, rest_hold⟩ := List.forall_mem_cons.1 h
    rw [inOrder_cons, ih rest_hold]
    apply ext_outcome
    · rw [outcome_both_of_holds first, outcome_of, outcome_of]
    · rw [calls_both, if_pos first, calls_of, calls_of, List.flatMap_cons]

theorem inOrder_of_first {before after : List (Run Bool)} {run : Run Bool}
    (hold : ∀ earlier ∈ before, earlier.holds = true) (decides : run.holds = false) :
    inOrder (before ++ run :: after) = of run.outcome ((before ++ [run]).flatMap calls) := by
  have before_holds : (of (.ok true) (before.flatMap calls) : Run Bool).holds = true := rfl
  rw [inOrder_append, inOrder_cons, both_of_not_holds decides, inOrder_of_holds hold]
  apply ext_outcome
  · rw [outcome_both_of_holds before_holds, outcome_of]
  · rw [calls_both, if_pos before_holds, List.flatMap_append, List.flatMap_singleton, calls_of,
      calls_of]

end ShapeMatch.Run
