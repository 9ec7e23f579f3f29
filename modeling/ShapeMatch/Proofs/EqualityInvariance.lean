import ShapeMatch.Proofs.Acceptance
import ShapeMatch.Proofs.EqualValues
import ShapeMatch.Proofs.TakenCase
import ShapeMatch.Proofs.Testers
import ShapeMatch.Proofs.Unions

/-!
# Equal values are matched alike

A pattern cannot tell equal values apart unless one of its testers can, or one of its literals is
an allocation of theirs. So a chain of cases takes the same case on both values. The built-in
matchers, the matchers of lists and the refinements cannot tell them apart.
-/

namespace ShapeMatch

open Run

/-- On parts of the two values that are alike, the test comes out the same. -/
def Indifferent (test : Value → Run Bool) (v w : Value) : Prop :=
  ∀ part ∈ v.subvalues, ∀ other ∈ w.subvalues, part.Alike other →
    (test part).outcome = (test other).outcome

namespace Indifferent

variable {test : Value → Run Bool} {v w : Value}

theorem whole (h : Indifferent test v w) (alike : v.Alike w) :
    (test v).outcome = (test w).outcome :=
  h v v.self_mem_subvalues w w.self_mem_subvalues alike

theorem mono (h : Indifferent test v w) {part other : Value} (hv : part.subvalues ⊆ v.subvalues)
    (hw : other.subvalues ⊆ w.subvalues) : Indifferent test part other :=
  fun u hu u' hu' => h u (hv hu) u' (hw hu')

end Indifferent

namespace Pattern

variable {routines : Routines} {v w : Value}

/-- Neither an allocation nor a tester of the pattern tells the two values apart. -/
structure Impartial (routines : Routines) (p : Pattern) (v w : Value) : Prop where
  apart_left : p.Apart v
  apart_right : p.Apart w
  indifferent : ∀ tester ∈ p.testers, Indifferent (tester.test routines) v w

theorem Impartial.part {p : Pattern} (h : p.Impartial routines v w) {q : Step × Pattern}
    (hq : q ∈ p.parts) {x y : Value} (hx : v.part? q.1 = some x) (hy : w.part? q.1 = some y) :
    q.2.Impartial routines x y where
  apart_left := h.apart_left.part hq hx
  apart_right := h.apart_right.part hq hy
  indifferent tester htester :=
    (h.indifferent tester (testers_part_subset hq htester)).mono (Value.subvalues_part? hx)
      (Value.subvalues_part? hy)

theorem Impartial.ofValue {data : Value} (h : (literal data).Impartial routines v w) :
    (ofValue data).Impartial routines v w where
  apart_left := apart_ofValue data v
  apart_right := apart_ofValue data w
  indifferent := by
    rw [testers_ofValue]
    exact h.indifferent

theorem acceptsLeaf_eq_of_content {data : Value} (scalar : data.isAggregate = false)
    (no_function : data.callable? = none) (same : v.content = w.content) :
    acceptsLeaf routines data v = acceptsLeaf routines data w := by
  have equals_eq (hscalar : ∀ u, data.equals u = Value.equalLeaf data u) :
      data.equals v = data.equals w := by
    rw [hscalar, hscalar, Bool.eq_iff_iff, Value.equalLeaf_iff, Value.equalLeaf_iff, same]
  cases data with
  | function f => cases no_function
  | null => rfl
  | list address items => cases scalar
  | record address fields => cases scalar
  | _ => exact congrArg (fun b => (pure b : Run Bool)) (equals_eq fun _ => rfl)

theorem outcome_acceptsLeaf_congr {data : Value} (scalar : data.isAggregate = false)
    (alike : v.Alike w) (h : (literal data).Impartial routines v w) :
    (acceptsLeaf routines data v).outcome = (acceptsLeaf routines data w).outcome := by
  cases data with
  | function f => exact (h.indifferent (.function f) (List.mem_singleton_self _)).whole alike
  | list address items => cases scalar
  | record address fields => cases scalar
  | _ => exact congrArg outcome (acceptsLeaf_eq_of_content scalar rfl alike.content_eq)

variable (routines) (limit : Nat)

theorem outcome_acceptsPart_congr {depth : Nat} {q : Step × Pattern} (alike : v.Alike w)
    (h : ∀ x y, v.part? q.1 = some x → w.part? q.1 = some y → x.Alike y →
      (acceptsFrom routines limit (depth + 1) q.2 x).outcome =
        (acceptsFrom routines limit (depth + 1) q.2 y).outcome) :
    (acceptsPart routines limit depth v q).outcome =
      (acceptsPart routines limit depth w q).outcome :=
  onPart_congr outcome (alike.rel_part? q.1) h

theorem outcome_acceptsFrom_congr (p : Pattern) (depth : Nat) (v w : Value) (alike : v.Alike w)
    (h : p.Impartial routines v w) :
    (acceptsFrom routines limit depth p v).outcome =
      (acceptsFrom routines limit depth p w).outcome := by
  induction p using induct generalizing depth v w with
  | scalar data hdata =>
    rw [acceptsFrom_scalar _ _ _ _ hdata, acceptsFrom_scalar _ _ _ _ hdata]
    split
    · rfl
    · exact outcome_acceptsLeaf_congr hdata alike h
  | predicate matcher =>
    rw [acceptsFrom_predicate, acceptsFrom_predicate]
    split
    · rfl
    · exact (h.indifferent (.matcher matcher) (List.mem_singleton_self _)).whole alike
  | aggregate data hdata ih =>
    rw [acceptsFrom_aggregate _ _ _ _ hdata, acceptsFrom_aggregate _ _ _ _ hdata,
      h.apart_left.not_shared hdata, h.apart_right.not_shared hdata]
    split
    · rfl
    · exact ih depth v w alike h.ofValue
  | node p hp ih =>
    have parts_eq : ∀ q ∈ p.parts, (acceptsPart routines limit depth v q).outcome =
        (acceptsPart routines limit depth w q).outcome := fun q hq =>
      outcome_acceptsPart_congr routines limit alike fun x y hx hy hxy =>
        ih q hq (depth + 1) x y hxy (h.part hq hx hy)
    rw [acceptsFrom_node _ _ _ _ hp, acceptsFrom_node _ _ _ _ hp]
    split
    · rfl
    · rw [ofAggregate_eq_both, ofAggregate_eq_both, outcome_both, outcome_both,
        outcome_inOrder_congr parts_eq, Value.isAggregate_eq_of_content alike.content_eq]

end Pattern

namespace Matcher

variable {v w : Value}

def builtins : List Matcher := [any, string, number, boolean, function, array]

theorem test_eq_of_content {m : Matcher} (hm : m ∈ builtins) (h : v.content = w.content) :
    m.test v = m.test w := by
  simp only [builtins, List.mem_cons, List.not_mem_nil, or_false] at hm
  rcases hm with rfl | rfl | rfl | rfl | rfl | rfl <;>
    cases v <;> cases w <;> first | rfl | cases h

theorem indifferent_of_mem_builtins {m : Matcher} (hm : m ∈ builtins) :
    Indifferent m.test v w := fun _ _ _ _ alike =>
  congrArg outcome (test_eq_of_content hm alike.content_eq)

theorem outcome_testAll_congr (m : Matcher) {items others : List Value}
    (alike : List.Forall₂ Value.Alike items others)
    (h : ∀ x ∈ items, ∀ y ∈ others, x.Alike y → (m.test x).outcome = (m.test y).outcome) :
    (m.testAll items).outcome = (m.testAll others).outcome := by
  induction alike with
  | nil => rfl
  | cons first rest ih =>
    have first_eq := h _ List.mem_cons_self _ List.mem_cons_self first
    have rest_eq := ih fun x hx y hy =>
      h x (List.mem_cons_of_mem _ hx) y (List.mem_cons_of_mem _ hy)
    simp only [testAll, outcome_both, holds_congr first_eq, first_eq, rest_eq]

theorem indifferent_arrayOf {m : Matcher} (h : Indifferent m.test v w) :
    Indifferent (arrayOf m).test v w := by
  intro part hpart other hother alike
  have items_alike := alike.rel_items?
  have inside_v : ∀ items, part.items? = some items → items ⊆ v.subvalues := fun _ =>
    Value.items?_subset_subvalues hpart
  have inside_w : ∀ items, other.items? = some items → items ⊆ w.subvalues := fun _ =>
    Value.items?_subset_subvalues hother
  simp only [arrayOf]
  generalize part.items? = items? at items_alike inside_v ⊢
  generalize other.items? = others? at items_alike inside_w ⊢
  cases items_alike with
  | none => rfl
  | some lists_alike =>
    exact outcome_testAll_congr m lists_alike fun x hx y hy =>
      h x (inside_v _ rfl hx) y (inside_w _ rfl hy)

theorem indifferent_refinement {union : Union} {tags : List String} {m : Matcher}
    (hm : union.refinement tags = .ok m) : Indifferent m.test v w := by
  intro part _ other _ alike
  rw [Union.test_refinement hm, Union.test_refinement hm, Union.carries, Union.carries,
    alike.tag?_eq]

end Matcher

theorem matching_respects_equality (routines : Routines) (config : Config) {v w : Value}
    (alike : v.Alike w) :
    (∀ p : Pattern, p.Impartial routines v w →
        (p.accepts routines config v).outcome = (p.accepts routines config w).outcome) ∧
      (∀ {α : Type} (union : Union) (cases : List (Case α)),
        (∀ c ∈ cases, c.pattern.Impartial routines v w) →
        CaseChain.taken routines config union v cases =
            CaseChain.taken routines config union w cases ∧
          ∀ u ∈ [v, w],
            ((CaseChain.start union u).addAll routines config cases).outcome.map (·.result?) =
              (CaseChain.taken routines config union u cases).map
                (·.map fun c => (c.handler u).value)) ∧
      (∀ m ∈ Matcher.builtins, Indifferent m.test v w) ∧
      (∀ m : Matcher, Indifferent m.test v w → Indifferent (Matcher.arrayOf m).test v w) ∧
      ∀ (union : Union) (tags : List String) (m : Matcher),
        union.refinement tags = .ok m → Indifferent m.test v w := by
  have patterns_eq : ∀ p : Pattern, p.Impartial routines v w →
      (p.accepts routines config v).outcome = (p.accepts routines config w).outcome := fun p hp =>
    Pattern.outcome_acceptsFrom_congr routines config.maxDepth p 0 v w alike hp
  refine ⟨patterns_eq, ?_, fun m => Matcher.indifferent_of_mem_builtins,
    fun m => Matcher.indifferent_arrayOf, fun union tags m => Matcher.indifferent_refinement⟩
  intro α union cases impartial
  constructor
  · exact CaseChain.taken_congr (alike.tag?_eq _) fun c hc =>
      patterns_eq c.pattern (impartial c hc)
  · intro u _
    exact CaseChain.result?_addAll_eq_taken routines config union u cases

theorem matching_respects_equality_of_negative_zero :
    let routines : Routines := fun _ _ => pure (.ok (.bool true))
    let data : Value := .list 9 [.function ⟨"f", "g"⟩]
    let p : Pattern := .fields
      [("n", .literal (.int 0)), ("xs", .predicate (.arrayOf .number)), ("xs", .literal data)]
    let v : Value := .record 0 (.ofList [("n", .int 0), ("xs", .list 1 [.int 1])])
    let w : Value := .record 2 (.ofList
      [("xs", .list 3 [.float ⟨0x3FF0000000000000⟩]), ("n", .float ⟨0x8000000000000000⟩)])
    v.Alike w ∧ p.Impartial routines v w ∧
      (p.accepts routines .standard v).outcome = (p.accepts routines .standard w).outcome ∧
      (p.accepts routines .standard v).outcome = .ok true := by
  intro routines data p v w
  have alike : v.Alike w := .inl (by decide +kernel)
  have impartial : p.Impartial routines v w := by
    refine ⟨by decide, by decide, ?_⟩
    intro tester htester
    have cases_of_tester : tester = .matcher (.arrayOf .number) ∨ tester = .function ⟨"f", "g"⟩ :=
      List.mem_pair.1 htester
    rcases cases_of_tester with rfl | rfl
    · have number_builtin : Matcher.number ∈ Matcher.builtins := by simp [Matcher.builtins]
      exact Matcher.indifferent_arrayOf (Matcher.indifferent_of_mem_builtins number_builtin)
    · exact fun _ _ _ _ _ => rfl
  exact ⟨alike, impartial, (matching_respects_equality routines .standard alike).1 p impartial,
    holds_iff.1 (by decide +kernel)⟩

end ShapeMatch
