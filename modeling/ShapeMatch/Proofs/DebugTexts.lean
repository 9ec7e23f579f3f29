import ShapeMatch.Proofs.Allocations
import ShapeMatch.Proofs.Numerals
import ShapeMatch.Proofs.TellingTexts

/-!
# Debug texts tell values apart

The text of a part ends where its own brackets and quotes close, whatever its names and texts hold.
So a debug text can be read in one way only. Floats are left out, since NaNs print alike, and
functions, since they are shown by a name that need not be quoted.
-/

namespace ShapeMatch

theorem isDigit_of_mem_repr {n : Nat} {c : Char} (h : c ∈ n.repr.toList) : c.isDigit = true := by
  rw [Nat.toList_repr] at h
  exact Nat.isDigit_of_mem_toDigits (by decide) (by decide) h

theorem minus_append_ne_repr (m n : Nat) : "-" ++ m.repr ≠ n.repr := by
  intro h
  have minus : '-' ∈ ("-" ++ m.repr).toList := by
    rw [String.toList_append]
    exact List.mem_cons_self
  exact absurd (isDigit_of_mem_repr (h ▸ minus)) (by decide)

theorem repr_inj {m n : Int} (h : m.repr = n.repr) : m = n := by
  rw [Int.repr_eq_if, Int.repr_eq_if] at h
  split at h <;> split at h
  · have same : m.toNat = n.toNat := Numeral.render_injective h
    omega
  · exact absurd h.symm (minus_append_ne_repr _ _)
  · exact absurd h (minus_append_ne_repr _ _)
  · have same : (-m).toNat = (-n).toNat :=
      Numeral.render_injective ((String.append_right_inj _).1 h)
    omega

theorem paren_not_mem_repr (n : Int) : ')' ∉ n.repr.toList := by
  have not_digit {k : Nat} : ')' ∉ k.repr.toList := fun h =>
    absurd (isDigit_of_mem_repr h) (by decide)
  rw [Int.repr_eq_if]
  split
  · exact not_digit
  · rw [String.toList_append, List.mem_append]
    rintro (minus | digit)
    · exact absurd minus (by decide)
    · exact not_digit digit

namespace Value

open Listing

def isFloat : Value → Bool
  | .float _ => true
  | _ => false

/-- No part, however deep, is a float or a function. -/
def Legible (v : Value) : Prop :=
  ∀ part ∈ v.subvalues, part.isFloat = false ∧ part.isCallable = false

instance (v : Value) : Decidable v.Legible :=
  inferInstanceAs (Decidable (∀ part ∈ v.subvalues, part.isFloat = false ∧ part.isCallable = false))

def initial : Value → Char
  | .null => 'N'
  | .bool _ => 'B'
  | .int _ => 'I'
  | .float _ | .function _ => 'F'
  | .str _ _ => 'S'
  | .list _ _ => 'L'
  | .record _ _ => 'R'

theorem begins_debug (v : Value) : Begins v.initial v.debug := by
  cases v with
  | null => rfl
  | _ =>
    refine begins_applied ?_ _
    rfl

theorem tells_of_initial_ne {p : Prop} {v w : Value} (h : v.initial ≠ w.initial) :
    Tells p v.debug w.debug :=
  .of_begins (begins_debug v) (begins_debug w) h

theorem exists_begins_debug (v : Value) : ∃ c, Begins c v.debug ∧ c ≠ ']' :=
  ⟨v.initial, begins_debug v, by cases v <;> simp [initial]⟩

theorem tells_bool (a b : Bool) : Tells (a = b) (debug (.bool a)) (debug (.bool b)) := by
  have closed (c : Bool) : ')' ∉ (if c then "true" else "false").toList := by
    cases c <;> decide
  refine tells_applied "Bool" ((Tells.until_stop (closed a) (closed b)).mono fun same => ?_)
  revert a b
  decide

theorem tells_int (m n : Int64) : Tells (m = n) (debug (.int m)) (debug (.int n)) :=
  tells_applied "Int" ((Tells.until_stop (paren_not_mem_repr _) (paren_not_mem_repr _)).mono
    fun same => Int64.toInt_inj.1 (repr_inj same))

theorem tells_str (a b : Address) (text other : String) :
    Tells (text = other) (debug (.str a text)) (debug (.str b other)) :=
  tells_applied "Str" ((Quoted.tells_encode text other).close ")")

theorem tells_list {items others : List Value}
    (tells : ∀ v ∈ items, ∀ w ∈ others, Tells (v.bare = w.bare) v.debug w.debug) (a b : Address) :
    Tells ((Value.list a items).bare = (Value.list b others).bare) (debug (.list a items))
      (debug (.list b others)) := by
  rw [bare_list, bare_list, debug, debug, debugItems_eq_map, debugItems_eq_map]
  have content := tells_bracketed exists_begins_debug tells
  exact (tells_applied "List" (content.close ")")).mono (congrArg (Value.list 0))

theorem tells_record {fields others : Fields Value none}
    (tells : ∀ field ∈ fields.toList, ∀ other ∈ others.toList,
      Tells (field.2.bare = other.2.bare) field.2.debug other.2.debug) (a b : Address) :
    Tells ((Value.record a fields).bare = (Value.record b others).bare) (debug (.record a fields))
      (debug (.record b others)) := by
  rw [bare_record, bare_record, debug, debug, debugFields_eq_map, debugFields_eq_map]
  have opens (field : String × Value) :
      ∃ c, Begins c (entry (Quoted.encode field.1) field.2.debug) ∧ c ≠ '\x7d' :=
    ⟨'\x22', ((Quoted.begins_encode field.1).append _).append _, by decide⟩
  have content := tells_braced opens fun field hfield other hother =>
    (tells_entry (Quoted.tells_encode field.1 other.1) (tells field hfield other hother)).mono
      fun same => (Prod.ext same.1 same.2 : (field.1, field.2.bare) = (other.1, other.2.bare))
  refine (tells_applied "Record" (content.close ")")).mono fun same => ?_
  refine congrArg (Value.record 0) (Fields.toList_inj ?_)
  rw [toList_recastFields, toList_recastFields]
  exact same

/-- A debug text tells what it is of, up to addresses, and where it ends. -/
theorem tells_debug {a : Value} (legible : a.Legible) (b : Value) :
    Tells (a.bare = b.bare) a.debug b.debug := by
  induction a using induct generalizing b with
  | step a ih =>
    obtain ⟨⟨no_float, no_function⟩, children_legible⟩ := (forall_subvalues_iff a).1 legible
    -- Values of two kinds differ in the first character, so only those of one kind are left.
    cases a with
    | null =>
      cases b with
      | null => exact (Tells.literal _).mono fun _ => rfl
      | _ => exact tells_of_initial_ne (by simp [initial])
    | bool m =>
      cases b with
      | bool n => exact (tells_bool m n).mono (congrArg Value.bool)
      | _ => exact tells_of_initial_ne (by simp [initial])
    | int m =>
      cases b with
      | int n => exact (tells_int m n).mono (congrArg Value.int)
      | _ => exact tells_of_initial_ne (by simp [initial])
    | float x => cases no_float
    | str address text =>
      cases b with
      | str other_address other => exact (tells_str _ _ text other).mono (congrArg (Value.str 0))
      | _ => exact tells_of_initial_ne (by simp [initial])
    | list address items =>
      cases b with
      | list other_address others =>
        exact tells_list (fun v hv w _ => ih v hv (children_legible v hv) w) _ _
      | _ => exact tells_of_initial_ne (by simp [initial])
    | record address fields =>
      cases b with
      | record other_address others =>
        refine tells_record (fun field hfield other _ => ?_) _ _
        have child : field.2 ∈ (record address fields).children := List.mem_map_of_mem hfield
        exact ih field.2 child (children_legible field.2 child) other.2
      | _ => exact tells_of_initial_ne (by simp [initial])
    | function callable => cases no_function

/-- The other value may hold floats and functions: a text without any is never theirs. -/
theorem debug_eq_iff_bare_eq {a : Value} (legible : a.Legible) (b : Value) :
    a.debug = b.debug ↔ a.bare = b.bare := by
  constructor
  · intro same_text
    exact (tells_debug legible b [] [] (by rw [same_text])).1
  · intro same
    rw [← debug_bare a, same, debug_bare]

theorem debug_eq_iff_identical {a : Value} (legible : a.Legible) (b : Value) :
    a.debug = b.debug ↔ (a == b) = true := by
  rw [identical_iff_bare_eq]
  exact debug_eq_iff_bare_eq legible b

theorem debug_eq_iff_identical_of_quoted_delimiters :
    let a : Value := .ofPairs 0
      [("k", .list 1 [.str 2 "x\x22), Str(\x22y", .null]), ("b", .int (-7))]
    let b : Value := .ofPairs 3
      [("b", .int (-7)), ("k", .list 4 [.str 5 "x\x22), Str(\x22y", .null])]
    let c : Value := .ofPairs 6 [("b", .int (-7)), ("k", .list 7 [.str 8 "x", .str 9 "y", .null])]
    a.Legible ∧ (a == b) = true ∧ a.debug = b.debug ∧ (a == c) = false ∧ a.debug ≠ c.debug := by
  intro a b c
  have legible : a.Legible := by decide +kernel
  have same : (a == b) = true := by decide +kernel
  have other : (a == c) = false := by decide +kernel
  refine ⟨legible, same, (debug_eq_iff_identical legible b).2 same, other, fun same_text => ?_⟩
  exact Bool.eq_false_iff.1 other ((debug_eq_iff_identical legible c).1 same_text)

example : debug (.float ⟨0x7FF8000000000000⟩) = debug (.float ⟨0x7FF8000000000001⟩) ∧
    (Value.float ⟨0x7FF8000000000000⟩ == .float ⟨0x7FF8000000000001⟩) = false := by
  decide +kernel

end Value

end ShapeMatch
