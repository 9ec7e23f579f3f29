import ShapeMatch.Value.Basic

/-!
# Traced results

A result together with the calls that led to it, in the order they were made. Matching calls
functions that its users supply; the trace is what those calls leave behind.
-/

namespace ShapeMatch

structure Event where
  label : String
  subject : Value

structure Traced (α : Type) where
  value : α
  events : List Event

namespace Traced

variable {α β : Type}

def log (event : Event) : Traced Unit := ⟨(), [event]⟩

instance : Monad Traced where
  pure a := ⟨a, []⟩
  bind x f := let y := f x.value; ⟨y.value, x.events ++ y.events⟩

@[simp] theorem pure_value (a : α) : (pure a : Traced α).value = a := rfl

@[simp] theorem pure_events (a : α) : (pure a : Traced α).events = [] := rfl

@[simp] theorem bind_value (x : Traced α) (f : α → Traced β) :
    (x >>= f).value = (f x.value).value := rfl

@[simp] theorem bind_events (x : Traced α) (f : α → Traced β) :
    (x >>= f).events = x.events ++ (f x.value).events := rfl

@[ext] theorem ext {x y : Traced α} (hv : x.value = y.value) (he : x.events = y.events) :
    x = y := by
  cases x
  cases y
  simp_all

instance : LawfulMonad Traced :=
  LawfulMonad.mk' Traced
    (fun x => Traced.ext rfl (List.append_nil _))
    (fun _ _ => Traced.ext rfl rfl)
    (fun _ _ _ => Traced.ext rfl (List.append_assoc _ _ _))

end Traced

end ShapeMatch
