import ShapeMatch.MatchError
import ShapeMatch.Trace

/-!
# Running supplied functions

A run traces the calls it makes and ends in a result or in an error; an error ends it at once.
Function values only name a routine. What the routines do is given by `Routines`.
-/

namespace ShapeMatch

abbrev Run := ExceptT MatchError Traced

abbrev Routines := String → List Value → Traced (Except String Value)

abbrev Handler (α : Type) := Value → Traced α

def fail {α : Type} (cause : Cause) : Run α := throw cause.error

/-- The second test runs only if the first one holds. -/
@[macro_inline] def Run.both (first second : Run Bool) : Run Bool := do
  if ← first then second else pure false

def Value.call (routines : Routines) (arguments : List Value) :
    Value → Traced (Except String Value)
  | .function f => routines f.routine arguments
  | other => pure (.error (other.typeName ++ " is not callable"))

end ShapeMatch
