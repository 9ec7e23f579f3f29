import ShapeMatch.Text.Numeral
import ShapeMatch.Value.Basic

/-!
# Looking into values

Records are read by name and lists by position. A name that is a numeral also reads a list, and a
position also reads a record through its numeral.
-/

namespace ShapeMatch.Value

def get? (key : String) : Value → Option Value
  | .record _ fields => fields.get? key
  | .list _ items => (Numeral.parse? key).bind (items[·]?)
  | _ => none

def at? (index : Nat) : Value → Option Value
  | .list _ items => items[index]?
  | .record _ fields => fields.get? (Numeral.render index)
  | _ => none

def tag? (discriminant : String) : Value → Option String
  | .record _ fields => (fields.get? discriminant).bind text?
  | _ => none

theorem tag?_tagged (address tagAddress : Address) (discriminant tag : String)
    (pairs : List (String × Value)) :
    (tagged address tagAddress discriminant tag pairs).tag? discriminant = some tag := by
  rw [tagged, tag?, Fields.get?_put, if_pos rfl]
  rfl

end ShapeMatch.Value
