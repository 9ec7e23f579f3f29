import ShapeMatch.Matcher

/-!
# Patterns

A pattern is a template that filters values. Field and position patterns constrain what they list
and ignore the rest.
-/

namespace ShapeMatch

inductive Pattern where
  /-- A scalar is compared by equality, and a function is called. A list or record accepts its own
  allocation, and otherwise what the pattern that it lifts to accepts. -/
  | literal (value : Value)
  | predicate (matcher : Matcher)
  | fields (entries : List (String × Pattern))
  | sequence (items : List Pattern)

namespace Pattern

def any : Pattern := .predicate .any

/-- The null literal accepts nothing, not even null. -/
def null : Pattern := .literal .null

def isMatcher : Pattern → Bool
  | .predicate _ => true
  | _ => false

mutual

/-- Lifts plain data: records become field patterns in the order of their names, and lists become
position patterns. -/
def ofValue : Value → Pattern
  | .list _ items => .sequence (ofItems items)
  | .record _ members => .fields (ofFields members)
  | v => .literal v

def ofItems : List Value → List Pattern
  | [] => []
  | v :: vs => ofValue v :: ofItems vs

def ofFields : {bound : Bound} → Fields Value bound → List (String × Pattern)
  | _, .nil => []
  | _, .cons name _ v rest => (name, ofValue v) :: ofFields rest

end

theorem ofItems_eq_map (items : List Value) : ofItems items = items.map ofValue := by
  induction items with
  | nil => rfl
  | cons v vs ih => rw [ofItems, ih, List.map_cons]

theorem ofFields_eq_map {bound : Bound} (members : Fields Value bound) :
    ofFields members = members.toList.map fun member => (member.1, ofValue member.2) := by
  induction members with
  | nil => rfl
  | cons name _ v rest ih => rw [ofFields, ih, Fields.toList, List.map_cons]

end Pattern

end ShapeMatch
