import ShapeMatch.Hashed
import ShapeMatch.Pattern.Basic
import ShapeMatch.Value.Equality
import ShapeMatch.Value.Render

/-!
# Stored values

Values as they lie in memory, with every record in a hash table of its own. What is shown of a
record, and what it lifts to, is sorted by name, and two records are compared by looking the fields
of one up in the other. `value` is what a stored value means, whichever order its tables have.
-/

namespace ShapeMatch

inductive Stored where
  | scalar (v : Value) (h : v.isAggregate = false)
  | list (address : Address) (items : List Stored)
  | record (address : Address) (fields : Hashed Stored [])

/-- How to read a stored value from its parts up. The fields of a record come in the order of its
table. -/
structure Reading (β : Type) where
  scalar : Value → β
  list : Address → List β → β
  record : Address → List (String × β) → β

namespace Stored

open Listing

mutual

def read {β : Type} (r : Reading β) : Stored → β
  | .scalar v _ => r.scalar v
  | .list address items => r.list address (readItems r items)
  | .record address fields => r.record address (readFields r fields)

def readItems {β : Type} (r : Reading β) : List Stored → List β
  | [] => []
  | s :: rest => s.read r :: readItems r rest

def readFields {β : Type} (r : Reading β) :
    {taken : List String} → Hashed Stored taken → List (String × β)
  | _, .nil => []
  | _, .cons name _ s rest => (name, s.read r) :: readFields r rest

end

def value : Stored → Value :=
  read ⟨id, .list, fun address fields => .record address (.ofList fields)⟩

def display : Stored → String :=
  read ⟨Value.display, fun _ => bracketed, fun _ fields =>
    braced ((sortByName fields).map fun field => entry field.1 field.2)⟩

def debug : Stored → String :=
  read ⟨Value.debug, fun _ items => applied "List" [bracketed items], fun _ fields =>
    applied "Record"
      [braced ((sortByName fields).map fun field => entry (Quoted.encode field.1) field.2)]⟩

def lift : Stored → Pattern :=
  read ⟨.literal, fun _ => .sequence, fun _ fields => .fields (sortByName fields)⟩

mutual

def agree (leaf : Value → Value → Bool) : Stored → Stored → Bool
  | .list _ items, .list _ others => agreeItems leaf items others
  | .record _ fields, .record _ others =>
    fields.size == others.size && agreeFields leaf fields others
  | s, t => leaf s.value t.value

def agreeItems (leaf : Value → Value → Bool) : List Stored → List Stored → Bool
  | [], [] => true
  | s :: rest, t :: others => s.agree leaf t && agreeItems leaf rest others
  | _, _ => false

/-- Every field is found in the other table, with a content that agrees. -/
def agreeFields (leaf : Value → Value → Bool) :
    {taken : List String} → Hashed Stored taken → Hashed Stored [] → Bool
  | _, .nil, _ => true
  | _, .cons name _ s rest, others =>
    (match others.get? name with
      | some t => s.agree leaf t
      | none => false) && agreeFields leaf rest others

end

def equals (s t : Stored) : Bool := s.agree Value.equalLeaf t

instance : BEq Stored := ⟨agree Value.identicalLeaf⟩

def text (address : Address) (content : String) : Stored := .scalar (.str address content) rfl

def ofPairs (address : Address) (pairs : List (String × Stored)) : Stored :=
  .record address (.ofList pairs)

def tagged (address tagAddress : Address) (discriminant tag : String)
    (pairs : List (String × Stored)) : Stored :=
  .record address ((Hashed.ofList pairs).insert discriminant (text tagAddress tag))

end Stored

end ShapeMatch
