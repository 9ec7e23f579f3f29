import ShapeMatch.Fields
import ShapeMatch.Number.Binary64

/-!
# Values

The dynamic values that patterns are matched against: scalars, texts, lists, records and named
functions. Texts, lists and records carry the address they were allocated at. Only
`sharesAllocation` looks at addresses.
-/

namespace ShapeMatch

abbrev Address := Nat

/-- A function value names a routine and has a name of its own to be shown by. -/
structure Callable where
  routine : String
  shown : String
deriving DecidableEq, Inhabited

inductive Value where
  | null
  | bool (b : Bool)
  | int (n : Int64)
  | float (x : Binary64)
  | str (address : Address) (text : String)
  | list (address : Address) (items : List Value)
  | record (address : Address) (fields : Fields Value none)
  | function (callable : Callable)
deriving Inhabited

namespace Value

def ofPairs (address : Address) (pairs : List (String × Value)) : Value :=
  .record address (.ofList pairs)

/-- The tag is written last, so no other field can shadow it. -/
def tagged (address tagAddress : Address) (discriminant tag : String)
    (pairs : List (String × Value)) : Value :=
  .record address ((Fields.ofList pairs).put discriminant (.str tagAddress tag))

def bool? : Value → Option Bool
  | .bool b => some b
  | _ => none

def int? : Value → Option Int64
  | .int n => some n
  | _ => none

/-- An integer widens to the nearest float. -/
def float? : Value → Option Binary64
  | .float x => some x
  | .int n => some (Binary64.ofInt n.toInt)
  | _ => none

def text? : Value → Option String
  | .str _ text => some text
  | _ => none

def items? : Value → Option (List Value)
  | .list _ items => some items
  | _ => none

def fields? : Value → Option (Fields Value none)
  | .record _ fields => some fields
  | _ => none

def isNumber : Value → Bool
  | .int _ | .float _ => true
  | _ => false

def isAggregate : Value → Bool
  | .list _ _ | .record _ _ => true
  | _ => false

def isCallable : Value → Bool
  | .function _ => true
  | _ => false

def isTruthy : Value → Bool
  | .null => false
  | .bool b => b
  | .int n => n != 0
  | .float x => !x.isNaN && !x.isZero
  | .str _ text => !text.isEmpty
  | .list _ _ | .record _ _ | .function _ => true

def typeName : Value → String
  | .null => "null"
  | .bool _ => "bool"
  | .int _ => "int"
  | .float _ => "float"
  | .str _ _ => "str"
  | .list _ _ => "list"
  | .record _ _ => "record"
  | .function _ => "function"

/-- Scalars other than texts have no allocation and share none. -/
def sharesAllocation : Value → Value → Bool
  | .str a _, .str b _ => a == b
  | .list a _, .list b _ => a == b
  | .record a _, .record b _ => a == b
  | _, _ => false

end Value

end ShapeMatch
