import ShapeMatch.Config
import ShapeMatch.Pattern.Basic
import ShapeMatch.Value.Equality
import ShapeMatch.Value.Lookup

/-!
# Acceptance

Whether a pattern accepts a value. Parts are tested in the order in which the pattern lists them,
up to the first that is not accepted; a part that the value lacks is not accepted. Each list of
parts is one level deeper than the pattern that holds it, and the depth is tested before anything
else.
-/

namespace ShapeMatch.Pattern

def withinLimit (limit depth : Nat) : Run Unit :=
  if limit < depth then fail (.depthLimitExceeded limit) else pure ()

def ofAggregate (v : Value) (parts : Run Bool) : Run Bool :=
  if v.isAggregate then parts else pure false

def onPart (part? : Option Value) (test : Value → Run Bool) : Run Bool :=
  match part? with
  | some part => test part
  | none => pure false

/-- A function is called with the value, and its failure ends the match. Null accepts nothing. -/
def acceptsLeaf (routines : Routines) : Value → Value → Run Bool
  | .function f, v => do
    match ← ExceptT.lift ((Value.function f).call routines [v]) with
    | .ok result => pure result.isTruthy
    | .error message => fail (.predicateFailure f.shown message)
  | .null, _ => pure false
  | leaf, v => pure (leaf.equals v)

mutual

/-- Whether plain data, read as the pattern that it lifts to, accepts a value. -/
def acceptsData (routines : Routines) (limit : Nat) : Nat → Value → Value → Run Bool
  | depth, .list _ items, v => do
    withinLimit limit depth
    ofAggregate v (acceptsDataItems routines limit depth 0 items v)
  | depth, .record _ members, v => do
    withinLimit limit depth
    ofAggregate v (acceptsDataFields routines limit depth members v)
  | depth, leaf, v => do
    withinLimit limit depth
    acceptsLeaf routines leaf v

def acceptsDataItems (routines : Routines) (limit depth : Nat) :
    Nat → List Value → Value → Run Bool
  | _, [], _ => pure true
  | index, item :: rest, v =>
    Run.both (onPart (v.at? index) (acceptsData routines limit (depth + 1) item))
      (acceptsDataItems routines limit depth (index + 1) rest v)

def acceptsDataFields (routines : Routines) (limit depth : Nat) :
    {bound : Bound} → Fields Value bound → Value → Run Bool
  | _, .nil, _ => pure true
  | _, .cons name _ content rest, v =>
    Run.both (onPart (v.get? name) (acceptsData routines limit (depth + 1) content))
      (acceptsDataFields routines limit depth rest v)

end

mutual

/-- A list or record literal accepts its own allocation at once. -/
def acceptsFrom (routines : Routines) (limit : Nat) : Nat → Pattern → Value → Run Bool
  | depth, .literal data, v => do
    withinLimit limit depth
    if data.isAggregate && data.sharesAllocation v then pure true
    else acceptsData routines limit depth data v
  | depth, .predicate matcher, v => do
    withinLimit limit depth
    matcher.test v
  | depth, .fields entries, v => do
    withinLimit limit depth
    ofAggregate v (acceptsEntries routines limit depth entries v)
  | depth, .sequence items, v => do
    withinLimit limit depth
    ofAggregate v (acceptsItems routines limit depth 0 items v)

def acceptsEntries (routines : Routines) (limit depth : Nat) :
    List (String × Pattern) → Value → Run Bool
  | [], _ => pure true
  | (name, p) :: rest, v =>
    Run.both (onPart (v.get? name) (acceptsFrom routines limit (depth + 1) p))
      (acceptsEntries routines limit depth rest v)

def acceptsItems (routines : Routines) (limit depth : Nat) :
    Nat → List Pattern → Value → Run Bool
  | _, [], _ => pure true
  | index, p :: rest, v =>
    Run.both (onPart (v.at? index) (acceptsFrom routines limit (depth + 1) p))
      (acceptsItems routines limit depth (index + 1) rest v)

end

def accepts (routines : Routines) (config : Config) (pattern : Pattern) (value : Value) :
    Run Bool :=
  acceptsFrom routines config.maxDepth 0 pattern value

theorem withinLimit_twice (limit depth : Nat) (rest : Run Bool) :
    (do withinLimit limit depth; withinLimit limit depth; rest) =
      (do withinLimit limit depth; rest) := by
  unfold withinLimit
  split <;> rfl

mutual

theorem acceptsFrom_ofValue (routines : Routines) (limit depth : Nat) :
    (data v : Value) →
      acceptsFrom routines limit depth (ofValue data) v = acceptsData routines limit depth data v
  | .list _ items, v => by
    rw [ofValue, acceptsFrom, acceptsData, acceptsItems_ofItems routines limit depth 0 items v]
  | .record _ members, v => by
    rw [ofValue, acceptsFrom, acceptsData, acceptsEntries_ofFields routines limit depth members v]
  | .null, _ | .bool _, _ | .int _, _ | .float _, _ | .str _ _, _ | .function _, _ => by
    rw [ofValue, acceptsFrom, acceptsData, Value.isAggregate]
    · exact withinLimit_twice limit depth _
    all_goals simp

theorem acceptsItems_ofItems (routines : Routines) (limit depth index : Nat) :
    (items : List Value) → (v : Value) →
      acceptsItems routines limit depth index (ofItems items) v =
        acceptsDataItems routines limit depth index items v
  | [], _ => rfl
  | item :: rest, v => by
    rw [ofItems, acceptsItems, acceptsDataItems,
      acceptsItems_ofItems routines limit depth (index + 1) rest v,
      funext (acceptsFrom_ofValue routines limit (depth + 1) item)]

theorem acceptsEntries_ofFields (routines : Routines) (limit depth : Nat) :
    {bound : Bound} → (members : Fields Value bound) → (v : Value) →
      acceptsEntries routines limit depth (ofFields members) v =
        acceptsDataFields routines limit depth members v
  | _, .nil, _ => rfl
  | _, .cons _ _ content rest, v => by
    rw [ofFields, acceptsEntries, acceptsDataFields,
      acceptsEntries_ofFields routines limit depth rest v,
      funext (acceptsFrom_ofValue routines limit (depth + 1) content)]

end

end ShapeMatch.Pattern
