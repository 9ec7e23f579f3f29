import ShapeMatch.Pattern.Accepts
import ShapeMatch.Union
import ShapeMatch.Value.Render

/-!
# Chains of cases

A chain tries cases on one value in the order in which they are added. The first case whose tag is
the value's tag and whose pattern accepts the value runs its handler, and later cases only count
as covered. A chain ends in its result or reports the tags that no case covers.
-/

namespace ShapeMatch

structure Case (α : Type) where
  tag : String
  pattern : Pattern
  handler : Handler α

inductive CaseState (α : Type) where
  | searching
  | resolved (result : α)

structure CaseChain (α : Type) where
  union : Union
  value : Value
  state : CaseState α
  /-- One mark for each declared tag, in the order of declaration. -/
  covered : List Bool

namespace CaseState

variable {α : Type}

def result? : CaseState α → Option α
  | searching => none
  | resolved result => some result

def debug (showResult : α → String) : CaseState α → String
  | searching => "Searching"
  | resolved result => Listing.applied "Resolved" [showResult result]

end CaseState

namespace CaseChain

variable {α : Type}

def start (union : Union) (value : Value) : CaseChain α :=
  ⟨union, value, .searching, List.replicate union.tags.length false⟩

def tag? (chain : CaseChain α) : Option String := chain.value.tag? chain.union.discriminant

def cover (chain : CaseChain α) (index : Nat) : CaseChain α :=
  { chain with covered := chain.covered.set index true }

def attempt (routines : Routines) (config : Config) (chain : CaseChain α) (c : Case α) :
    Run (CaseChain α) :=
  match chain.state with
  | .resolved _ => pure chain
  | .searching =>
    if chain.tag? = some c.tag then do
      if ← c.pattern.accepts routines config chain.value then
        let result ← ExceptT.lift (c.handler chain.value)
        pure { chain with state := .resolved result }
      else pure chain
    else pure chain

/-- The tag of an added case is covered, whether the case is taken or not. -/
def add (routines : Routines) (config : Config) (chain : CaseChain α) (c : Case α) :
    Run (CaseChain α) := do
  let index ← chain.union.require c.tag
  (chain.cover index).attempt routines config c

def addAll (routines : Routines) (config : Config) (chain : CaseChain α) (cases : List (Case α)) :
    Run (CaseChain α) :=
  cases.foldlM (add routines config) chain

def result? (chain : CaseChain α) : Option α := chain.state.result?

def isResolved (chain : CaseChain α) : Bool := chain.result?.isSome

def coveredTags (chain : CaseChain α) : List String := chain.union.tagsMarked true chain.covered

def missingTags (chain : CaseChain α) : List String := chain.union.tagsMarked false chain.covered

/-- The result of a chain that claims to cover every declared tag. -/
def exhaustive (chain : CaseChain α) : Except MatchError α :=
  if chain.missingTags ≠ [] then .error (Cause.incompleteCases chain.missingTags).error
  else
    match chain.state with
    | .resolved result => .ok result
    | .searching => .error (Cause.unresolvedExhaustive chain.tag?).error

def debug (showResult : α → String) (chain : CaseChain α) : String :=
  Listing.named "CaseBuilder"
    [("union", chain.union.debug), ("value", chain.value.debug),
     ("state", chain.state.debug showResult),
     ("covered", Listing.bracketed (chain.covered.map fun mark => (Value.bool mark).display))]

end CaseChain

end ShapeMatch
