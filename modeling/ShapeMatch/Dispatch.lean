import ShapeMatch.Union

/-!
# Dispatch tables

A table chooses a handler by the value's tag alone. A total table has a handler for every declared
tag. A partial table has a fallback for all other values.
-/

namespace ShapeMatch

structure HandlerTable (α : Type) where
  union : Union
  slots : List (Option (Handler α))

namespace HandlerTable

variable {α : Type}

def empty (union : Union) : HandlerTable α :=
  ⟨union, List.replicate union.tags.length none⟩

def on (table : HandlerTable α) (tag : String) (handler : Handler α) :
    Except MatchError (HandlerTable α) := do
  let index ← table.union.require tag
  pure { table with slots := table.slots.set index (some handler) }

def handler? (table : HandlerTable α) (tag : String) : Option (Handler α) :=
  (table.union.position? tag).bind fun index => table.slots[index]?.join

def missingTags (table : HandlerTable α) : List String :=
  table.union.tagsMarked false (table.slots.map Option.isSome)

end HandlerTable

structure TotalTable (α : Type) extends HandlerTable α where
  complete : toHandlerTable.missingTags = []

structure PartialTable (α : Type) extends HandlerTable α where
  fallback : Handler α

def HandlerTable.build {α : Type} (table : HandlerTable α) : Except MatchError (TotalTable α) :=
  if h : table.missingTags = [] then .ok { table with complete := h }
  else .error (Cause.incompleteCases table.missingTags).error

namespace TotalTable

variable {α : Type}

def unmatched (table : TotalTable α) (tag : String) : MatchError :=
  (Cause.unmatchedTag tag).error.withNote
    ("declared tags: " ++ Listing.commas table.union.tags)

def apply (table : TotalTable α) (v : Value) : Run α := do
  let tag ← table.union.tagOf v
  match table.handler? tag with
  | some handler => ExceptT.lift (handler v)
  | none => throw (table.unmatched tag)

end TotalTable

namespace PartialTable

variable {α : Type}

def empty (union : Union) (fallback : Handler α) : PartialTable α :=
  { HandlerTable.empty union with fallback }

def on (table : PartialTable α) (tag : String) (handler : Handler α) :
    Except MatchError (PartialTable α) := do
  let handlers ← table.toHandlerTable.on tag handler
  pure { table with toHandlerTable := handlers }

def apply (table : PartialTable α) (v : Value) : Traced α :=
  match (v.tag? table.union.discriminant).bind table.handler? with
  | some handler => handler v
  | none => table.fallback v

end PartialTable

namespace Union

variable {α : Type}

def foreignTable : Cause := .invalidUnion "dispatch table was built for a different union"

def switch (u : Union) (v : Value) (table : TotalTable α) : Run α :=
  if table.union = u then table.apply v else fail foreignTable

def switchPartial (u : Union) (v : Value) (table : PartialTable α) : Run α :=
  if table.union = u then ExceptT.lift (table.apply v) else fail foreignTable

end Union

end ShapeMatch
