import ShapeMatch.Text.Listing
import ShapeMatch.Text.Quoted

/-!
# Errors

Every failure has a cause, and the cause determines the message. Notes add context that is not
part of the cause.
-/

namespace ShapeMatch

inductive Cause where
  | unmatchedTag (tag : String)
  /-- The value is not a record with a text in its discriminant field. -/
  | missingDiscriminant (discriminant : String)
  | unresolvedExhaustive (tag : Option String)
  | incompleteCases (missing : List String)
  | undeclaredTag (tag : String)
  | predicateFailure (matcher message : String)
  | depthLimitExceeded (limit : Nat)
  | invalidUnion (reason : String)
deriving DecidableEq

structure MatchError where
  cause : Cause
  notes : List String
deriving DecidableEq

namespace Cause

open Listing Quoted

def error (cause : Cause) : MatchError := ⟨cause, []⟩

def ticked (tag : String) : String := "`" ++ tag ++ "`"

def message : Cause → String
  | unmatchedTag tag => "no handler for tag " ++ ticked tag
  | missingDiscriminant discriminant =>
    "value has no string discriminant " ++ ticked discriminant
  | unresolvedExhaustive (some tag) =>
    "exhaustive match resolved no case: every case for tag " ++ ticked tag ++ " rejected the value"
  | unresolvedExhaustive none => "exhaustive match resolved no case: value is untagged"
  | incompleteCases missing =>
    "non-exhaustive cases: missing " ++ (if missing.length = 1 then "tag " else "tags ") ++
      commas (missing.map ticked)
  | undeclaredTag tag => "tag " ++ ticked tag ++ " is not declared"
  | predicateFailure matcher message => "predicate " ++ ticked matcher ++ " failed: " ++ message
  | depthLimitExceeded limit => "pattern nesting exceeds depth limit (" ++ limit.repr ++ ")"
  | invalidUnion reason => "invalid union: " ++ reason

def debug : Cause → String
  | unmatchedTag tag => named "UnmatchedTag" [("tag", encode tag)]
  | missingDiscriminant discriminant =>
    named "MissingDiscriminant" [("discriminant", encode discriminant)]
  | unresolvedExhaustive (some tag) =>
    named "UnresolvedExhaustive" [("tag", applied "Some" [encode tag])]
  | unresolvedExhaustive none => named "UnresolvedExhaustive" [("tag", "None")]
  | incompleteCases missing =>
    named "IncompleteCases" [("missing", bracketed (missing.map encode))]
  | undeclaredTag tag => named "UndeclaredTag" [("tag", encode tag)]
  | predicateFailure matcher message =>
    named "PredicateFailure" [("matcher", encode matcher), ("message", encode message)]
  | depthLimitExceeded limit => named "DepthLimitExceeded" [("limit", limit.repr)]
  | invalidUnion reason => named "InvalidUnion" [("reason", encode reason)]

end Cause

namespace MatchError

def message (e : MatchError) : String := e.cause.message

def withNote (e : MatchError) (note : String) : MatchError :=
  { e with notes := e.notes ++ [note] }

def text (e : MatchError) : String :=
  e.message ++ String.join (e.notes.map ("\n  note: " ++ ·))

end MatchError

end ShapeMatch
