import ShapeMatch.Run
import ShapeMatch.Text.Listing

/-!
# Matchers

A matcher is a named test of values that may fail. The matchers here are the ones every user has.
-/

namespace ShapeMatch

structure Matcher where
  name : String
  test : Value → Run Bool

namespace Matcher

def ofTest (name : String) (test : Value → Bool) : Matcher := ⟨name, fun v => pure (test v)⟩

def any : Matcher := ofTest "any" fun _ => true

def string : Matcher := ofTest "string" fun v => v.text?.isSome

def number : Matcher := ofTest "number" Value.isNumber

def boolean : Matcher := ofTest "boolean" fun v => v.bool?.isSome

def function : Matcher := ofTest "function" Value.isCallable

def array : Matcher := ofTest "array" fun v => v.items?.isSome

def testAll (element : Matcher) : List Value → Run Bool
  | [] => pure true
  | v :: vs => Run.both (element.test v) (testAll element vs)

def arrayOf (element : Matcher) : Matcher where
  name := Listing.applied "arrayOf" [element.name]
  test v := match v.items? with
    | some items => element.testAll items
    | none => pure false

def debug (matcher : Matcher) : String := Listing.applied "Matcher" [matcher.name]

end Matcher

end ShapeMatch
