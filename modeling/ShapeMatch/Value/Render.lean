import ShapeMatch.Number.Shortest
import ShapeMatch.Text.Listing
import ShapeMatch.Text.Quoted
import ShapeMatch.Value.Basic

/-!
# Texts of values

`display` is the text for readers: contents of texts as they are, and fields by their bare names.
`debug` names the kind of every part and quotes texts and names.
-/

namespace ShapeMatch.Value

open Listing

mutual

def display : Value → String
  | .null => "null"
  | .bool b => if b then "true" else "false"
  | .int n => n.toInt.repr
  | .float x => x.render
  | .str _ text => "\x22" ++ text ++ "\x22"
  | .list _ items => bracketed (displayItems items)
  | .record _ fields => braced (displayFields fields)
  | .function f => "<function " ++ f.shown ++ ">"

def displayItems : List Value → List String
  | [] => []
  | v :: vs => v.display :: displayItems vs

def displayFields : {bound : Bound} → Fields Value bound → List String
  | _, .nil => []
  | _, .cons name _ v rest => entry name v.display :: displayFields rest

end

mutual

def debug : Value → String
  | .null => "Null"
  | .bool b => applied "Bool" [if b then "true" else "false"]
  | .int n => applied "Int" [n.toInt.repr]
  | .float x => applied "Float" [x.render]
  | .str _ text => applied "Str" [Quoted.encode text]
  | .list _ items => applied "List" [bracketed (debugItems items)]
  | .record _ fields => applied "Record" [braced (debugFields fields)]
  | .function f => applied "FunctionVal" [f.shown]

def debugItems : List Value → List String
  | [] => []
  | v :: vs => v.debug :: debugItems vs

def debugFields : {bound : Bound} → Fields Value bound → List String
  | _, .nil => []
  | _, .cons name _ v rest => entry (Quoted.encode name) v.debug :: debugFields rest

end

/-- The content of a text or a list alone, without the name of its kind. -/
def debugContent? : Value → Option String
  | .str _ text => some (Quoted.encode text)
  | .list _ items => some (bracketed (debugItems items))
  | _ => none

theorem displayItems_eq_map (items : List Value) : displayItems items = items.map display := by
  induction items with
  | nil => rfl
  | cons v vs ih => rw [displayItems, ih, List.map_cons]

theorem displayFields_eq_map {bound : Bound} (fields : Fields Value bound) :
    displayFields fields = fields.toList.map fun field => entry field.1 field.2.display := by
  induction fields with
  | nil => rfl
  | cons name _ v rest ih => rw [displayFields, ih, Fields.toList, List.map_cons]

theorem debugItems_eq_map (items : List Value) : debugItems items = items.map debug := by
  induction items with
  | nil => rfl
  | cons v vs ih => rw [debugItems, ih, List.map_cons]

theorem debugFields_eq_map {bound : Bound} (fields : Fields Value bound) :
    debugFields fields =
      fields.toList.map fun field => entry (Quoted.encode field.1) field.2.debug := by
  induction fields with
  | nil => rfl
  | cons name _ v rest ih => rw [debugFields, ih, Fields.toList, List.map_cons]

example :
    display (.list 0 [.int (-1), .str 1 "a", .null]) = "[-1, \x22a\x22, null]" := by
  decide +kernel

example :
    debug (.record 0 (.ofList [("k", .bool true)])) =
      "Record(\x7b\x22k\x22: Bool(true)\x7d)" := by
  decide +kernel

end ShapeMatch.Value
