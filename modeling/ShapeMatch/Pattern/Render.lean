import ShapeMatch.Pattern.Basic
import ShapeMatch.Value.Render

/-!
# Texts of patterns

A matcher is shown by its name, everything else like a value of the same shape.
-/

namespace ShapeMatch.Pattern

open Listing

mutual

def display : Pattern → String
  | .literal v => v.display
  | .predicate matcher => matcher.name
  | .fields entries => braced (displayEntries entries)
  | .sequence items => bracketed (displayItems items)

def displayEntries : List (String × Pattern) → List String
  | [] => []
  | (name, p) :: rest => entry name p.display :: displayEntries rest

def displayItems : List Pattern → List String
  | [] => []
  | p :: ps => p.display :: displayItems ps

end

mutual

def debug : Pattern → String
  | .literal v => applied "Literal" [v.debug]
  | .predicate matcher => applied "Predicate" [matcher.debug]
  | .fields entries => applied "Fields" [bracketed (debugEntries entries)]
  | .sequence items => applied "Sequence" [bracketed (debugItems items)]

def debugEntries : List (String × Pattern) → List String
  | [] => []
  | (name, p) :: rest => applied "" [Quoted.encode name, p.debug] :: debugEntries rest

def debugItems : List Pattern → List String
  | [] => []
  | p :: ps => p.debug :: debugItems ps

end

theorem displayEntries_eq_map (entries : List (String × Pattern)) :
    displayEntries entries = entries.map fun entry => Listing.entry entry.1 entry.2.display := by
  induction entries with
  | nil => rfl
  | cons entry rest ih => rw [displayEntries, ih, List.map_cons]

theorem displayItems_eq_map (items : List Pattern) : displayItems items = items.map display := by
  induction items with
  | nil => rfl
  | cons p rest ih => rw [displayItems, ih, List.map_cons]

end ShapeMatch.Pattern
