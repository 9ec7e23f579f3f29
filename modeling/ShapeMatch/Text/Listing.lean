/-!
# Listings

The brackets and separators around the texts of a value's parts.
-/

namespace ShapeMatch.Listing

def commas (items : List String) : String := String.intercalate ", " items

def bracketed (items : List String) : String := "[" ++ commas items ++ "]"

def braced (items : List String) : String := "\x7b" ++ commas items ++ "\x7d"

def entry (key text : String) : String := key ++ ": " ++ text

def applied (head : String) (items : List String) : String := head ++ "(" ++ commas items ++ ")"

def named (head : String) (parts : List (String × String)) : String :=
  head ++ " \x7b " ++ commas (parts.map fun part => entry part.1 part.2) ++ " \x7d"

end ShapeMatch.Listing
