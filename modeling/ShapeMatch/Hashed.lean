import ShapeMatch.Fields

/-!
# Hashed fields

A finite map from names to contents as a hash table hands it out: every name once, in an order that
depends on how the table was filled and that nothing may rely on. Entries that are shown in order
are sorted by name first.
-/

namespace ShapeMatch

/-- None of the names is among those that are `taken`. -/
inductive Hashed (α : Type) : (taken : List String) → Type where
  | nil {taken : List String} : Hashed α taken
  | cons {taken : List String} (name : String) (fresh : name ∉ taken) (content : α)
      (rest : Hashed α (name :: taken)) : Hashed α taken

def sortByName {α : Type} (entries : List (String × α)) : List (String × α) :=
  entries.mergeSort fun a b => decide (a.1 ≤ b.1)

namespace Hashed

variable {α : Type} {taken : List String}

def toList : {taken : List String} → Hashed α taken → List (String × α)
  | _, .nil => []
  | _, .cons name _ content rest => (name, content) :: rest.toList

def names (fields : Hashed α taken) : List String := fields.toList.map (·.1)

def size (fields : Hashed α taken) : Nat := fields.toList.length

def get? (key : String) : {taken : List String} → Hashed α taken → Option α
  | _, .nil => none
  | _, .cons name _ content rest => if key = name then some content else rest.get? key

def weaken : {taken fewer : List String} → fewer ⊆ taken → Hashed α taken → Hashed α fewer
  | _, _, _, .nil => .nil
  | _, _, h, .cons name fresh content rest =>
    .cons name (fun hn => fresh (h hn)) content (rest.weaken (List.cons_subset_cons name h))

def erase (key : String) : {taken : List String} → Hashed α taken → Hashed α (key :: taken)
  | _, .nil => .nil
  | taken, .cons name fresh content rest =>
    if same : name = key then same ▸ rest
    else
      .cons name (fun hn => (List.mem_cons.1 hn).elim same fresh) content
        ((rest.erase key).weaken (List.Perm.swap key name taken).subset)

/-- Writes a content over what the name had before. The table may hand its entries out in any other
order after that; this is one of them. -/
def insert (fields : Hashed α []) (key : String) (content : α) : Hashed α [] :=
  .cons key List.not_mem_nil content (fields.erase key)

def ofList (pairs : List (String × α)) : Hashed α [] :=
  pairs.foldl (fun fields pair => fields.insert pair.1 pair.2) .nil

/-- What a table can be after the pairs have been inserted one after the other: each insertion
leaves the other names as they are, and the order of all entries is open. -/
inductive Filled : List (String × α) → Hashed α [] → Prop
  | empty : Filled [] .nil
  | insert {pairs : List (String × α)} {before after : Hashed α []} {key : String} {content : α}
      (filled : Filled pairs before)
      (entries : after.toList.Perm
        ((key, content) :: before.toList.filter fun field => field.1 ≠ key)) :
      Filled (pairs ++ [(key, content)]) after

end Hashed

end ShapeMatch
