import ShapeMatch.Matcher
import ShapeMatch.Text.Quoted
import ShapeMatch.Value.Lookup

/-!
# Unions

A union declares the closed list of tags that a value may carry in its discriminant field. Case
chains and tables check their coverage against it, and keep what belongs to a tag at the position
where the tag is declared.
-/

namespace ShapeMatch

structure Union where
  discriminant : String
  tags : List String
  discriminant_ne : discriminant ≠ ""
  tags_ne : tags ≠ []
  distinct : tags.Nodup
deriving DecidableEq

namespace Union

def firstRepeated? (seen : List String) : List String → Option String
  | [] => none
  | tag :: rest => if tag ∈ seen then some tag else firstRepeated? (tag :: seen) rest

theorem firstRepeated?_eq_none_iff (seen tags : List String) :
    firstRepeated? seen tags = none ↔ tags.Nodup ∧ ∀ tag ∈ tags, tag ∉ seen := by
  induction tags generalizing seen with
  | nil => simp [firstRepeated?]
  | cons tag rest ih =>
    rw [firstRepeated?]
    by_cases h : tag ∈ seen
    · simp [h]
    · rw [if_neg h, ih, List.nodup_cons]
      constructor
      · rintro ⟨hnodup, hseen⟩
        refine ⟨⟨fun hmem => ?_, hnodup⟩, fun t ht => ?_⟩
        · exact hseen tag hmem (List.mem_cons_self ..)
        · rcases List.mem_cons.1 ht with rfl | ht
          · exact h
          · exact fun hs => hseen t ht (List.mem_cons_of_mem _ hs)
      · rintro ⟨⟨hnot, hnodup⟩, hseen⟩
        refine ⟨hnodup, fun t ht hs => ?_⟩
        rcases List.mem_cons.1 hs with rfl | hs
        · exact hnot ht
        · exact hseen t (List.mem_cons_of_mem _ ht) hs

inductive Defect where
  | noDiscriminant
  | noTags
  | repeatedTag (tag : String)
deriving DecidableEq

def Defect.reason : Defect → String
  | noDiscriminant => "discriminant field name is empty"
  | noTags => "no tags declared"
  | repeatedTag tag => "tag `" ++ tag ++ "` declared twice"

def defect? (discriminant : String) (tags : List String) : Option Defect :=
  if discriminant = "" then some .noDiscriminant
  else if tags = [] then some .noTags
  else (firstRepeated? [] tags).map .repeatedTag

theorem defect?_eq_none_iff (discriminant : String) (tags : List String) :
    defect? discriminant tags = none ↔ discriminant ≠ "" ∧ tags ≠ [] ∧ tags.Nodup := by
  unfold defect?
  split
  · simp_all
  · split
    · simp_all
    · simp_all [firstRepeated?_eq_none_iff]

def declare (discriminant : String) (tags : List String) : Except MatchError Union :=
  match h : defect? discriminant tags with
  | some defect => .error (Cause.invalidUnion defect.reason).error
  | none =>
    have sound := (defect?_eq_none_iff discriminant tags).1 h
    .ok ⟨discriminant, tags, sound.1, sound.2.1, sound.2.2⟩

def position? (u : Union) (tag : String) : Option Nat := u.tags.idxOf? tag

def contains (u : Union) (tag : String) : Bool := (u.position? tag).isSome

def require (u : Union) (tag : String) : Except MatchError Nat :=
  match u.position? tag with
  | some index => .ok index
  | none => .error (Cause.undeclaredTag tag).error

def variant (u : Union) (address tagAddress : Address) (tag : String)
    (pairs : List (String × Value)) : Except MatchError Value := do
  let _ ← u.require tag
  pure (.tagged address tagAddress u.discriminant tag pairs)

def tagOf (u : Union) (v : Value) : Except MatchError String :=
  match v.tag? u.discriminant with
  | some tag => .ok tag
  | none => .error (Cause.missingDiscriminant u.discriminant).error

/-- The declared tags whose place in `marks` holds `mark`. -/
def tagsMarked (u : Union) (mark : Bool) (marks : List Bool) : List String :=
  ((u.tags.zip marks).filter (·.2 == mark)).map (·.1)

def refinement (u : Union) (tags : List String) : Except MatchError Matcher :=
  match tags.find? (!u.contains ·) with
  | some tag => .error (Cause.undeclaredTag tag).error
  | none =>
    .ok (.ofTest (Listing.applied "refinement" [String.intercalate " | " tags.eraseDups])
      fun v => (v.tag? u.discriminant).any (tags.contains ·))

def debug (u : Union) : String :=
  Listing.named "Union"
    [("discriminant", Quoted.encode u.discriminant),
     ("tags", Listing.bracketed (u.tags.map Quoted.encode))]

theorem position?_getElem (u : Union) (i : Nat) (h : i < u.tags.length) :
    u.position? u.tags[i] = some i := by
  refine List.idxOf?_eq_some_iff.2 ⟨h, rfl, fun j hj e => ?_⟩
  exact absurd ((List.getElem_inj u.distinct).1 e) (Nat.ne_of_lt hj)

theorem require_eq_ok_iff (u : Union) (tag : String) (i : Nat) :
    u.require tag = .ok i ↔ u.position? tag = some i := by
  unfold require
  cases u.position? tag <;> simp

theorem require_eq_error_iff (u : Union) (tag : String) (e : MatchError) :
    u.require tag = .error e ↔ tag ∉ u.tags ∧ e = (Cause.undeclaredTag tag).error := by
  unfold require position?
  cases h : u.tags.idxOf? tag with
  | none => simp [List.idxOf?_eq_none_iff.1 h, eq_comm]
  | some i =>
    obtain ⟨hi, rfl, -⟩ := List.idxOf?_eq_some_iff.1 h
    simp

theorem contains_iff_mem (u : Union) (tag : String) : u.contains tag = true ↔ tag ∈ u.tags := by
  rw [contains, position?, Option.isSome_iff_ne_none, ne_eq, List.idxOf?_eq_none_iff,
    Decidable.not_not]

end Union

end ShapeMatch
