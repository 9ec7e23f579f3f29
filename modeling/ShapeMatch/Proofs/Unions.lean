import ShapeMatch.Union

/-!
# Declared tags

A declaration is refused for the first of its defects and otherwise yields a union with the data
given. As its tags are distinct, a tag and its position determine each other. So a union is known by
its discriminant and the positions it answers with. A refinement is refused for its first tag that
is not declared, and otherwise tells whether a value carries one of its tags.
-/

namespace ShapeMatch.Union

theorem firstRepeated?_eq_some_iff (seen tags : List String) (tag : String) :
    firstRepeated? seen tags = some tag ↔
      ∃ before after, tags = before ++ tag :: after ∧ firstRepeated? seen before = none ∧
        (tag ∈ seen ∨ tag ∈ before) := by
  -- What has been passed over moves into `seen`, so the induction is over all lists seen before.
  induction tags generalizing seen with
  | nil => simp [firstRepeated?]
  | cons first rest ih =>
    by_cases known : first ∈ seen
    · rw [firstRepeated?, if_pos known]
      constructor
      · intro same
        obtain rfl : first = tag := Option.some.inj same
        exact ⟨[], rest, rfl, rfl, .inl known⟩
      · rintro ⟨before, after, tags_eq, passed, -⟩
        cases before with
        | nil => rw [(List.cons.inj tags_eq).1]
        | cons other before =>
          obtain rfl : first = other := (List.cons.inj tags_eq).1
          simp [firstRepeated?, known] at passed
    · rw [firstRepeated?, if_neg known, ih]
      constructor
      · rintro ⟨before, after, rest_eq, passed, again⟩
        refine ⟨first :: before, after, congrArg (first :: ·) rest_eq, ?_, ?_⟩
        · rwa [firstRepeated?, if_neg known]
        · simpa [or_left_comm, or_assoc] using again
      · rintro ⟨before, after, tags_eq, passed, again⟩
        cases before with
        | nil =>
          obtain rfl : first = tag := (List.cons.inj tags_eq).1
          simp [known] at again
        | cons other before =>
          obtain ⟨rfl, rest_eq⟩ := List.cons.inj tags_eq
          rw [firstRepeated?, if_neg known] at passed
          exact ⟨before, after, rest_eq, passed, by simpa [or_left_comm, or_assoc] using again⟩

/-- Earlier defects hide later ones, and of the tags that are declared again the first counts. -/
inductive FirstDefect (discriminant : String) (tags : List String) : Defect → Prop
  | noDiscriminant (unnamed : discriminant = "") : FirstDefect discriminant tags .noDiscriminant
  | noTags (named : discriminant ≠ "") (empty : tags = []) : FirstDefect discriminant tags .noTags
  | repeatedTag (named : discriminant ≠ "") (before : List String) (tag : String)
      (after : List String) (tags_eq : tags = before ++ tag :: after) (distinct : before.Nodup)
      (again : tag ∈ before) : FirstDefect discriminant tags (.repeatedTag tag)

variable {discriminant : String} {tags : List String}

theorem defect?_eq_some_iff (defect : Defect) :
    defect? discriminant tags = some defect ↔ FirstDefect discriminant tags defect := by
  unfold defect?
  constructor
  · intro h
    split at h
    · next unnamed => exact Option.some.inj h ▸ .noDiscriminant unnamed
    · next named =>
      split at h
      · next empty => exact Option.some.inj h ▸ .noTags named empty
      · obtain ⟨tag, found, rfl⟩ := Option.map_eq_some_iff.1 h
        obtain ⟨before, after, tags_eq, passed, again⟩ :=
          (firstRepeated?_eq_some_iff [] tags tag).1 found
        have distinct : before.Nodup := ((firstRepeated?_eq_none_iff [] before).1 passed).1
        exact .repeatedTag named before tag after tags_eq distinct (by simpa using again)
  · intro first
    cases first with
    | noDiscriminant unnamed => rw [if_pos unnamed]
    | noTags named empty => rw [if_neg named, if_pos empty]
    | repeatedTag named before tag after tags_eq distinct again =>
      have passed : firstRepeated? [] before = none :=
        (firstRepeated?_eq_none_iff [] before).2 ⟨distinct, by simp⟩
      have found : firstRepeated? [] tags = some tag :=
        (firstRepeated?_eq_some_iff [] tags tag).2 ⟨before, after, tags_eq, passed, .inr again⟩
      have not_empty : tags ≠ [] := by simp [tags_eq]
      rw [if_neg named, if_neg not_empty, found, Option.map_some]

theorem declare_eq_error_iff (e : MatchError) :
    declare discriminant tags = .error e ↔
      ∃ defect, FirstDefect discriminant tags defect ∧
        e = (Cause.invalidUnion defect.reason).error := by
  simp only [← defect?_eq_some_iff]
  unfold declare
  split
  · next defect found => simp [found, eq_comm]
  · next sound => simp [sound]

theorem declare_eq_ok_iff (u : Union) :
    declare discriminant tags = .ok u ↔ u.discriminant = discriminant ∧ u.tags = tags := by
  constructor
  · intro h
    unfold declare at h
    split at h
    · cases h
    · exact Except.ok.inj h ▸ ⟨rfl, rfl⟩
  · rintro ⟨same_name, same_tags⟩
    subst same_name same_tags
    have sound : defect? u.discriminant u.tags = none :=
      (defect?_eq_none_iff _ _).2 ⟨u.discriminant_ne, u.tags_ne, u.distinct⟩
    unfold declare
    split
    · next found => simp [sound] at found
    · rfl

theorem exists_declare_iff :
    (∃ u, declare discriminant tags = .ok u) ↔ discriminant ≠ "" ∧ tags ≠ [] ∧ tags.Nodup := by
  simp only [declare_eq_ok_iff]
  constructor
  · rintro ⟨u, same_name, same_tags⟩
    exact same_name ▸ same_tags ▸ ⟨u.discriminant_ne, u.tags_ne, u.distinct⟩
  · rintro ⟨named, not_empty, distinct⟩
    exact ⟨⟨discriminant, tags, named, not_empty, distinct⟩, rfl, rfl⟩

theorem eq_iff (u w : Union) : u = w ↔ u.discriminant = w.discriminant ∧ u.tags = w.tags := by
  cases u
  cases w
  simp

theorem getElem_of_position? {u : Union} {tag : String} {index : Nat}
    (h : u.position? tag = some index) : ∃ hi : index < u.tags.length, u.tags[index] = tag := by
  obtain ⟨hi, same, -⟩ := List.idxOf?_eq_some_iff.1 h
  exact ⟨hi, same⟩

theorem position?_eq_some_iff (u : Union) (tag : String) (index : Nat) :
    u.position? tag = some index ↔ u.tags[index]? = some tag := by
  rw [List.getElem?_eq_some_iff]
  constructor
  · exact getElem_of_position?
  · rintro ⟨hi, same⟩
    exact same ▸ u.position?_getElem index hi

theorem exists_position? {u : Union} {tag : String} (declared : tag ∈ u.tags) :
    ∃ index, u.position? tag = some index ∧ u.require tag = .ok index := by
  obtain ⟨index, hindex⟩ := Option.isSome_iff_exists.1 ((u.contains_iff_mem tag).2 declared)
  exact ⟨index, hindex, (u.require_eq_ok_iff tag index).2 hindex⟩

theorem require_of_undeclared {u : Union} {tag : String} (undeclared : tag ∉ u.tags) :
    u.require tag = .error (Cause.undeclaredTag tag).error :=
  (u.require_eq_error_iff tag _).2 ⟨undeclared, rfl⟩

theorem eq_iff_position? (u w : Union) :
    u = w ↔ u.discriminant = w.discriminant ∧ ∀ tag, u.position? tag = w.position? tag := by
  constructor
  · intro same
    exact same ▸ ⟨rfl, fun _ => rfl⟩
  · rintro ⟨same_name, same_positions⟩
    refine (eq_iff u w).2 ⟨same_name, List.ext_getElem? fun index => Option.ext fun tag => ?_⟩
    rw [← position?_eq_some_iff, same_positions, position?_eq_some_iff]

section Refinement

variable (u : Union) {tags : List String}

def carries (tags : List String) (v : Value) : Bool :=
  (v.tag? u.discriminant).any (tags.contains ·)

theorem carries_iff (v : Value) :
    u.carries tags v = true ↔ ∃ tag ∈ tags, v.tag? u.discriminant = some tag := by
  simp [carries, Option.any_eq_true, and_comm]

theorem carries_congr {others : List String} (h : ∀ tag, tag ∈ tags ↔ tag ∈ others) (v : Value) :
    u.carries tags v = u.carries others v := by
  rw [Bool.eq_iff_iff, carries_iff, carries_iff]
  simp only [h]

def FirstUndeclared (tags : List String) (tag : String) : Prop :=
  ∃ before after, tags = before ++ tag :: after ∧ (∀ t ∈ before, t ∈ u.tags) ∧ tag ∉ u.tags

theorem find?_not_contains_iff (tag : String) :
    tags.find? (!u.contains ·) = some tag ↔ u.FirstUndeclared tags tag := by
  simp only [List.find?_eq_some_iff_append, FirstUndeclared, Bool.not_not, Bool.not_eq_true',
    Bool.eq_false_iff, ne_eq, contains_iff_mem]
  constructor
  · rintro ⟨undeclared, before, after, tags_eq, declared⟩
    exact ⟨before, after, tags_eq, declared, undeclared⟩
  · rintro ⟨before, after, tags_eq, declared, undeclared⟩
    exact ⟨undeclared, before, after, tags_eq, declared⟩

theorem refinement_eq_error_iff (e : MatchError) :
    u.refinement tags = .error e ↔
      ∃ tag, u.FirstUndeclared tags tag ∧ e = (Cause.undeclaredTag tag).error := by
  simp only [← find?_not_contains_iff]
  unfold refinement
  split
  · next tag found => simp [found, eq_comm]
  · next found => simp [found]

variable {u}

theorem test_refinement {m : Matcher} (hm : u.refinement tags = .ok m) (v : Value) :
    m.test v = pure (u.carries tags v) := by
  unfold refinement at hm
  split at hm
  · cases hm
  · exact Except.ok.inj hm ▸ rfl

theorem exists_refinement (declared : ∀ tag ∈ tags, tag ∈ u.tags) :
    ∃ m, u.refinement tags = .ok m ∧ ∀ v, m.test v = pure (u.carries tags v) := by
  cases h : u.refinement tags with
  | ok m => exact ⟨m, rfl, test_refinement h⟩
  | error e =>
    obtain ⟨tag, ⟨before, after, rfl, -, undeclared⟩, -⟩ := (u.refinement_eq_error_iff e).1 h
    exact absurd (declared tag (by simp)) undeclared

end Refinement

theorem declaration_indexes_tags (discriminant : String) (tags : List String) :
    ((∃ u, declare discriminant tags = .ok u) ↔
        discriminant ≠ "" ∧ tags ≠ [] ∧ tags.Nodup) ∧
      (∀ e, declare discriminant tags = .error e ↔
        ∃ defect, FirstDefect discriminant tags defect ∧
          e = (Cause.invalidUnion defect.reason).error) ∧
      ∀ u, declare discriminant tags = .ok u →
        u.discriminant = discriminant ∧ u.tags = tags ∧
          (∀ index (hi : index < tags.length), u.position? tags[index] = some index) ∧
          (∀ tag index, u.position? tag = some index →
            ∃ hi : index < tags.length, tags[index] = tag) ∧
          (∀ tag, u.contains tag = true ↔ tag ∈ tags) ∧
          ∀ w : Union,
            u = w ↔ u.discriminant = w.discriminant ∧ ∀ tag, u.position? tag = w.position? tag := by
  refine ⟨exists_declare_iff, declare_eq_error_iff, fun u declared => ?_⟩
  obtain ⟨rfl, rfl⟩ := (declare_eq_ok_iff u).1 declared
  exact ⟨rfl, rfl, u.position?_getElem, fun _ _ => getElem_of_position?, u.contains_iff_mem,
    u.eq_iff_position?⟩

theorem declaration_indexes_tags_of_two_repetitions :
    let twice : List String := ["left", "right", "right", "left"]
    let u : Union := ⟨"type", ["left", "right", "both"], by decide, by decide, by decide⟩
    declare "type" twice = .error (Cause.invalidUnion "tag `right` declared twice").error ∧
      declare "" twice =
        .error (Cause.invalidUnion "discriminant field name is empty").error ∧
      declare "type" [] = .error (Cause.invalidUnion "no tags declared").error ∧
      declare "type" ["left", "right", "both"] = .ok u ∧ u.position? "both" = some 2 := by
  intro twice u
  have declared : declare "type" ["left", "right", "both"] = .ok u := rfl
  obtain ⟨-, repeated, -⟩ := declaration_indexes_tags "type" twice
  obtain ⟨-, unnamed, -⟩ := declaration_indexes_tags "" twice
  obtain ⟨-, untagged, -⟩ := declaration_indexes_tags "type" []
  obtain ⟨-, -, indexed⟩ := declaration_indexes_tags "type" ["left", "right", "both"]
  obtain ⟨-, -, positions, -⟩ := indexed u declared
  refine ⟨(repeated _).2 ⟨.repeatedTag "right", ?_, rfl⟩, (unnamed _).2 ⟨_, .noDiscriminant rfl, rfl⟩,
    (untagged _).2 ⟨_, .noTags (by decide) rfl, rfl⟩, declared, positions 2 (by decide)⟩
  exact .repeatedTag (by decide) ["left", "right"] "right" ["left"] rfl (by decide) (by decide)

end ShapeMatch.Union
