import ShapeMatch.Config
import ShapeMatch.Proofs.Numerals

/-!
# Limits from the environment

The environment gives a limit if its bytes are a text that, white space around it apart, spells a
positive number that fits a word. Any other content, or none, leaves the standard limit.
-/

namespace ShapeMatch

namespace Blank

def Surrounds (cs core : List Char) : Prop :=
  ∃ before after, (∀ c ∈ before, isBlank c = true) ∧ (∀ c ∈ after, isBlank c = true) ∧
    cs = before ++ (core ++ after)

theorem dropWhile_append_core {before core : List Char} (after : List Char)
    (blank : ∀ c ∈ before, isBlank c = true) (nonempty : core ≠ [])
    (shows : ∀ c ∈ core, isBlank c = false) :
    (before ++ (core ++ after)).dropWhile isBlank = core ++ after := by
  rw [List.dropWhile_append_of_pos blank]
  obtain ⟨c, rest, rfl⟩ := List.exists_cons_of_ne_nil nonempty
  exact List.dropWhile_cons_of_neg (by rw [shows c List.mem_cons_self]; exact Bool.false_ne_true)

theorem trim_eq_of_surrounds {cs core : List Char} (h : Surrounds cs core) (nonempty : core ≠ [])
    (shows : ∀ c ∈ core, isBlank c = false) : trim cs = core := by
  obtain ⟨before, after, blank_before, blank_after, rfl⟩ := h
  have blank_reversed : ∀ c ∈ after.reverse, isBlank c = true := fun c hc =>
    blank_after c (List.mem_reverse.1 hc)
  have shows_reversed : ∀ c ∈ core.reverse, isBlank c = false := fun c hc =>
    shows c (List.mem_reverse.1 hc)
  have back_dropped := dropWhile_append_core [] blank_reversed
    (mt List.reverse_eq_nil_iff.1 nonempty) shows_reversed
  rw [List.append_nil] at back_dropped
  rw [trim, dropWhile_append_core after blank_before nonempty shows, List.reverse_append,
    back_dropped, List.reverse_reverse]

theorem isBlank_of_mem_takeWhile {cs : List Char} : ∀ c ∈ cs.takeWhile isBlank, isBlank c = true :=
  List.all_eq_true.1 List.all_takeWhile

theorem surrounds_trim (cs : List Char) : Surrounds cs (trim cs) := by
  have back := (List.takeWhile_append_dropWhile (p := isBlank)
    (l := (cs.dropWhile isBlank).reverse)).symm
  refine ⟨cs.takeWhile isBlank, ((cs.dropWhile isBlank).reverse.takeWhile isBlank).reverse,
    isBlank_of_mem_takeWhile, fun c hc => isBlank_of_mem_takeWhile c (List.mem_reverse.1 hc), ?_⟩
  rw [trim, ← List.reverse_append, ← back, List.reverse_reverse, List.takeWhile_append_dropWhile]

end Blank

namespace Numeral

theorem isBlank_of_isDigit {c : Char} (h : c.isDigit = true) : Blank.isBlank c = false := by
  have in_range : '0'.toNat ≤ c.toNat ∧ c.toNat ≤ '9'.toNat := by
    simpa [Char.isDigit, UInt32.le_iff_toNat_le] using h
  have apart : ∀ r ∈ Blank.codePoints, r.2 < '0'.toNat ∨ '9'.toNat < r.1 := by decide
  rw [Blank.isBlank, Bool.eq_false_iff, ne_eq,
    CodePoints.contains_iff_exists Blank.codePoints_ascend]
  rintro ⟨r, hr, lower, upper⟩
  have outside := apart r hr
  omega

theorem Spells.shows {cs : List Char} {n : Nat} (h : Spells cs n) :
    cs ≠ [] ∧ ∀ c ∈ cs, Blank.isBlank c = false := by
  obtain ⟨sign, digits, signed, digits_of, rfl⟩ := h
  refine ⟨List.append_ne_nil_of_right_ne_nil _ digits_of.nonempty, fun c hc => ?_⟩
  rcases List.mem_append.1 hc with hsign | hdigit
  · rcases signed with rfl | rfl
    · cases hsign
    · rw [List.mem_singleton.1 hsign]
      rfl
  · exact isBlank_of_isDigit (digits_of.all_digits c hdigit)

end Numeral

namespace Config

open Numeral

/-- The number is a limit, and the text spells it between white space. -/
def Names (text : String) (depth : Nat) : Prop :=
  ∃ numeral, Blank.Surrounds text.toList numeral ∧ Spells numeral depth ∧
    1 ≤ depth ∧ depth < wordBound

theorem limit?_eq_some_iff (text : String) (depth : Nat) :
    limit? text = some depth ↔ Names text depth := by
  rw [limit?, Option.filter_eq_some_iff, read?_eq_some_iff_spells, decide_eq_true_eq]
  constructor
  · rintro ⟨⟨spelled, fits⟩, positive⟩
    exact ⟨_, Blank.surrounds_trim _, spelled, positive, fits⟩
  · rintro ⟨numeral, surrounded, spelled, positive, fits⟩
    obtain ⟨nonempty, shows⟩ := spelled.shows
    rw [Blank.trim_eq_of_surrounds surrounded nonempty shows]
    exact ⟨⟨spelled, fits⟩, positive⟩

theorem fromUTF8?_eq_some_iff (bytes : ByteArray) (text : String) :
    String.fromUTF8? bytes = some text ↔ bytes = text.toUTF8 := by
  unfold String.fromUTF8?
  constructor
  · intro h
    split at h
    · rw [← Option.some.inj h]
      rfl
    · cases h
  · rintro rfl
    rw [String.toUTF8_eq_toByteArray, dif_pos text.isValidUTF8]
    rfl

/-- The bytes are a text in UTF-8 that names the limit. -/
def Sets (content : Option ByteArray) (depth : Nat) : Prop :=
  ∃ text, content = some (String.toUTF8 text) ∧ Names text depth

theorem bind_limit?_eq_some_iff (content : Option ByteArray) (depth : Nat) :
    (content.bind String.fromUTF8?).bind limit? = some depth ↔ Sets content depth := by
  simp only [Option.bind_eq_some_iff, limit?_eq_some_iff, fromUTF8?_eq_some_iff, Sets]
  constructor
  · rintro ⟨text, ⟨bytes, rfl, rfl⟩, named⟩
    exact ⟨text, rfl, named⟩
  · rintro ⟨text, rfl, named⟩
    exact ⟨text, ⟨_, rfl, rfl⟩, named⟩

theorem ofEnvironment_of_sets {content : Option ByteArray} {depth : Nat}
    (h : Sets content depth) : ofEnvironment content = ⟨depth⟩ := by
  rw [ofEnvironment, (bind_limit?_eq_some_iff content depth).2 h]

theorem not_sets_iff (content : Option ByteArray) :
    (∀ depth, ¬ Sets content depth) ↔ (content.bind String.fromUTF8?).bind limit? = none := by
  simp only [← bind_limit?_eq_some_iff, Option.eq_none_iff_forall_ne_some, ne_eq]

theorem ofEnvironment_of_not_sets {content : Option ByteArray}
    (h : ∀ depth, ¬ Sets content depth) : ofEnvironment content = standard := by
  rw [ofEnvironment, (not_sets_iff content).1 h]

theorem Sets.positive {content : Option ByteArray} {depth : Nat} (h : Sets content depth) :
    1 ≤ depth := by
  obtain ⟨-, -, -, -, -, positive, -⟩ := h
  exact positive

theorem sets_or_standard (content : Option ByteArray) :
    (∃ depth, Sets content depth ∧ ofEnvironment content = ⟨depth⟩) ∨
      (∀ depth, ¬ Sets content depth) ∧ ofEnvironment content = standard := by
  by_cases set : ∃ depth, Sets content depth
  · obtain ⟨depth, h⟩ := set
    exact .inl ⟨depth, h, ofEnvironment_of_sets h⟩
  · have not_set := not_exists.1 set
    exact .inr ⟨not_set, ofEnvironment_of_not_sets not_set⟩

/-- The standard limit may be set like any other, so on its own it does not tell whether it was. -/
theorem environment_limits (content : Option ByteArray) :
    (∀ depth, Sets content depth → ofEnvironment content = ⟨depth⟩) ∧
      ((∀ depth, ¬ Sets content depth) → ofEnvironment content = standard) ∧
      (∀ depth, depth ≠ standard.maxDepth →
        ((ofEnvironment content).maxDepth = depth ↔ Sets content depth)) ∧
      (ofEnvironment content).maxDepth ≠ 0 := by
  refine ⟨fun _ => ofEnvironment_of_sets, ofEnvironment_of_not_sets, fun depth other => ?_, ?_⟩
  · constructor
    · intro reached
      rcases sets_or_standard content with ⟨set_depth, h, limit_eq⟩ | ⟨-, limit_eq⟩
      · rw [limit_eq] at reached
        exact reached ▸ h
      · rw [limit_eq] at reached
        exact absurd reached.symm other
    · intro h
      rw [ofEnvironment_of_sets h]
  · rcases sets_or_standard content with ⟨depth, h, limit_eq⟩ | ⟨-, limit_eq⟩
    · rw [limit_eq]
      exact Nat.ne_of_gt h.positive
    · rw [limit_eq]
      decide

theorem environment_limits_at_the_edges :
    let padded : Option ByteArray := some "\u2003\t+000018446744073709551615\n".toUTF8
    let too_large : Option ByteArray := some "0018446744073709551616".toUTF8
    let no_text : Option ByteArray := some ⟨#[0x31, 0xFF]⟩
    Sets padded 18446744073709551615 ∧ ofEnvironment padded = ⟨18446744073709551615⟩ ∧
      (ofEnvironment padded).maxDepth ≠ 0 ∧
      (∀ depth, ¬ Sets too_large depth) ∧ ofEnvironment too_large = standard ∧
      (∀ depth, ¬ Sets no_text depth) ∧ ofEnvironment no_text = standard ∧
      ofEnvironment none = standard ∧ 0 ≠ standard.maxDepth ∧ ¬ Sets none 0 := by
  intro padded too_large no_text
  have padded_sets : Sets padded 18446744073709551615 :=
    (bind_limit?_eq_some_iff _ _).1 (by decide +kernel)
  have too_large_not : ∀ depth, ¬ Sets too_large depth := (not_sets_iff _).2 (by decide +kernel)
  have no_text_not : ∀ depth, ¬ Sets no_text depth := (not_sets_iff _).2 (by decide +kernel)
  have none_not : ∀ depth, ¬ Sets none depth := (not_sets_iff _).2 rfl
  obtain ⟨set, -, -, positive⟩ := environment_limits padded
  obtain ⟨-, large_default, -, -⟩ := environment_limits too_large
  obtain ⟨-, no_text_default, -, -⟩ := environment_limits no_text
  obtain ⟨-, none_default, told, none_positive⟩ := environment_limits none
  exact ⟨padded_sets, set _ padded_sets, positive, too_large_not, large_default too_large_not,
    no_text_not, no_text_default no_text_not, none_default none_not, by decide,
    mt (told 0 (by decide)).2 none_positive⟩

example :
    ∀ text ∈ ["", "+", "++1", "-3", "+ 3", "1 2", "000", "+0", "1_0", "\u0661"],
      ofEnvironment (some text.toUTF8) = standard := by
  decide +kernel

end Config

end ShapeMatch
