import Mathlib.Data.List.Basic
import ShapeMatch.Text.Listing
import ShapeMatch.Text.Quoted

/-!
# Texts that can be told apart

A text that is written among others can be read back if one can tell where it ends. Two texts that
begin the same characters must then be written of the same thing and end at the same place. This
is kept by writing one text after the other, by listing texts between brackets, and by quoting.
-/

namespace ShapeMatch

theorem eq_of_append_cons {stop : Char} {s t as bs : List Char} (ha : stop ∉ as) (hb : stop ∉ bs)
    (h : as ++ stop :: s = bs ++ stop :: t) : as = bs ∧ s = t := by
  induction as generalizing bs with
  | nil =>
    cases bs with
    | nil => exact ⟨rfl, List.tail_eq_of_cons_eq h⟩
    | cons y bs => exact absurd (List.head_eq_of_cons_eq h ▸ List.mem_cons_self) hb
  | cons x as ih =>
    cases bs with
    | nil => exact absurd (List.head_eq_of_cons_eq h ▸ List.mem_cons_self) ha
    | cons y bs =>
      obtain ⟨rfl, rest⟩ := List.cons.inj h
      obtain ⟨rfl, hst⟩ :=
        ih (List.not_mem_of_not_mem_cons ha) (List.not_mem_of_not_mem_cons hb) rest
      exact ⟨rfl, hst⟩

/-- The same characters can begin with either text only if `same` holds, and go on alike then. -/
def Tells (same : Prop) (a b : String) : Prop :=
  ∀ s t : List Char, a.toList ++ s = b.toList ++ t → same ∧ s = t

def Begins (c : Char) (a : String) : Prop := a.toList.head? = some c

theorem begins_singleton (c : Char) : Begins c (String.singleton c) := by
  rw [Begins, String.toList_singleton, List.head?_cons]

theorem Begins.append {c : Char} {a : String} (h : Begins c a) (b : String) :
    Begins c (a ++ b) := by
  rw [Begins, String.toList_append, List.head?_append, h, Option.some_or]

namespace Tells

variable {p q : Prop} {a b c d : String}

theorem literal (a : String) : Tells True a a :=
  fun _ _ h => ⟨trivial, List.append_cancel_left h⟩

theorem mono (h : Tells p a b) (hpq : p → q) : Tells q a b :=
  fun s t hst => (h s t hst).imp_left hpq

theorem append (first : Tells p a b) (rest : Tells q c d) : Tells (p ∧ q) (a ++ c) (b ++ d) := by
  intro s t h
  rw [String.toList_append, String.toList_append, List.append_assoc, List.append_assoc] at h
  obtain ⟨hp, h⟩ := first _ _ h
  obtain ⟨hq, hst⟩ := rest _ _ h
  exact ⟨⟨hp, hq⟩, hst⟩

theorem prepend (a : String) (h : Tells p c d) : Tells p (a ++ c) (a ++ d) :=
  ((literal a).append h).mono And.right

theorem close (h : Tells p a b) (c : String) : Tells p (a ++ c) (b ++ c) :=
  (h.append (literal c)).mono And.left

theorem of_begins {x y : Char} (ha : Begins x a) (hb : Begins y b) (hxy : x ≠ y) : Tells p a b := by
  intro s t h
  have heads := congrArg List.head? h
  rw [List.head?_append, List.head?_append, ha, hb, Option.some_or, Option.some_or] at heads
  exact absurd (Option.some.inj heads) hxy

theorem until_stop {stop : Char} (ha : stop ∉ a.toList) (hb : stop ∉ b.toList) :
    Tells (a = b) (a ++ String.singleton stop) (b ++ String.singleton stop) := by
  intro s t h
  rw [String.toList_append, String.toList_append, String.toList_singleton, List.append_assoc,
    List.append_assoc] at h
  exact (eq_of_append_cons ha hb h).imp_left String.toList_inj.1

end Tells

namespace Listing

def following : List String → String
  | [] => ""
  | text :: rest => ", " ++ (text ++ following rest)

theorem commas_cons (text : String) (rest : List String) :
    commas (text :: rest) = text ++ following rest := by
  induction rest generalizing text with
  | nil => rw [commas, String.intercalate_singleton, following, String.append_empty]
  | cons next rest ih =>
    rw [commas, String.intercalate_cons_cons, ← commas, ih, following, String.append_assoc]

section Tells

variable {α κ : Type} {text : α → String} {key : α → κ} {items others : List α} {last : Char}

theorem tells_following (stop : last ≠ ',')
    (tells : ∀ x ∈ items, ∀ y ∈ others, Tells (key x = key y) (text x) (text y)) :
    Tells (items.map key = others.map key) (following (items.map text) ++ String.singleton last)
      (following (others.map text) ++ String.singleton last) := by
  have begins_last : Begins last (following [] ++ String.singleton last) := by
    rw [following, String.empty_append]
    exact begins_singleton last
  have begins_comma (next : String) (rest : List String) :
      Begins ',' (following (next :: rest) ++ String.singleton last) := by
    have comma : Begins ',' ", " := rfl
    exact (comma.append _).append _
  induction items generalizing others with
  | nil =>
    cases others with
    | nil => exact (Tells.literal _).mono fun _ => rfl
    | cons y others => exact .of_begins begins_last (begins_comma _ _) stop
  | cons x items ih =>
    cases others with
    | nil => exact .of_begins (begins_comma _ _) begins_last stop.symm
    | cons y others =>
      have first := tells x List.mem_cons_self y List.mem_cons_self
      have rest := ih fun z hz w hw =>
        tells z (List.mem_cons_of_mem x hz) w (List.mem_cons_of_mem y hw)
      simp only [List.map_cons, following, String.append_assoc]
      refine ((first.append rest).prepend ", ").mono fun same => ?_
      rw [same.1, same.2]

theorem tells_commas (stop : last ≠ ',') (opens : ∀ x, ∃ c, Begins c (text x) ∧ c ≠ last)
    (tells : ∀ x ∈ items, ∀ y ∈ others, Tells (key x = key y) (text x) (text y)) :
    Tells (items.map key = others.map key) (commas (items.map text) ++ String.singleton last)
      (commas (others.map text) ++ String.singleton last) := by
  have begins_last : Begins last (commas [] ++ String.singleton last) := by
    rw [commas, String.intercalate_nil, String.empty_append]
    exact begins_singleton last
  cases items with
  | nil =>
    cases others with
    | nil => exact (Tells.literal _).mono fun _ => rfl
    | cons y others =>
      obtain ⟨c, begins, other⟩ := opens y
      rw [List.map_cons, List.map_cons, commas_cons]
      exact .of_begins begins_last ((begins.append _).append _) other.symm
  | cons x items =>
    cases others with
    | nil =>
      obtain ⟨c, begins, other⟩ := opens x
      rw [List.map_cons, List.map_cons, commas_cons]
      exact .of_begins ((begins.append _).append _) begins_last other
    | cons y others =>
      have first := tells x List.mem_cons_self y List.mem_cons_self
      have rest := tells_following stop fun z hz w hw =>
        tells z (List.mem_cons_of_mem x hz) w (List.mem_cons_of_mem y hw)
      simp only [List.map_cons, commas_cons, String.append_assoc]
      refine (first.append rest).mono fun same => ?_
      rw [same.1, same.2]

theorem tells_bracketed (opens : ∀ x, ∃ c, Begins c (text x) ∧ c ≠ ']')
    (tells : ∀ x ∈ items, ∀ y ∈ others, Tells (key x = key y) (text x) (text y)) :
    Tells (items.map key = others.map key) (bracketed (items.map text))
      (bracketed (others.map text)) := by
  rw [bracketed, bracketed, String.append_assoc, String.append_assoc]
  exact (tells_commas (by decide) opens tells).prepend "["

theorem tells_braced (opens : ∀ x, ∃ c, Begins c (text x) ∧ c ≠ '\x7d')
    (tells : ∀ x ∈ items, ∀ y ∈ others, Tells (key x = key y) (text x) (text y)) :
    Tells (items.map key = others.map key) (braced (items.map text))
      (braced (others.map text)) := by
  rw [braced, braced, String.append_assoc, String.append_assoc]
  exact (tells_commas (by decide) opens tells).prepend "\x7b"

end Tells

theorem tells_entry {p q : Prop} {a b c d : String} (names : Tells p a b) (contents : Tells q c d) :
    Tells (p ∧ q) (entry a c) (entry b d) :=
  (names.close ": ").append contents

theorem applied_singleton (head text : String) :
    applied head [text] = head ++ "(" ++ (text ++ ")") := by
  rw [applied, commas, String.intercalate_singleton, String.append_assoc]

theorem begins_applied {c : Char} {head : String} (h : Begins c head) (items : List String) :
    Begins c (applied head items) :=
  ((h.append _).append _).append _

theorem tells_applied {p : Prop} {a b : String} (head : String)
    (h : Tells p (a ++ ")") (b ++ ")")) : Tells p (applied head [a]) (applied head [b]) := by
  rw [applied_singleton, applied_singleton]
  exact h.prepend _

end Listing

namespace Quoted

theorem brace_not_mem_hex (n : Nat) : '\x7d' ∉ Nat.toDigits 16 n := by
  have not_digit (k : Nat) : '\x7d' ≠ k.digitChar := (Nat.digitChar_ne '\x7d' (by decide)).symm
  induction n using Nat.strongRecOn with
  | ind n ih =>
    by_cases small : n < 16
    · rw [Nat.toDigits_of_lt_base small]
      exact fun h => not_digit n (List.mem_singleton.1 h)
    · rw [Nat.toDigits_of_base_le (by decide) (Nat.le_of_not_lt small), List.mem_append]
      rintro (front | back)
      · exact ih (n / 16) (by omega) front
      · exact not_digit _ (List.mem_singleton.1 back)

theorem digitChar_inj {j k : Nat} (hj : j < 16) (hk : k < 16) (h : j.digitChar = k.digitChar) :
    j = k := by
  have digits_differ : ∀ j < 16, ∀ k < 16, Nat.digitChar j = Nat.digitChar k → j = k := by decide
  exact digits_differ j hj k hk h

theorem hex_injective {m n : Nat} (h : Nat.toDigits 16 m = Nat.toDigits 16 n) : m = n := by
  have long {k : Nat} (large : ¬ k < 16) : Nat.toDigits 16 k =
      Nat.toDigits 16 (k / 16) ++ [Nat.digitChar (k % 16)] :=
    Nat.toDigits_of_base_le (by decide) (Nat.le_of_not_lt large)
  have longer {j k : Nat} (large : ¬ k < 16) (small : j < 16) :
      Nat.toDigits 16 j ≠ Nat.toDigits 16 k := by
    intro same
    rw [Nat.toDigits_of_lt_base small, long large] at same
    have lengths := congrArg List.length same
    have := Nat.length_toDigits_pos (b := 16) (n := k / 16)
    rw [List.length_append, List.length_singleton, List.length_singleton] at lengths
    omega
  induction m using Nat.strongRecOn generalizing n with
  | ind m ih =>
    by_cases m_small : m < 16 <;> by_cases n_small : n < 16
    · rw [Nat.toDigits_of_lt_base m_small, Nat.toDigits_of_lt_base n_small] at h
      exact digitChar_inj m_small n_small (List.head_eq_of_cons_eq h)
    · exact absurd h (longer n_small m_small)
    · exact absurd h.symm (longer m_small n_small)
    · rw [long m_small, long n_small] at h
      obtain ⟨fronts, backs⟩ := List.append_inj' h rfl
      have quotients_eq := ih (m / 16) (by omega) fronts
      have rests_eq := digitChar_inj (Nat.mod_lt m (by decide)) (Nat.mod_lt n (by decide))
        (List.head_eq_of_cons_eq backs)
      omega

/-- The character that a short escape with the letter stands for. -/
def meant : Char → Char
  | '0' => '\x00'
  | 't' => '\t'
  | 'n' => '\n'
  | 'r' => '\r'
  | c => c

theorem meant_of_shortEscape {c letter : Char} (h : shortEscape? c = some letter) :
    meant letter = c ∧ letter ≠ 'u' := by
  unfold shortEscape? at h
  split at h <;> cases h <;> decide

theorem escape_cases (c : Char) :
    (c ≠ '\x5c' ∧ c ≠ '\x22' ∧ escape c = [c]) ∨
      (∃ letter, shortEscape? c = some letter ∧ escape c = ['\x5c', letter]) ∨
      escape c = '\x5c' :: 'u' :: '\x7b' :: (Nat.toDigits 16 c.toNat ++ ['\x7d']) := by
  unfold escape
  cases hc : shortEscape? c with
  | some letter => exact .inr (.inl ⟨letter, rfl, rfl⟩)
  | none =>
    by_cases alone : showsAlone c = true
    · refine .inl ⟨?_, ?_, if_pos alone⟩
      · rintro rfl
        cases hc
      · rintro rfl
        cases hc
    · exact .inr (.inr (if_neg alone))

theorem escape_append_ne_quote (c : Char) (s t : List Char) : escape c ++ s ≠ '\x22' :: t := by
  intro h
  rcases escape_cases c with ⟨-, not_quote, shown⟩ | ⟨letter, -, shown⟩ | shown
  · exact not_quote (List.head_eq_of_cons_eq (shown ▸ h))
  · exact absurd (List.head_eq_of_cons_eq (shown ▸ h)) (by decide)
  · exact absurd (List.head_eq_of_cons_eq (shown ▸ h)) (by decide)

theorem escape_append_inj {c d : Char} {s t : List Char} (h : escape c ++ s = escape d ++ t) :
    c = d ∧ s = t := by
  rcases escape_cases c with ⟨hc, -, shown_c⟩ | ⟨letter, hc, shown_c⟩ | shown_c <;>
    rcases escape_cases d with ⟨hd, -, shown_d⟩ | ⟨other, hd, shown_d⟩ | shown_d <;>
    rw [shown_c, shown_d] at h <;>
    simp only [List.cons_append, List.nil_append, List.append_assoc, List.cons.injEq, true_and] at h
  -- An escape is told by its first characters: no backslash, a letter after it, or a `u`.
  · exact h
  · exact absurd h.1 hc
  · exact absurd h.1 hc
  · exact absurd h.1.symm hd
  · obtain ⟨rfl, hst⟩ := h
    exact ⟨(meant_of_shortEscape hc).1.symm.trans (meant_of_shortEscape hd).1, hst⟩
  · exact absurd h.1 (meant_of_shortEscape hc).2
  · exact absurd h.1.symm hd
  · exact absurd h.1.symm (meant_of_shortEscape hd).2
  · obtain ⟨codes_eq, hst⟩ := eq_of_append_cons (brace_not_mem_hex _) (brace_not_mem_hex _) h
    exact ⟨Char.toNat_inj.1 (hex_injective codes_eq), hst⟩

theorem flatMap_escape_append_inj {as bs s t : List Char}
    (h : as.flatMap escape ++ '\x22' :: s = bs.flatMap escape ++ '\x22' :: t) :
    as = bs ∧ s = t := by
  induction as generalizing bs with
  | nil =>
    cases bs with
    | nil => exact ⟨rfl, List.tail_eq_of_cons_eq h⟩
    | cons d bs =>
      rw [List.flatMap_cons, List.append_assoc] at h
      exact absurd h.symm (escape_append_ne_quote d _ _)
  | cons c as ih =>
    cases bs with
    | nil =>
      rw [List.flatMap_cons, List.append_assoc] at h
      exact absurd h (escape_append_ne_quote c _ _)
    | cons d bs =>
      rw [List.flatMap_cons, List.flatMap_cons, List.append_assoc, List.append_assoc] at h
      obtain ⟨rfl, rest⟩ := escape_append_inj h
      obtain ⟨rfl, hst⟩ := ih rest
      exact ⟨rfl, hst⟩

theorem begins_encode (text : String) : Begins '\x22' (encode text) := by
  rw [Begins, encode, String.toList_ofList]
  rfl

theorem tells_encode (a b : String) : Tells (a = b) (encode a) (encode b) := by
  intro s t h
  rw [encode, encode, String.toList_ofList, String.toList_ofList] at h
  simp only [List.cons_append, List.append_assoc, List.nil_append] at h
  exact (flatMap_escape_append_inj (List.tail_eq_of_cons_eq h)).imp_left String.toList_inj.1

end Quoted

end ShapeMatch
