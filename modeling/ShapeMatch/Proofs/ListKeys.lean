import ShapeMatch.Proofs.Numerals
import ShapeMatch.Value.Lookup

/-!
# Keys of lists

A list is read by every spelling of a position. A number that does not fit a word is not read, but
then it lies beyond the end of the list, so the bound on numerals never shows. The numeral of a
position leads where the position itself leads, in values of every kind.
-/

namespace ShapeMatch.Value

open Numeral

theorem get?_list_of_spells {items : List Value} (words : items.length ≤ wordBound)
    (address : Address) {key : String} {n : Nat} (h : Spells key.toList n) :
    (list address items).get? key = items[n]? := by
  by_cases fits : n < wordBound
  · have reads : parse? key = some n := (read?_eq_some_iff_spells _ n).2 ⟨h, fits⟩
    rw [get?, reads, Option.bind_some]
  · have not_read : parse? key = none := by
      refine Option.eq_none_iff_forall_ne_some.2 fun m reads => ?_
      obtain ⟨same_key, m_fits⟩ := (read?_eq_some_iff_spells _ m).1 reads
      exact fits (h.unique same_key ▸ m_fits)
    have beyond : items.length ≤ n := Nat.le_trans words (Nat.le_of_not_lt fits)
    rw [get?, not_read, Option.bind_none, List.getElem?_eq_none beyond]

theorem get?_list_of_no_numeral (address : Address) (items : List Value) {key : String}
    (h : ∀ n, ¬ Spells key.toList n) : (list address items).get? key = none := by
  have not_read : parse? key = none :=
    Option.eq_none_iff_forall_ne_some.2 fun n reads =>
      h n ((read?_eq_some_iff_spells _ n).1 reads).1
  rw [get?, not_read, Option.bind_none]

theorem get?_list_eq_none_iff {items : List Value} (words : items.length ≤ wordBound)
    (address : Address) (key : String) :
    (list address items).get? key = none ↔ ¬ ∃ n, Spells key.toList n ∧ n < items.length := by
  constructor
  · rintro absent ⟨n, h, inside⟩
    rw [get?_list_of_spells words address h, List.getElem?_eq_getElem inside] at absent
    cases absent
  · intro nowhere
    by_cases numeral : ∃ n, Spells key.toList n
    · obtain ⟨n, h⟩ := numeral
      rw [get?_list_of_spells words address h, List.getElem?_eq_none_iff]
      exact Nat.le_of_not_lt fun inside => nowhere ⟨n, h, inside⟩
    · exact get?_list_of_no_numeral address items (not_exists.1 numeral)

theorem at?_eq_get?_render {v : Value} (words : ∀ items ∈ v.items?, items.length ≤ wordBound)
    (n : Nat) : v.at? n = v.get? (render n) := by
  cases v with
  | list address items =>
    exact (get?_list_of_spells (words items rfl) address (spells_render n)).symm
  | _ => rfl

theorem lists_are_read_by_numerals :
    (∀ (address : Address) (items : List Value), items.length < wordBound →
      (∀ key n, Spells key.toList n → (list address items).get? key = items[n]?) ∧
        (∀ key, (list address items).get? key = none ↔
          ¬ ∃ n, Spells key.toList n ∧ n < items.length) ∧
        (∀ key n, Spells key.toList n → wordBound ≤ n → (list address items).get? key = none) ∧
        ∀ sign digits zeros n, IsSign sign → DigitsOf digits n →
          (list address items).get? (String.ofList (sign ++ (List.replicate zeros '0' ++ digits))) =
            (list address items).get? (String.ofList (sign ++ digits))) ∧
      ∀ v : Value, (∀ items ∈ v.items?, items.length < wordBound) →
        ∀ n, v.at? n = v.get? (render n) := by
  refine ⟨fun address items words => ?_, fun v words =>
    at?_eq_get?_render fun items hitems => Nat.le_of_lt (words items hitems)⟩
  have words := Nat.le_of_lt words
  refine ⟨fun key n => get?_list_of_spells words address, get?_list_eq_none_iff words address,
    fun key n h large => ?_, fun sign digits zeros n signed h => ?_⟩
  · rw [get?_list_of_spells words address h, List.getElem?_eq_none (Nat.le_trans words large)]
  · have spells {cs : List Char} (digits_of : DigitsOf cs n) :
        Spells (String.ofList (sign ++ cs)).toList n :=
      ⟨sign, cs, signed, digits_of, String.toList_ofList⟩
    rw [get?_list_of_spells words address (spells (h.zeros_append zeros)),
      get?_list_of_spells words address (spells h)]

theorem lists_are_read_by_numerals_past_the_words :
    let items : List Value := [.null, .bool true, .ofPairs 1 [("2", .int 7)]]
    let v : Value := .list 0 items
    let past : String := "18446744073709551617"
    items.length < wordBound ∧ Spells "+0001".toList 1 ∧ v.get? "+0001" = some (.bool true) ∧
      Spells past.toList (wordBound + 1) ∧ v.get? past = none ∧
      IsSign ['+'] ∧ DigitsOf ['2'] 2 ∧ v.get? "+0002" = v.get? "+2" ∧
      v.at? 2 = v.get? "2" ∧ v.at? wordBound = v.get? (render wordBound) := by
  intro items v past
  have words : items.length < wordBound := by decide
  have one : Spells "+0001".toList 1 :=
    ⟨['+'], ['0', '0', '0', '1'], .inr rfl,
      ⟨by decide, List.all_eq_true.1 (by decide), by decide⟩, rfl⟩
  have past_words : Spells past.toList (wordBound + 1) :=
    ⟨[], past.toList, .inl rfl,
      ⟨by decide, List.all_eq_true.1 (by decide), by decide⟩, rfl⟩
  have two : DigitsOf ['2'] 2 :=
    ⟨by decide, List.all_eq_true.1 (by decide), by decide⟩
  obtain ⟨lists, positions⟩ := lists_are_read_by_numerals
  obtain ⟨reads, -, not_beyond, padded⟩ := lists 0 items words
  have words_of_v : ∀ others ∈ v.items?, others.length < wordBound := by
    rintro others ⟨⟩
    exact words
  exact ⟨words, one, reads _ 1 one, past_words, not_beyond _ _ past_words (Nat.le_succ _), .inr rfl,
    two, padded ['+'] ['2'] 3 2 (.inr rfl) two, positions v words_of_v 2,
    positions v words_of_v wordBound⟩

example : ∀ key ∈ ["", "+", "++0", "-0", " 0", "0_0"], (Value.list 0 [.null]).get? key = none := by
  decide

end ShapeMatch.Value
