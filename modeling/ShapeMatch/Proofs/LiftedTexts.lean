import ShapeMatch.Pattern.Render
import ShapeMatch.Proofs.LiteralLifting

/-!
# Texts of lifted values

A value and the pattern that it lifts to are written by two printers, part by part in the same
order and with the same brackets. So lifting does not show, neither of a value nor of the literals
inside a pattern.
-/

namespace ShapeMatch.Pattern

theorem display_ofValue (v : Value) : (ofValue v).display = v.display := by
  induction v using Value.induct with
  | step v ih =>
    cases v with
    | list address items =>
      rw [ofValue, ofItems_eq_map, display, Value.display, displayItems_eq_map,
        Value.displayItems_eq_map, List.map_map]
      exact congrArg Listing.bracketed (List.map_congr_left ih)
    | record address members =>
      rw [ofValue, ofFields_eq_map, display, Value.display, displayEntries_eq_map,
        Value.displayFields_eq_map, List.map_map]
      refine congrArg Listing.braced (List.map_congr_left fun member hmember => ?_)
      exact congrArg (Listing.entry member.1) (ih member.2 (List.mem_map_of_mem hmember))
    | _ => rfl

theorem display_lift (p : Pattern) : p.lift.display = p.display := by
  induction p using inductParts with
  | step p ih =>
    cases p with
    | literal data =>
      rw [lift]
      split
      · exact display_ofValue data
      · rfl
    | predicate matcher => rfl
    | fields entries =>
      rw [lift, liftEntries_eq_map, display, display, displayEntries_eq_map, displayEntries_eq_map,
        List.map_map]
      refine congrArg Listing.braced (List.map_congr_left fun entry hentry => ?_)
      exact congrArg (Listing.entry entry.1) (ih _ (entry_mem_parts hentry))
    | sequence items =>
      rw [lift, liftItems_eq_map, display, display, displayItems_eq_map, displayItems_eq_map,
        List.map_map]
      refine congrArg Listing.bracketed (List.map_congr_left fun item hitem => ?_)
      obtain ⟨index, part_of_p⟩ := exists_mem_parts_of_mem_items hitem
      exact ih _ part_of_p

theorem lifting_keeps_display :
    (∀ v : Value, (ofValue v).display = v.display) ∧ ∀ p : Pattern, p.lift.display = p.display :=
  ⟨display_ofValue, display_lift⟩

example :
    (ofValue (.ofPairs 0 [("b", .list 1 []), ("a", .str 2 "x"), ("b", .list 3 [.null])])).display =
      "\x7ba: \x22x\x22, b: [null]\x7d" := by
  decide +kernel

end ShapeMatch.Pattern
