import ApiChain.Proofs.Mapping.Fields
import Mathlib.Data.List.Forall2

/-!
# One record for each item

All records of a payload have the same fields, whatever their items hold: one for each target. Targets
may repeat, and then the first rule gives the place and the last one the value, even where it finds
nothing.

* **`recordOf_filledBy`** is what the rules give one item;
* **`recordOf_overridden`**: a rule with a later one for its target counts for nothing but a place;
* **`records_uniform`** says so of all records of a payload.
-/

namespace ApiChain

/-- The records differ at most in the place of one field. -/
structure Record.SameButPlace (name : String) (r r' : Record) : Prop where
  others : r.fields.filter (fun field => field.1 ≠ name) = r'.fields.filter fun field => field.1 ≠ name
  value : r.fields.get? name = r'.fields.get? name

namespace Mapping

/-- The record has the fields that some rules give an item: the distinct targets in the order of the
rules, each with what its last rule finds, if only that this is nothing. -/
structure FilledBy (rules : List Rule) (item : Json) (r : Record) : Prop where
  names : FirstSeen r.names (rules.map (·.target))
  value : ∀ before rule after, rules = before ++ rule :: after →
    rule.target ∉ after.map (·.target) →
      r.fields.get? rule.target = some (item.resolve (itemPath rule.source)).toJson?

theorem recordOf_filledBy (rules : List Rule) (item : Json) :
    FilledBy rules item (recordOf item rules) where
  names := by
    rw [names_recordOf]
    exact firstSeen_distinct _
  value := by
    rintro before rule after rfl hlast
    rw [← names_writes item] at hlast
    rw [recordOf_eq_ofList, List.map_append, List.map_cons]
    exact Entries.get?_ofList_last hlast

theorem recordOf_overridden (item : Json) (before : List Rule) {rule : Rule} {after : List Rule}
    (hlater : rule.target ∈ after.map (·.target)) :
    (recordOf item (before ++ after)).SameButPlace rule.target
      (recordOf item (before ++ rule :: after)) where
  others := by
    -- among the other fields the write of the rule is not seen
    have hunseen : [writeOf item rule].filter (fun w => w.1 ≠ rule.target) = [] := by
      simp [writeOf]
    rw [recordOf_eq_ofList, recordOf_eq_ofList, Record.ofList, Record.ofList, List.map_append,
      List.map_append, List.map_cons, ← List.singleton_append,
      Entries.filter_ofList (fun name => name ≠ rule.target),
      Entries.filter_ofList (fun name => name ≠ rule.target), List.filter_append, List.filter_append,
      List.filter_append, hunseen, List.nil_append]
  value := by
    rw [← names_writes item] at hlater
    rw [recordOf_eq_ofList, recordOf_eq_ofList, List.map_append, List.map_append, List.map_cons]
    exact (Entries.get?_ofList_overwritten _ hlater).symm

/-- The items of a payload: the elements of an array, and any other payload itself. -/
theorem elements_cases (payload : Json) :
    payload = .array payload.elements ∨
      (∀ items, payload ≠ .array items) ∧ payload.elements = [payload] := by
  cases payload with
  | array items => exact .inl rfl
  | _ => exact .inr ⟨nofun, rfl⟩

/-- **Each item gives one record, and all records have the same fields.** An array gives a record for
each element, in order, and any other payload gives one. The fields of a record are the distinct targets
of the rules in the order of their first rules, and a field has what the last rule for it finds in the
item of the record, defined or not. So a rule with a later one for its target may be left out: the
records stay as they are, up to the place of that target. -/
theorem records_uniform (payload : Json) (rules : List Rule) :
    ∃ items : List Json,
      (payload = .array items ∨ (∀ xs, payload ≠ .array xs) ∧ items = [payload]) ∧
      List.Forall₂ (FilledBy rules) items (records payload rules) ∧
      ∀ before rule after, rules = before ++ rule :: after → rule.target ∈ after.map (·.target) →
        List.Forall₂ (Record.SameButPlace rule.target) (records payload (before ++ after))
          (records payload rules) := by
  refine ⟨payload.elements, elements_cases payload, ?_, ?_⟩
  · rw [records, List.forall₂_map_right_iff, List.forall₂_same]
    exact fun item _ => recordOf_filledBy rules item
  · rintro before rule after rfl hlater
    rw [records, records, List.forall₂_map_left_iff, List.forall₂_map_right_iff, List.forall₂_same]
    exact fun item _ => recordOf_overridden item before hlater

/-- The last rule finds nothing, so its target is undefined; the place is that of the first rule. -/
example :
    (recordOf (.object [("a", .ofNat 1), ("id", .ofNat 7)])
      [⟨"a", "out"⟩, ⟨"id", "id"⟩, ⟨"b", "out"⟩]).fields
      = [("out", none), ("id", some (.ofNat 7))] := by
  cbv

end Mapping

end ApiChain
