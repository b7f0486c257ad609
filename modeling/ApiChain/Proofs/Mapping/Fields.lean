import ApiChain.Mapping
import ApiChain.Proofs.Record

/-!
# The fields that rules set

A record starts empty and the rules write its fields one after the other. So a field has its place from
the first rule for its target and its value from the last.

* **`recordOf_eq_ofList`**: the record is what the writes of the rules leave;
* **`names_recordOf`**: the fields are the distinct targets, whatever the sources find;
* **`get?_recordOf`**: a field has what the last rule for it finds.
-/

namespace ApiChain.Mapping

variable (item : Json)

/-- What a rule writes to the record of an item. -/
def writeOf (rule : Rule) : String × Option Json :=
  (rule.target, (item.resolve (itemPath rule.source)).toJson?)

theorem recordOf_eq_ofList (rules : List Rule) :
    recordOf item rules = Record.ofList (rules.map (writeOf item)) := by
  rw [← Record.insertAll_empty, Record.insertAll, List.foldl_map]
  rfl

theorem names_writes (rules : List Rule) :
    Entries.names (rules.map (writeOf item)) = rules.map (·.target) := by
  rw [Entries.names, List.map_map]
  rfl

theorem names_recordOf (rules : List Rule) :
    (recordOf item rules).names = distinct (rules.map (·.target)) := by
  rw [recordOf_eq_ofList, Record.names, Record.ofList, Entries.names_ofList, names_writes]

/-- The last rule for a target. -/
def lastRule? (rules : List Rule) (target : String) : Option Rule :=
  rules.findRev? fun rule => rule.target = target

theorem get?_recordOf (rules : List Rule) (target : String) :
    (recordOf item rules).get? target
      = (lastRule? rules target).bind fun rule => (item.resolve (itemPath rule.source)).toJson? := by
  have hfield : (recordOf item rules).fields.get? target
      = (lastRule? rules target).map fun rule => (item.resolve (itemPath rule.source)).toJson? := by
    rw [recordOf_eq_ofList, Record.ofList, Entries.get?_ofList, ← List.map_reverse, lastRule?,
      List.findRev?_eq_find?_reverse]
    exact Entries.get?_map Rule.target _ rules.reverse target
  rw [Record.get?, hfield]
  cases lastRule? rules target <;> rfl

end ApiChain.Mapping
