import ApiChain.Proofs.Entries
import ApiChain.Record
import Mathlib.Data.Finset.Card

/-!
# Records are ordered maps

A record is a list of fields that is searched from the front, so nothing but the way in which fields are
set keeps their names apart. `Remembers` says what a record knows of the writes that made it; it speaks
of the fields themselves, since a lookup does not tell an undefined field from one that is not there.

* **`insertAll_empty`**: setting fields one after the other and building from a list are the same;
* **`insertAll_remembers`**: what any row of writes to the empty record leaves, that one more write
  touches no other field, and that the fields of such a record build it again.
-/

namespace ApiChain.Record

/-- The record after some fields are set, one after the other. -/
def insertAll (r : Record) (writes : List (String × Option Json)) : Record :=
  writes.foldl (fun r w => r.insert w.1 w.2) r

theorem insertAll_empty (writes : List (String × Option Json)) :
    empty.insertAll writes = ofList writes := by
  rw [insertAll, ofList, Entries.ofList]
  exact List.foldl_hom Record.mk fun _ _ => rfl

/-- The record is the ordered map that some writes leave: each name that was written has one field, the
fields stand in the order of the first writes, and they have the values of the last. -/
structure Remembers (r : Record) (writes : List (String × Option Json)) : Prop where
  names : FirstSeen r.names (writes.map Prod.fst)
  size : r.size = (writes.map Prod.fst).toFinset.card
  contains_iff : ∀ name, r.contains name = true ↔ name ∈ writes.map Prod.fst
  last : ∀ before name value after, writes = before ++ (name, value) :: after →
    name ∉ after.map Prod.fst → r.fields.get? name = some value ∧ r.get? name = value
  never : ∀ name, name ∉ writes.map Prod.fst → r.fields.get? name = none ∧ r.get? name = none

section Writes

variable (writes : List (String × Option Json))

theorem firstSeen_names_ofList : FirstSeen (ofList writes).names (writes.map Prod.fst) := by
  rw [names, ofList, Entries.names_ofList]
  exact firstSeen_distinct _

theorem size_ofList : (ofList writes).size = (writes.map Prod.fst).toFinset.card := by
  have hnames := firstSeen_names_ofList writes
  have hsame : (ofList writes).names.toFinset = (writes.map Prod.fst).toFinset := by
    ext name
    simp only [List.mem_toFinset, hnames.mem_iff]
  rw [← hsame, List.toFinset_card_of_nodup hnames.nodup]
  exact (List.length_map Prod.fst).symm

theorem ofList_remembers : (ofList writes).Remembers writes where
  names := firstSeen_names_ofList writes
  size := size_ofList writes
  contains_iff name := Entries.contains_iff.trans ((firstSeen_names_ofList writes).mem_iff name)
  last := by
    rintro before name value after rfl hlast
    have hfield : (ofList (before ++ (name, value) :: after)).fields.get? name = some value :=
      Entries.get?_ofList_last hlast
    exact ⟨hfield, by rw [get?, hfield, Option.join_some]⟩
  never := by
    intro name hnever
    have hfield : (ofList writes).fields.get? name = none :=
      Entries.get?_eq_none_iff.mpr fun hmem =>
        hnever (((firstSeen_names_ofList writes).mem_iff name).mp hmem)
    exact ⟨hfield, by rw [get?, hfield, Option.join_none]⟩

/-- **A record is an ordered map.** Whatever is written to the empty record, defined or not and under
names that may repeat, each name has one field, in the order of the first writes; its value is that of
the last write to it, and a name that was not written has no field. One more write leaves every field of
another name at its place and with its value, and brings in none. Building a record from the fields of
this one gives this one. -/
theorem insertAll_remembers :
    (empty.insertAll writes).Remembers writes ∧
    (∀ (name other : String) (value v : Option Json) (i : Nat), other ≠ name →
      (((empty.insertAll writes).insert name value).fields[i]? = some (other, v) ↔
        (empty.insertAll writes).fields[i]? = some (other, v))) ∧
    ofList (empty.insertAll writes).fields = empty.insertAll writes := by
  rw [insertAll_empty]
  refine ⟨ofList_remembers writes, ?_, ?_⟩
  · intro name other value v i hne
    exact Entries.getElem?_set_iff (ofList writes).fields hne value v i
  · exact congrArg Record.mk (Entries.ofList_eq_self (Entries.nodup_names_ofList writes))

end Writes

/-- The last write takes the value away; the field keeps its place before the other one. -/
example :
    (empty.insertAll [("a", some .null), ("b", none), ("a", none)]).fields
      = [("a", none), ("b", none)] := by
  decide

end ApiChain.Record
