import ApiChain.Config.Basic
import ApiChain.Proofs.Table.Header
import ApiChain.Proofs.Table.Reader

/-!
# The records in a table's text

What a reader of the delimited text gets back from it: the header and a row for each record, with every
cell as it was before the quotes.
-/

namespace ApiChain

namespace Table

/-- What stands in the cell of a field. -/
def shown : Option Json → String
  | none | some .null => ""
  | some value => value.plain

theorem ofList_cell (value : Option Json) : String.ofList (cell value) = shown value := by
  rcases value with _ | value
  · rfl
  · cases value <;> rfl

/-- No row is empty where some record has a field. -/
theorem row_ne_nil {records : List Record} (h : ∃ r ∈ records, r.isEmpty = false) :
    ∀ row ∈ ofRecords records, row ≠ [] := by
  intro row hrow
  rcases List.mem_cons.mp hrow with rfl | hrow
  · exact mt List.map_eq_nil_iff.mp (header_ne_nil h)
  · obtain ⟨r, -, rfl⟩ := List.mem_map.mp hrow
    exact mt List.map_eq_nil_iff.mp (header_ne_nil h)

/-- The texts of a table's cells. -/
theorem ofRecords_texts (records : List Record) :
    (ofRecords records).map (fun row => row.map String.ofList)
      = header records ::
        records.map fun r => (header records).map fun name => shown (r.get? name) := by
  unfold ofRecords row
  simp only [List.map_cons, List.map_map, Function.comp_def, String.ofList_toList, List.map_id',
    ofList_cell]

end Table

namespace Delimited

/-- **The text of some records is read back**: the distinct field names in the order of their first
appearance, then a row for each record with a cell for each name. -/
theorem read_ofRecords (delimiter : Char) (hdelimiter : Config.isUsableDelimiter delimiter = true)
    (records : List Record) (hfield : ∃ r ∈ records, r.isEmpty = false) :
    FirstSeen (Table.header records) (records.flatMap Record.names) ∧
      read delimiter (ofRecords delimiter records)
        = some (Table.header records :: records.map fun r =>
            (Table.header records).map fun name => Table.shown (r.get? name)) := by
  refine ⟨firstSeen_distinct _, ?_⟩
  obtain ⟨hquote, hbreak⟩ : delimiter ≠ '"' ∧ delimiter ≠ '\n' := by
    simp only [Config.isUsableDelimiter, Bool.and_eq_true, bne_iff_ne] at hdelimiter
    exact hdelimiter.1
  have hsome : records.isEmpty = false := by
    obtain ⟨r, hr, -⟩ := hfield
    cases records with
    | nil => exact absurd hr List.not_mem_nil
    | cons first rest => rfl
  have hread : readFrom delimiter .start (encode delimiter (Table.ofRecords records))
      = some (Table.ofRecords records) :=
    readFrom_encode hquote hbreak _ _ (Table.row_ne_nil hfield)
  unfold read ofRecords
  rw [if_neg (by simp [hsome]), String.toList_ofList, hread, Option.map_some, Table.ofRecords_texts]

/-- Names and values full of quotes, line breaks and delimiters, and fields that not all records
have. -/
def awkward : List Record :=
  [.ofList [("a\"b", some (.string "x;\"\n")), ("", some (.string "\""))],
    .empty,
    .ofList [("c;\r\n", some .null), ("a\"b", none), ("", some (.string "; \r"))]]

theorem read_awkward :
    (FirstSeen ["a\"b", "", "c;\r\n"] (awkward.flatMap Record.names)) ∧
      read ';' (ofRecords ';' awkward)
        = some [["a\"b", "", "c;\r\n"], ["x;\"\n", "\"", ""], ["", "", ""], ["", "; \r", ""]] :=
  read_ofRecords ';' rfl awkward ⟨_, List.mem_cons_self, rfl⟩

end Delimited

end ApiChain
