import ApiChain.Record

/-!
# Tables

The table of a list of records: a header with every field name once, in the order in which the names
first come, and a row for each record with a cell for each name of the header.
-/

namespace ApiChain

/-- The distinct elements of a list, each at its first place. -/
def distinct : List String → List String
  | [] => []
  | x :: rest => x :: (distinct rest).filter (· ≠ x)

namespace Table

/-- The names of all fields, each at its first place. -/
def header (records : List Record) : List String := distinct (records.flatMap Record.names)

/-- The text of a cell; a field that is not there, undefined or `null` has an empty one. -/
def cell (value : Option Json) : List Char := (value.map Json.plainChars).getD []

/-- The cells of a record under a header. -/
def row (header : List String) (r : Record) : List (List Char) :=
  header.map fun name => cell (r.get? name)

/-- The rows of the table of some records, the header first. -/
def ofRecords (records : List Record) : List (List (List Char)) :=
  let names := header records
  names.map String.toList :: records.map (row names)

end Table

end ApiChain
