import ApiChain.Table.Basic
import ApiChain.Text.Split

/-!
# Delimited text

A table as text: rows on lines of their own, cells between delimiters. A cell that holds the delimiter,
a quote or a line break stands between quotes, and a quote inside it is written twice.
-/

namespace ApiChain.Delimited

/-- The text with every quote written twice. -/
def doubleQuotes (s : List Char) : List Char :=
  s.flatMap fun c => if c = '"' then ['"', '"'] else [c]

/-- Whether a cell must stand between quotes. -/
def needsQuotes (delimiter : Char) (cell : List Char) : Bool :=
  cell.any fun c => c == delimiter || c == '"' || c == '\n'

/-- The written form of a cell. -/
def encodeCell (delimiter : Char) (cell : List Char) : List Char :=
  if needsQuotes delimiter cell then '"' :: (doubleQuotes cell ++ ['"']) else cell

/-- The written form of a row. -/
def encodeRow (delimiter : Char) (row : List (List Char)) : List Char :=
  Text.joinWith [delimiter] (row.map (encodeCell delimiter))

/-- The written form of a table. There is no line break at the end. -/
def encode (delimiter : Char) (table : List (List (List Char))) : List Char :=
  Text.joinWith ['\n'] (table.map (encodeRow delimiter))

/-- The delimited text of some records; without records there is not even a header. -/
def ofRecords (delimiter : Char) (records : List Record) : String :=
  if records.isEmpty then "" else String.ofList (encode delimiter (Table.ofRecords records))

/-- The delimiter where none is chosen. -/
def defaultDelimiter : Char := ','

end ApiChain.Delimited
