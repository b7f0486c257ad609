import ApiChain.Json.Printer

/-!
# Records

One row of output: fields in the order in which they were first set. A field may be present and yet
undefined, when its source found nothing; such a field keeps its column and its cell is empty.
-/

namespace ApiChain

/-- Named fields in order, each with a value or undefined. -/
structure Record where
  fields : Entries (Option Json)
deriving Repr, DecidableEq

namespace Record

/-- The record without fields. -/
def empty : Record := ⟨[]⟩

/-- Sets a field. A field that is there keeps its place and takes the new value. -/
def insert (r : Record) (name : String) (value : Option Json) : Record := ⟨r.fields.set name value⟩

/-- Whether the field is there, defined or not. -/
def contains (r : Record) (name : String) : Bool := r.fields.contains name

/-- The field's value; nothing if the field is undefined or not there. -/
def get? (r : Record) (name : String) : Option Json := (r.fields.get? name).join

/-- The names of the fields, in order. -/
def names (r : Record) : List String := r.fields.names

/-- The number of fields. -/
def size (r : Record) : Nat := r.fields.length

/-- Whether there is no field. -/
def isEmpty (r : Record) : Bool := r.fields.isEmpty

/-- The record made by setting the fields one after the other. -/
def ofList (fields : List (String × Option Json)) : Record := ⟨Entries.ofList fields⟩

/-- The record as a value: an object in which an undefined field is `null`. -/
def toJson (r : Record) : Json := .object (r.fields.map fun (n, v) => (n, v.getD .null))

end Record

end ApiChain
