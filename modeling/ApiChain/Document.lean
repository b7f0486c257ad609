import ApiChain.Json.Basic

/-!
# Documents

What a text in a data format says, before its parts are given types. A scalar carries the readings that
its format allows: the text it is for a textual field, what it is where any value may stand, and how it
answers a field that may be left out. Lists, records and marks are the same in every format, so one set
of decoders serves all of them.
-/

namespace ApiChain

/-- What a scalar is where any value may stand. -/
inductive Reading where
  /-- The format's word for no value. -/
  | nothing
  /-- A value. -/
  | value (v : Json)
  /-- A number that is infinite or not a number; as a JSON value it is `null`. -/
  | notFinite
  /-- The scalar does not stand for any value. -/
  | refused
deriving Repr, DecidableEq

/-- How a scalar answers a field that may be left out. -/
inductive Presence where
  | absent
  | present
  | refused
deriving Repr, DecidableEq

/-- A scalar with its readings. -/
structure Scalar where
  /-- The text that a textual field reads. -/
  text? : Option String
  /-- The value where any value may stand. -/
  reading : Reading
  /-- The answer to a field that may be left out. -/
  presence : Presence
  /-- Whether the scalar is written as nothing at all, and so also stands for an empty list or
  record. -/
  blank : Bool
deriving Repr, DecidableEq

/-- What a text in a data format says. -/
inductive Document where
  | scalar (s : Scalar)
  /-- A list; `positional` if the format lets it stand for a record, its items being the fields. -/
  | list (positional : Bool) (items : List Document)
  | record (members : List (Document × Document))
  /-- A list or record with a mark of the author's own. Typed fields see through the mark; where any
  value may stand it is refused. -/
  | marked (inner : Document)
  /-- A part that may be skipped but not read. -/
  | unreadable
deriving Repr, Inhabited

/-- The value of a reading, if it stands for one. -/
def Reading.json? : Reading → Option Json
  | .nothing => some .null
  | .value v => some v
  | .notFinite => some .null
  | .refused => none

namespace Scalar

/-- A scalar that is a string and nothing else. -/
def ofString (s : String) : Scalar :=
  { text? := some s, reading := .value (.string s), presence := .present, blank := false }

/-- A scalar that is a value other than a string. -/
def ofValue (v : Json) : Scalar :=
  { text? := none, reading := .value v, presence := .present, blank := false }

/-- The word for no value, in a format where it is not a text. -/
def null : Scalar := { text? := none, reading := .nothing, presence := .absent, blank := false }

end Scalar

namespace Document

mutual

/-- A JSON value as a document. -/
def ofJson : Json → Document
  | .null => .scalar Scalar.null
  | .string s => .scalar (Scalar.ofString s)
  | .bool b => .scalar (Scalar.ofValue (.bool b))
  | .number n => .scalar (Scalar.ofValue (.number n))
  | .array items => .list true (ofItems items)
  | .object members => .record (ofMembers members)

/-- JSON values as documents. -/
def ofItems : List Json → List Document
  | [] => []
  | j :: rest => ofJson j :: ofItems rest

/-- Members as documents. -/
def ofMembers : List (String × Json) → List (Document × Document)
  | [] => []
  | (k, j) :: rest => (.scalar (Scalar.ofString k), ofJson j) :: ofMembers rest

end

/-- The text of a document that is a scalar with one. -/
def text? : Document → Option String
  | .scalar s => s.text?
  | _ => none

mutual

/-- The value that a document stands for where any value may stand. A key that repeats in a record has
its first place and its last value. -/
def toJson? : Document → Option Json
  | .scalar s => s.reading.json?
  | .list _ items => (itemsToJson? items).map .array
  | .record members => (membersToJson? members).map fun ms => .object (Entries.ofList ms)
  | .marked _ => none
  | .unreadable => none

/-- The values of a list of documents. -/
def itemsToJson? : List Document → Option (List Json)
  | [] => some []
  | d :: rest => (toJson? d).bind fun j => (itemsToJson? rest).map (j :: ·)

/-- The keys and values of a record. -/
def membersToJson? : List (Document × Document) → Option (List (String × Json))
  | [] => some []
  | (k, d) :: rest =>
    k.text?.bind fun key => (toJson? d).bind fun j => (membersToJson? rest).map ((key, j) :: ·)

end

mutual

/-- Whether every scalar of a document has a reading; keys may be of any shape here. -/
def readable : Document → Bool
  | .scalar s => s.reading != .refused
  | .list _ items => readableItems items
  | .record members => readableMembers members
  | .marked _ => false
  | .unreadable => false

/-- Whether every document of a list is readable. -/
def readableItems : List Document → Bool
  | [] => true
  | d :: rest => readable d && readableItems rest

/-- Whether every key and value of a record is readable. -/
def readableMembers : List (Document × Document) → Bool
  | [] => true
  | (k, d) :: rest => readable k && readable d && readableMembers rest

end

end Document

end ApiChain
