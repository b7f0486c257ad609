import ApiChain.Document

/-!
# Typed fields of a document

Decoders for the parts of a record: texts, optional texts, numbers, lists, any values. A record's fields
are found by `collect`, which ignores keys it does not know and refuses a field given twice, be it under
one name or under two. Where the format allows it a record may be written as the list of its fields.
-/

namespace ApiChain

/-- Why a document does not have the shape that was asked for. -/
inductive DecodeError where
  /-- Another kind of part was expected. -/
  | expected (what : String)
  /-- A required field is not there. -/
  | missing (field : String)
  /-- A field is given more than once. -/
  | repeated (field : String)
  /-- A field that a record with a fixed set of fields does not have. -/
  | unknown (field : String)
  /-- A record written as a list has too many or too few items. -/
  | wrongLength
  /-- The method is none of those that exist. -/
  | unknownMethod (given : String)
deriving DecidableEq, Repr

namespace DecodeError

/-- The message of the error. -/
def message : DecodeError → String
  | .expected what => "expected " ++ what
  | .missing field => "missing field '" ++ field ++ "'"
  | .repeated field => "field '" ++ field ++ "' is given more than once"
  | .unknown field => "unknown field '" ++ field ++ "'"
  | .wrongLength => "a record written as a list has the wrong number of items"
  | .unknownMethod given => "unknown method '" ++ given ++ "'"

end DecodeError

/-- The result of a decoder. -/
abbrev Decoded (α : Type) := Except DecodeError α

namespace Document

/-! ## Single parts -/

/-- The document without the marks around it. -/
def unmarked : Document → Document
  | .marked inner => unmarked inner
  | d => d

/-- A text. -/
def asText (d : Document) : Decoded String :=
  match d.unmarked.text? with
  | some s => .ok s
  | none => .error (.expected "a text")

/-- A text of exactly one character. -/
def asCharacter (d : Document) : Decoded Char := do
  match (← d.asText).toList with
  | [c] => .ok c
  | _ => .error (.expected "a single character")

/-- Any value. -/
def asJson (d : Document) : Decoded Json :=
  match d.toJson? with
  | some j => .ok j
  | none => .error (.expected "a value")

/-- How the document answers a field that may be left out. -/
def presence : Document → Presence
  | .scalar s => s.presence
  | _ => .present

/-- A part that may be left out, read by `read` if it is there. -/
def asOptional {α : Type} (read : Document → Decoded α) (d : Document) : Decoded (Option α) :=
  match d.presence with
  | .absent => .ok none
  | .present => (read d).map some
  | .refused => .error (.expected "a value or none")

/-- The items of a list. -/
def asItems (d : Document) : Decoded (List Document) :=
  match d.unmarked with
  | .list _ items => .ok items
  | .scalar s => if s.blank then .ok [] else .error (.expected "a list")
  | _ => .error (.expected "a list")

/-- The members of a record. -/
def asRecord (d : Document) : Decoded (List (Document × Document)) :=
  match d.unmarked with
  | .record members => .ok members
  | .scalar s => if s.blank then .ok [] else .error (.expected "a record")
  | _ => .error (.expected "a record")

/-- The decoded parts of a list of documents. -/
def readAll {α : Type} (read : Document → Decoded α) : List Document → Decoded (List α)
  | [] => .ok []
  | d :: rest => do
    let x ← read d
    let xs ← readAll read rest
    .ok (x :: xs)

/-- A list whose items are read by `read`. -/
def asListOf {α : Type} (read : Document → Decoded α) (d : Document) : Decoded (List α) := do
  readAll read (← d.asItems)

/-- The decoded members of a record, in the order in which they are written. -/
def readMembers {α : Type} (read : Document → Decoded α) :
    List (Document × Document) → Decoded (List (String × α))
  | [] => .ok []
  | (k, d) :: rest => do
    let key ← k.asText
    let x ← read d
    let xs ← readMembers read rest
    .ok ((key, x) :: xs)

/-- A record whose keys are free, its values read by `read`. A key that repeats has its first place and
its last value. -/
def asEntriesOf {α : Type} (read : Document → Decoded α) (d : Document) : Decoded (Entries α) := do
  .ok (Entries.ofList (← readMembers read (← d.asRecord)))

/-- A whole number from zero up to `bound`. -/
def asNatural (bound : Nat) (d : Document) : Decoded Nat :=
  match d.unmarked with
  | .scalar s =>
    match s.reading with
    | .value (.number (.int n)) =>
      if 0 ≤ n ∧ n.toNat ≤ bound then .ok n.toNat else .error (.expected "a smaller whole number")
    | _ => .error (.expected "a whole number")
  | _ => .error (.expected "a whole number")

/-! ## Records with known fields -/

/-- The fields of a kind of record: their names in order, and the field that a key stands for. -/
structure FieldSet (F : Type) where
  all : List F
  name : F → String
  ofKey? : String → Option F

variable {F : Type} [DecidableEq F]

/-- The fields among the members of a record. Unknown keys are skipped unread; a field given twice is
refused. -/
def collect (fs : FieldSet F) : List (Document × Document) → Decoded (List (F × Document))
  | [] => .ok []
  | (k, d) :: rest => do
    let key ← k.asText
    let found ← collect fs rest
    match fs.ofKey? key with
    | none => .ok found
    | some f =>
      if found.any fun e => e.1 == f then .error (.repeated (fs.name f)) else .ok ((f, d) :: found)

/-- The fields of a record, which may also be written as a list of at least `least` of its fields if the
format allows it. -/
def fields (fs : FieldSet F) (least : Nat) (d : Document) : Decoded (List (F × Document)) :=
  match d.unmarked with
  | .list true items =>
    if least ≤ items.length ∧ items.length ≤ fs.all.length then .ok (fs.all.zip items)
    else .error .wrongLength
  | _ => do collect fs (← d.asRecord)

/-- A field that must be there. -/
def required {α : Type} (fs : FieldSet F) (found : List (F × Document)) (f : F)
    (read : Document → Decoded α) : Decoded α :=
  match found.lookup f with
  | some d => read d
  | none => .error (.missing (fs.name f))

/-- A field that has a default. -/
def withDefault {α : Type} (found : List (F × Document)) (f : F) (default : α)
    (read : Document → Decoded α) : Decoded α :=
  match found.lookup f with
  | some d => read d
  | none => .ok default

/-- A field that may be left out or be given as no value. -/
def optional {α : Type} (found : List (F × Document)) (f : F) (read : Document → Decoded α) :
    Decoded (Option α) :=
  withDefault found f none (asOptional read)

end Document

end ApiChain
