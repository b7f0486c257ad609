import ApiChain.Path.Basic
import ApiChain.Json.Printer

/-!
# What a path finds

Following a path never fails: it finds a value, nothing, or, after a broadcast, one result for each
element. `Resolved` is that tree of results, with its value, its text and the test for having found
nothing at all.
-/

namespace ApiChain

/-- What a path finds in a value. -/
inductive Resolved where
  /-- The path leads nowhere. -/
  | undefined
  /-- A value, which may itself be a list or an object. -/
  | scalar (v : Json)
  /-- One result for each element of a broadcast, in order. -/
  | sequence (slots : List Resolved)
deriving Repr, Inhabited

/-! ## Following the steps -/

namespace Json

/-- The value under a key: a member of an object, or the element of an array at a numeric place. -/
def child? (v : Json) (key : String) : Option Json :=
  match v with
  | .object members => Entries.get? members key
  | .array items => (Number.ofText? Number.maxUnsigned64 key.toList).bind (items[·]?)
  | _ => none

/-- The element of an array at a place. -/
def element? (v : Json) (n : Nat) : Option Json :=
  match v with
  | .array items => items[n]?
  | _ => none

/-- The values that a broadcast visits: the elements of an array, or the value itself. -/
def elements (v : Json) : List Json :=
  match v with
  | .array items => items
  | single => [single]

end Json

namespace Path

/-- What the steps find in a value. A broadcast follows the remaining steps from each element. -/
def resolve : Path → Json → Resolved
  | [], v => .scalar v
  | .key name :: rest, v =>
    match v.child? name with
    | some w => resolve rest w
    | none => .undefined
  | .index n :: rest, v =>
    match v.element? n with
    | some w => resolve rest w
    | none => .undefined
  | .broadcast :: rest, v => .sequence (v.elements.map fun w => resolve rest w)

end Path

/-- What a written path finds in a value. The empty path finds the value; a path whose brackets are not
well formed finds nothing. -/
def Json.resolve (root : Json) (path : String) : Resolved :=
  if path = "" then .scalar root
  else
    match Path.parse? path with
    | some steps => steps.resolve root
    | none => .undefined

/-! ## Reading the result -/

namespace Resolved

/-- Whether the path led nowhere before any broadcast. -/
def isUndefined : Resolved → Bool
  | .undefined => true
  | _ => false

mutual

/-- Whether nothing was found: no value, or a broadcast over at least one element that found nothing in
any slot. A broadcast over no element found the empty array. -/
def isUnresolved : Resolved → Bool
  | .undefined => true
  | .scalar _ => false
  | .sequence slots => !slots.isEmpty && allUnresolved slots

/-- Whether nothing was found in any slot. -/
def allUnresolved : List Resolved → Bool
  | [] => true
  | r :: rest => isUnresolved r && allUnresolved rest

end

mutual

/-- The result as a value: a sequence becomes an array in which an undefined slot is `null`. -/
def toJson? : Resolved → Option Json
  | .undefined => none
  | .scalar v => some v
  | .sequence slots => some (.array (slotValues slots))

/-- The values of the slots. -/
def slotValues : List Resolved → List Json
  | [] => []
  | r :: rest => (toJson? r).getD .null :: slotValues rest

end

mutual

/-- The result as text, unless nothing was found: the plain text of a value, the texts of the slots
with commas between them. -/
def textChars? : Resolved → Option (List Char)
  | .undefined => none
  | .scalar v => some v.plainChars
  | .sequence slots =>
    if !slots.isEmpty && allUnresolved slots then none
    else some (Text.joinWith [','] (slotTexts slots))

/-- The texts of the slots; a slot in which nothing was found is empty. -/
def slotTexts : List Resolved → List (List Char)
  | [] => []
  | r :: rest => (textChars? r).getD [] :: slotTexts rest

end

/-- The result as text, unless nothing was found. -/
def text? (r : Resolved) : Option String := (textChars? r).map String.ofList

end Resolved

end ApiChain
