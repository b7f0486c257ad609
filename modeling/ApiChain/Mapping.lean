import ApiChain.Record
import ApiChain.Path.Resolve

/-!
# From response items to records

A rule copies what its source path finds in an item to the field named by its target. A payload that is
an array has one item for each element, any other payload is one item; each item gives one record, whose
fields are set in the order of the rules.
-/

namespace ApiChain

/-- Copies what a path finds in an item to a field. -/
structure Rule where
  /-- The path into an item. -/
  source : String
  /-- The name of the field. -/
  target : String
deriving DecidableEq, Repr

namespace Mapping

/-- What a source may start with to speak of the items of an envelope. -/
def envelopeMark : List Char := ['d', 'a', 't', 'a', '[', '*', ']']

/-- The path into an item for a source's characters. -/
def itemPathChars (source : List Char) : List Char :=
  match envelopeMark.isPrefixOf? source with
  | none => source
  | some [] => []
  | some (c :: rest) => if c = '.' then rest else source

/-- The path into an item. Items are taken out of the envelope first, so `data[*].field` is `field` on
the item and `data[*]` is the item itself; any other source is used as it stands. -/
def itemPath (source : String) : String := String.ofList (itemPathChars source.toList)

/-- The record of one item. -/
def recordOf (item : Json) (rules : List Rule) : Record :=
  rules.foldl (fun r rule => r.insert rule.target (item.resolve (itemPath rule.source)).toJson?)
    Record.empty

/-- The records of a payload, one for each item. -/
def records (payload : Json) (rules : List Rule) : List Record :=
  payload.elements.map fun item => recordOf item rules

end Mapping

end ApiChain
