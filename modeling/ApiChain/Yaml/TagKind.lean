import ApiChain.Text.Octets

/-!
# Kinds of tags

A tag asks something of its node by what it says. Four tags of the format ask a scalar for a value of
one type. One that begins with an exclamation mark is the author's own, if it is a text at all.
-/

namespace ApiChain.Yaml

/-- What a tag asks of its node. -/
inductive TagKind where
  | bool
  | int
  | float
  | null
  /-- A tag of the author's own, whose meaning is not known. -/
  | own
  /-- A tag that begins as one of the author's own, but whose octets encode no text. -/
  | nameless
  /-- Any other tag; a scalar under it is a text. -/
  | foreign
deriving DecidableEq, Repr

namespace TagKind

/-- What the tags of the format begin with. -/
def core : String := "tag:yaml.org,2002:"

/-- The tags of the format that ask for a type of value, by what follows their common beginning. -/
def coreKinds : List (String × TagKind) :=
  [("bool", .bool), ("int", .int), ("float", .float), ("null", .null)]

/-- The kind of a tag that is a text. -/
def ofText (tag : List Char) : TagKind :=
  match coreKinds.find? fun k => core.toList ++ k.1.toList == tag with
  | some (_, kind) => kind
  | none => if tag.head? = some '!' then .own else .foreign

/-- The kind of a tag. -/
def ofOctets (tag : List UInt8) : TagKind :=
  match Text.ofOctets? tag with
  | some text => ofText text
  | none => if tag.head? = (Text.octets ['!']).head? then .nameless else .foreign

end TagKind

end ApiChain.Yaml
