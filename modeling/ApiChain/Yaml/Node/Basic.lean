import ApiChain.Yaml.TagKind

/-!
# The nodes of a YAML text

A document is a tree of scalars, sequences, mappings and references to nodes elsewhere in it. The
names by which nodes are referred to are those of the text at first, and numbers later.
-/

namespace ApiChain.Yaml

/-- What may be written before a node: a name for it and a tag. -/
structure Properties (R : Type) where
  anchor : Option R
  tag : Option TagKind
deriving DecidableEq, Repr

/-- No properties. -/
def Properties.empty {R : Type} : Properties R := ⟨none, none⟩

/-- A node of a document whose anchors are named by `R`. -/
inductive Node (R : Type) where
  /-- Another place for the node with the anchor. -/
  | reference (anchor : R)
  /-- A scalar; `plain` if it has neither quotes nor the form of a block. -/
  | scalar (properties : Properties R) (plain : Bool) (text : String)
  | sequence (properties : Properties R) (items : List (Node R))
  | mapping (properties : Properties R) (members : List (Node R × Node R))
deriving Repr, Inhabited

namespace Node

variable {R : Type}

/-- The node that stands where none is written. -/
def empty : Node R := .scalar Properties.empty true ""

end Node

end ApiChain.Yaml
