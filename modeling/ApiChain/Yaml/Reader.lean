import ApiChain.Yaml.Node.Anchors
import ApiChain.Yaml.Node.Reader
import ApiChain.Yaml.Scalar

/-!
# Documents written in YAML

`Yaml.readDocument` gives the document that a text holds, references replaced by the nodes that they
stand for. Two bounds keep this finite: nodes may be nested only so deep, and references may be
followed only so often for the length of the text. A part beyond either is unreadable.
-/

namespace ApiChain.Yaml

/-- How many lists and records may stand inside each other. -/
def maxDepth : Nat := 128

/-- How many references may be followed for each mark of the text. -/
def maxReferences : Nat := 100

/-- The node, or the one that it refers to. The state is the number of references that may still be
followed. -/
def follow (ts : Node.Targets) : Node Nat → StateM Nat (Option (Node Nat))
  | .reference number => do
    match (← get) with
    | 0 => return none
    | left + 1 =>
      set left
      return ts.get? number
  | n => return some n

/-- A list or record under a tag. -/
def underTag (tag : Option TagKind) (d : Document) : Document :=
  if tag = some .own then .marked d else d

/-- The document of a node that may hold `depth` lists and records inside each other. -/
def expand (ts : Node.Targets) : Nat → Node Nat → StateM Nat Document
  | 0, n => do
    match ← follow ts n with
    | some (.scalar p plain text) => return .scalar (scalar p.tag plain text)
    | _ => return .unreadable
  | inner + 1, n => do
    match ← follow ts n with
    | some (.scalar p plain text) => return .scalar (scalar p.tag plain text)
    | some (.sequence p items) =>
      let items ← items.mapM (expand ts inner)
      return underTag p.tag (.list false items)
    | some (.mapping p members) =>
      let members ← members.mapM fun (k, v) => do
        let key ← expand ts inner k
        let value ← expand ts inner v
        return (key, value)
      return underTag p.tag (.record members)
    | _ => return .unreadable

/-- The document of a tree of nodes. -/
def documentOf (n : Node Nat) : Document :=
  ((expand n.targets maxDepth n).run (maxReferences * n.size)).1

/-- The one document that a text holds. -/
def readDocument (text : String) : Except Error Document := do
  let tokens ← Token.ofText text.toList
  let named ← Node.ofTokens tokens
  let (n, _) ← Node.link [] named
  .ok (documentOf n)

end ApiChain.Yaml
