import ApiChain.Entries
import ApiChain.Yaml.Error
import ApiChain.Yaml.Node.Basic

/-!
# Anchors and references

A reference stands for the node whose anchor was read last before it under that name. Anchors are
numbered: a new one takes the count of the names that are known where it stands. A name that is given
again may so take a number that another node has already, and the later node is then the one that every
reference with the number stands for.
-/

namespace ApiChain.Yaml.Node

/-! ## Numbering -/

/-- The names known so far with their numbers. -/
abbrev Known := Entries Nat

/-- The properties with the number of the anchor, and the names known after it. -/
def linkProperties (known : Known) (p : Properties String) : Properties Nat × Known :=
  match p.anchor with
  | some name => (⟨some known.length, p.tag⟩, Entries.set known name known.length)
  | none => (⟨none, p.tag⟩, known)

mutual

/-- The node with numbers for names, and the names known after it. -/
def link (known : Known) : Node String → Except Error (Node Nat × Known)
  | .reference name =>
    match Entries.get? known name with
    | some n => .ok (.reference n, known)
    | none => .error .unknownAnchor
  | .scalar p plain text =>
    let (p, known) := linkProperties known p
    .ok (.scalar p plain text, known)
  | .sequence p items => do
    let (p, known) := linkProperties known p
    let (items, known) ← linkItems known items
    .ok (.sequence p items, known)
  | .mapping p members => do
    let (p, known) := linkProperties known p
    let (members, known) ← linkMembers known members
    .ok (.mapping p members, known)

/-- The nodes of a list with numbers for names. -/
def linkItems (known : Known) : List (Node String) → Except Error (List (Node Nat) × Known)
  | [] => .ok ([], known)
  | n :: rest => do
    let (n, known) ← link known n
    let (rest, known) ← linkItems known rest
    .ok (n :: rest, known)

/-- The members of a mapping with numbers for names. -/
def linkMembers (known : Known) :
    List (Node String × Node String) → Except Error (List (Node Nat × Node Nat) × Known)
  | [] => .ok ([], known)
  | (k, n) :: rest => do
    let (k, known) ← link known k
    let (n, known) ← link known n
    let (rest, known) ← linkMembers known rest
    .ok ((k, n) :: rest, known)

end

/-! ## Targets -/

/-- The nodes that references stand for. -/
abbrev Targets := List (Nat × Node Nat)

/-- The node itself as a target, if it has an anchor. -/
def ownTarget (p : Properties Nat) (n : Node Nat) : Targets :=
  match p.anchor with
  | some number => [(number, n)]
  | none => []

mutual

/-- The targets in a node, in the order in which they begin. -/
def targets : Node Nat → Targets
  | .reference _ => []
  | .scalar p plain text => ownTarget p (.scalar p plain text)
  | .sequence p items => ownTarget p (.sequence p items) ++ targetsOfItems items
  | .mapping p members => ownTarget p (.mapping p members) ++ targetsOfMembers members

/-- The targets in the items of a list. -/
def targetsOfItems : List (Node Nat) → Targets
  | [] => []
  | n :: rest => targets n ++ targetsOfItems rest

/-- The targets in the members of a mapping. -/
def targetsOfMembers : List (Node Nat × Node Nat) → Targets
  | [] => []
  | (k, n) :: rest => targets k ++ targets n ++ targetsOfMembers rest

end

/-- The node that a reference stands for: the last one with its number. -/
def Targets.get? (ts : Targets) (number : Nat) : Option (Node Nat) := ts.reverse.lookup number

/-! ## Size -/

mutual

/-- How many marks a node takes to write: one for a scalar or a reference, two around any other. -/
def size : Node Nat → Nat
  | .reference _ => 1
  | .scalar _ _ _ => 1
  | .sequence _ items => 2 + sizeOfItems items
  | .mapping _ members => 2 + sizeOfMembers members

/-- The size of the items of a list. -/
def sizeOfItems : List (Node Nat) → Nat
  | [] => 0
  | n :: rest => size n + sizeOfItems rest

/-- The size of the members of a mapping. -/
def sizeOfMembers : List (Node Nat × Node Nat) → Nat
  | [] => 0
  | (k, n) :: rest => size k + size n + sizeOfMembers rest

end

end ApiChain.Yaml.Node
