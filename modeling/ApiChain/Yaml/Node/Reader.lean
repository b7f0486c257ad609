import ApiChain.Yaml.Node.Basic
import ApiChain.Yaml.Token

/-!
# Nodes from tokens

`Node.ofTokens` reads the tree of nodes off the tokens of a text that holds one document. Where a
node is left out, an empty plain scalar stands for it.

Every call on a list of tokens either takes one of them or hands the same list to a call for a smaller
part of the grammar, so a small multiple of the number of tokens is fuel enough.
-/

namespace ApiChain.Yaml

namespace Node

/-! ## Tags -/

/-- What the tag handles of a document stand for. -/
abbrev Handles := List (String × List UInt8)

/-- The handles that need no definition. -/
def defaultHandles : Handles :=
  [("!", Text.octets ['!']), ("!!", Text.octets TagKind.core.toList)]

/-- The kind of the tag that is left when what its handle stands for is put in the handle's place. -/
def resolveTag (handles : Handles) (t : Tag) : Except Error TagKind :=
  if t.handle.isEmpty then .ok (.ofOctets t.suffix)
  else
    match handles.lookup t.handle with
    | some meaning => .ok (.ofOctets (meaning ++ t.suffix))
    | none => .error .undefinedTagHandle

/-- Reads an optional tag. -/
def readTagProperty (handles : Handles) :
    List Token → Except Error (Option TagKind × List Token)
  | .tag t :: rest => do .ok (some (← resolveTag handles t), rest)
  | ts => .ok (none, ts)

/-- Reads the properties of a node: an anchor and a tag in either order. -/
def readProperties (handles : Handles) : List Token → Except Error (Properties String × List Token)
  | .anchor name :: rest => do
    let (tag, rest) ← readTagProperty handles rest
    .ok (⟨some name, tag⟩, rest)
  | .tag t :: .anchor name :: rest => do .ok (⟨some name, some (← resolveTag handles t)⟩, rest)
  | .tag t :: rest => do .ok (⟨none, some (← resolveTag handles t)⟩, rest)
  | ts => .ok (Properties.empty, ts)

/-! ## The grammar -/

/-- Where a node stands. -/
inductive Place where
  /-- Among the entries of a bracket. -/
  | flow
  /-- Among the entries of a block. -/
  | block
  /-- Beside the key of a block, where the entries of a list need no further indentation. -/
  | besideKey
deriving DecidableEq, Repr

/-- Whether a token ends an entry of a block list. -/
def endsBlockEntry : Token → Bool
  | .blockEntry | .blockEnd => true
  | _ => false

/-- Whether a token ends a key or value of a block mapping. -/
def endsBlockMember : Token → Bool
  | .key | .value | .blockEnd => true
  | _ => false

/-- Whether a token ends an entry of a list that shares the indentation of its key. -/
def endsSharedEntry (t : Token) : Bool := endsBlockMember t || t == .blockEntry

/-- Whether a token ends a value inside a bracket that `closing` closes. -/
def endsFlowValue (closing t : Token) : Bool := t == .flowEntry || t == closing

/-- Whether a token ends a key inside a bracket that `closing` closes. -/
def endsFlowKey (closing t : Token) : Bool := t == .value || endsFlowValue closing t

mutual

/-- Reads a node. -/
def readNode (handles : Handles) :
    Nat → Place → List Token → Except Error (Node String × List Token)
  | 0, _, _ => .error .unexpectedToken
  | fuel + 1, place, ts =>
    match ts with
    | .reference name :: rest => .ok (.reference name, rest)
    | ts => do
      let (p, ts) ← readProperties handles ts
      let inBlock := place != .flow
      match ts with
      | .scalar plain text :: rest => .ok (.scalar p plain text, rest)
      | .flowSequenceStart :: rest => do
        let (items, rest) ← readFlowItems handles fuel true rest
        .ok (.sequence p items, rest)
      | .flowMappingStart :: rest => do
        let (members, rest) ← readFlowMembers handles fuel true rest
        .ok (.mapping p members, rest)
      | ts =>
        match inBlock, ts with
        | true, .blockSequenceStart :: rest => do
          let (items, rest) ← readBlockItems handles fuel rest
          .ok (.sequence p items, rest)
        | true, .blockMappingStart :: rest => do
          let (members, rest) ← readBlockMembers handles fuel rest
          .ok (.mapping p members, rest)
        | _, ts =>
          if place = .besideKey ∧ ts.head? = some .blockEntry then do
            let (items, rest) ← readSharedItems handles fuel ts
            .ok (.sequence p items, rest)
          else if p = Properties.empty then .error .unexpectedToken
          else .ok (.scalar p true "", ts)

/-- Reads a node unless the next token ends it. -/
def readNodeUnless (handles : Handles) : Nat → Place → (Token → Bool) → List Token →
    Except Error (Node String × List Token)
  | 0, _, _, _ => .error .unexpectedToken
  | fuel + 1, place, ends, ts =>
    if ts.head?.any ends then .ok (empty, ts) else readNode handles fuel place ts

/-- Reads the entries of a block list and its end. -/
def readBlockItems (handles : Handles) : Nat → List Token →
    Except Error (List (Node String) × List Token)
  | 0, _ => .error .unexpectedToken
  | fuel + 1, ts =>
    match ts with
    | .blockEntry :: rest => do
      let (item, rest) ← readNodeUnless handles fuel .block endsBlockEntry rest
      let (items, rest) ← readBlockItems handles fuel rest
      .ok (item :: items, rest)
    | .blockEnd :: rest => .ok ([], rest)
    | _ => .error .unexpectedToken

/-- Reads the entries of a list that shares the indentation of its key. -/
def readSharedItems (handles : Handles) : Nat → List Token →
    Except Error (List (Node String) × List Token)
  | 0, _ => .error .unexpectedToken
  | fuel + 1, ts =>
    match ts with
    | .blockEntry :: rest => do
      let (item, rest) ← readNodeUnless handles fuel .block endsSharedEntry rest
      let (items, rest) ← readSharedItems handles fuel rest
      .ok (item :: items, rest)
    | ts => .ok ([], ts)

/-- Reads the members of a block mapping and its end. -/
def readBlockMembers (handles : Handles) : Nat → List Token →
    Except Error (List (Node String × Node String) × List Token)
  | 0, _ => .error .unexpectedToken
  | fuel + 1, ts =>
    match ts with
    | .key :: rest => do
      let (key, rest) ← readNodeUnless handles fuel .besideKey endsBlockMember rest
      let (value, rest) ← readBlockValue handles fuel rest
      let (members, rest) ← readBlockMembers handles fuel rest
      .ok ((key, value) :: members, rest)
    | .blockEnd :: rest => .ok ([], rest)
    | _ => .error .unexpectedToken

/-- Reads the value of a member of a block mapping, which may be left out. -/
def readBlockValue (handles : Handles) : Nat → List Token → Except Error (Node String × List Token)
  | 0, _ => .error .unexpectedToken
  | fuel + 1, ts =>
    match ts with
    | .value :: rest => readNodeUnless handles fuel .besideKey endsBlockMember rest
    | ts => .ok (empty, ts)

/-- Reads the entries of a bracketed list and its end; `first` before any of them was read. -/
def readFlowItems (handles : Handles) : Nat → Bool → List Token →
    Except Error (List (Node String) × List Token)
  | 0, _, _ => .error .unexpectedToken
  | fuel + 1, first, ts =>
    match first, ts with
    | _, .flowSequenceEnd :: rest => .ok ([], rest)
    | true, ts => readFlowItem handles fuel ts
    | false, .flowEntry :: rest => readFlowItem handles fuel rest
    | false, _ => .error .unexpectedToken

/-- Reads an entry of a bracketed list, which may be a single member of a mapping, and what follows
it. -/
def readFlowItem (handles : Handles) :
    Nat → List Token → Except Error (List (Node String) × List Token)
  | 0, _ => .error .unexpectedToken
  | fuel + 1, ts =>
    match ts with
    | .flowSequenceEnd :: rest => .ok ([], rest)
    | .key :: rest => do
      let (member, rest) ← readSingleMember handles fuel rest
      let (items, rest) ← readFlowItems handles fuel false rest
      .ok (.mapping Properties.empty [member] :: items, rest)
    | ts => do
      let (item, rest) ← readNode handles fuel .flow ts
      let (items, rest) ← readFlowItems handles fuel false rest
      .ok (item :: items, rest)

/-- Reads the single member of a mapping that is an entry of a bracketed list. Where the key is left
out, the token in its place is passed over. -/
def readSingleMember (handles : Handles) : Nat → List Token →
    Except Error ((Node String × Node String) × List Token)
  | 0, _ => .error .unexpectedToken
  | fuel + 1, ts => do
    let (key, rest) ←
      if ts.head?.any (endsFlowKey .flowSequenceEnd) then .ok (empty, ts.drop 1)
      else readNode handles fuel .flow ts
    let (value, rest) ← readFlowValue handles fuel .flowSequenceEnd rest
    .ok ((key, value), rest)

/-- Reads the value of a member inside a bracket, which may be left out. -/
def readFlowValue (handles : Handles) : Nat → Token → List Token →
    Except Error (Node String × List Token)
  | 0, _, _ => .error .unexpectedToken
  | fuel + 1, closing, ts =>
    match ts with
    | .value :: rest => readNodeUnless handles fuel .flow (endsFlowValue closing) rest
    | ts => .ok (empty, ts)

/-- Reads the members of a bracketed mapping and its end; `first` before any of them was read. -/
def readFlowMembers (handles : Handles) : Nat → Bool → List Token →
    Except Error (List (Node String × Node String) × List Token)
  | 0, _, _ => .error .unexpectedToken
  | fuel + 1, first, ts =>
    match first, ts with
    | _, .flowMappingEnd :: rest => .ok ([], rest)
    | true, ts => readFlowMember handles fuel ts
    | false, .flowEntry :: rest => readFlowMember handles fuel rest
    | false, _ => .error .unexpectedToken

/-- Reads a member of a bracketed mapping and what follows it. A node without a key's mark is a key
without a value. -/
def readFlowMember (handles : Handles) : Nat → List Token →
    Except Error (List (Node String × Node String) × List Token)
  | 0, _ => .error .unexpectedToken
  | fuel + 1, ts =>
    match ts with
    | .flowMappingEnd :: rest => .ok ([], rest)
    | .key :: rest => do
      let (key, rest) ← readNodeUnless handles fuel .flow (endsFlowKey .flowMappingEnd) rest
      let (value, rest) ← readFlowValue handles fuel .flowMappingEnd rest
      let (members, rest) ← readFlowMembers handles fuel false rest
      .ok ((key, value) :: members, rest)
    | ts => do
      let (key, rest) ← readNode handles fuel .flow ts
      let (members, rest) ← readFlowMembers handles fuel false rest
      .ok ((key, empty) :: members, rest)

end

/-! ## Documents -/

/-- The handles that the directives before a document define; a version is given at most once and is
`1.1` or `1.2`. -/
def readDirectives : Bool → Handles → List Token → Except Error (Handles × List Token)
  | versioned, handles, .directive (.version major minor) :: rest =>
    if versioned then .error .repeatedDirective
    else if major = 1 ∧ (minor = 1 ∨ minor = 2) then readDirectives true handles rest
    else .error .incompatibleVersion
  | versioned, handles, .directive (.tag handle meaning) :: rest =>
    if (handles.lookup handle).isSome then .error .repeatedDirective
    else readDirectives versioned ((handle, meaning) :: handles) rest
  | _, handles, ts => .ok (handles, ts)

/-- Whether a document starts without a mark: neither a directive nor a mark stands there. -/
def startsBare : List Token → Bool
  | .directive _ :: _ => false
  | .documentStart :: _ => false
  | _ => true

/-- Whether nothing stands between the marks of a document. -/
def isBare : List Token → Bool
  | [] => true
  | .directive _ :: _ => true
  | .documentStart :: _ => true
  | .documentEnd :: _ => true
  | _ => false

/-- Reads the node of a document. -/
def readDocument (fuel : Nat) (ts : List Token) : Except Error (Node String × List Token) :=
  if startsBare ts then readNode defaultHandles fuel .block ts
  else do
    let (handles, ts) ← readDirectives false [] ts
    match ts with
    | .documentStart :: rest =>
      if isBare rest then .ok (empty, rest)
      else readNode (handles ++ defaultHandles) fuel .block rest
    | _ => .error .unexpectedToken

/-- The node of the one document that the tokens hold. -/
def ofTokens (ts : List Token) : Except Error (Node String) :=
  if ts.isEmpty then .error .noDocument
  else do
    let (node, rest) ← readDocument (4 * ts.length + 4) ts
    if rest.all (· == .documentEnd) then .ok node else .error .severalDocuments

end Node

end ApiChain.Yaml
