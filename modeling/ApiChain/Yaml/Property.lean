import ApiChain.Yaml.Cursor
import ApiChain.Yaml.Error

/-!
# Anchors, tags and directives

The small words of the format: names of anchors, tags of nodes, and the directives before a document.
Each reader starts at the word's indicator and gives the word with the place after it.

A tag is a list of octets, since escapes may put any of them into it. What a tag says ends before its
first zero.
-/

namespace ApiChain.Yaml

open ApiChain.Number (isDigit digitValue? ofDigits?)

/-! ## Anchors -/

/-- A character other than a gap that may follow the name of an anchor. -/
def endsAnchor (c : Char) : Bool :=
  c == '?' || c == ':' || c == ',' || c == ']' || c == '}' || c == '%' || c == '@' || c == '\x60'

/-- Reads the name of an anchor or a reference. -/
def readAnchor (c : Cursor) : Except Error (String × Cursor) :=
  let name := (c.skip 1).takeWhile isNameChar
  let after := c.skip (1 + name.length)
  if name.isEmpty then .error .malformedAnchor
  else if isGapOrEnd (after.peek 0) || (after.peek 0).any endsAnchor then
    .ok (String.ofList name, after)
  else .error .malformedAnchor

/-! ## Tags -/

/-- A character of a tag that stands for itself. -/
def isTagChar (c : Char) : Bool :=
  isNameChar c
    || [';', '/', '?', ':', '@', '&', '=', '+', '$', '.', '!', '~', '*', '\'', '(', ')'].contains c

/-- A character that stands for itself where brackets cannot end the tag. -/
def isLongTagChar (c : Char) : Bool := isTagChar c || c == ',' || c == '[' || c == ']'

/-- Reads an octet, written as a percent sign and two hexadecimal digits. -/
def readOctet (c : Cursor) : Except Error (UInt8 × Cursor) :=
  match c.rest with
  | '%' :: high :: low :: _ =>
    match digitValue? high, digitValue? low with
    | some h, some l => .ok (UInt8.ofNat (16 * h + l), c.skip 3)
    | _, _ => .error .malformedTag
  | _ => .error .malformedTag

/-- How many octets follow the first one of a character. -/
def trailingCount? (first : UInt8) : Option Nat :=
  let n := first.toNat
  if n < 0x80 then some 0
  else if n < 0xC0 then none
  else if n < 0xE0 then some 1
  else if n < 0xF0 then some 2
  else if n < 0xF8 then some 3
  else none

/-- Whether an octet has the form of those that follow the first one of a character. -/
def isTrailing (octet : UInt8) : Bool := decide (0x80 ≤ octet.toNat ∧ octet.toNat < 0xC0)

/-- Reads `n` octets that follow the first one of a character. -/
def readTrailing : Nat → Cursor → Except Error (List UInt8 × Cursor)
  | 0, c => .ok ([], c)
  | n + 1, c => do
    let (octet, c) ← readOctet c
    if isTrailing octet then
      let (octets, c) ← readTrailing n c
      .ok (octet :: octets, c)
    else .error .malformedTag

/-- Reads the octets of an escaped character. They have the form of one, which is all that is asked of
them: they may encode nothing. -/
def readEscapedTagChar (c : Cursor) : Except Error (List UInt8 × Cursor) := do
  let (first, c) ← readOctet c
  match trailingCount? first with
  | some n =>
    let (octets, c) ← readTrailing n c
    .ok (first :: octets, c)
  | none => .error .malformedTag

/-- Reads the octets of a tag, the characters of `own` standing for themselves. `acc` holds the octets
read so far, last one first. -/
def readTagOctets (own : Char → Bool) :
    Nat → Cursor → List UInt8 → Except Error (List UInt8 × Cursor)
  | 0, c, acc => .ok (acc.reverse, c)
  | fuel + 1, c, acc =>
    match c.peek 0 with
    | none => .ok (acc.reverse, c)
    | some ch =>
      if own ch then readTagOctets own fuel (c.skip 1) ((Text.octets [ch]).reverse ++ acc)
      else if ch = '%' then
        match readEscapedTagChar c with
        | .ok (octets, after) => readTagOctets own fuel after (octets.reverse ++ acc)
        | .error e => .error e
      else .ok (acc.reverse, c)

/-- What octets say: those before the first zero. -/
def beforeZero (octets : List UInt8) : List UInt8 := octets.takeWhile (· != 0)

/-- Reads what one or more octets of a tag say. -/
def readTagText (own : Char → Bool) (c : Cursor) : Except Error (List UInt8 × Cursor) := do
  let (octets, after) ← readTagOctets own (c.rest.length + 1) c []
  if octets.isEmpty then .error .malformedTag else .ok (beforeZero octets, after)

/-- A tag as it is written: a handle that a directive may define, and a suffix. A tag written in
full has no handle. -/
structure Tag where
  handle : String
  suffix : List UInt8
deriving DecidableEq, Repr

/-- The tag that is an exclamation mark alone; it has no handle. -/
def Tag.mark : Tag := ⟨"", Text.octets ['!']⟩

/-- Reads an exclamation mark with the name after it and the exclamation mark that may close it. -/
def readHandle (c : Cursor) : List Char × Cursor :=
  let name := (c.skip 1).takeWhile isNameChar
  let after := c.skip (1 + name.length)
  if after.looksAt '!' then ('!' :: (name ++ ['!']), after.skip 1) else ('!' :: name, after)

/-- Reads a tag up to what follows it. -/
def readTagParts (c : Cursor) : Except Error (Tag × Cursor) := do
  if c.peek 1 = some '<' then
    let (suffix, after) ← readTagText isLongTagChar (c.skip 2)
    if after.looksAt '>' then .ok (⟨"", suffix⟩, after.skip 1)
    else .error .malformedTag
  else
    let (handle, after) := readHandle c
    if 1 < handle.length ∧ handle.getLast? = some '!' then
      let (suffix, after) ← readTagText isTagChar after
      .ok (⟨String.ofList handle, suffix⟩, after)
    else
      let name := (Text.octets (handle.drop 1)).reverse
      let (octets, after) ← readTagOctets isTagChar (after.rest.length + 1) after name
      match beforeZero octets with
      | [] => .ok (Tag.mark, after)
      | suffix => .ok (⟨"!", suffix⟩, after)

/-- Reads a tag, which must be followed by a gap, or by a comma inside brackets. -/
def readTag (flow : Bool) (c : Cursor) : Except Error (Tag × Cursor) := do
  let (tag, after) ← readTagParts c
  if isGapOrEnd (after.peek 0) || (flow && after.looksAt ',') then .ok (tag, after)
  else .error .malformedTag

/-! ## Directives -/

/-- What a directive says. -/
inductive Directive where
  /-- The version of the format that the document is written in. -/
  | version (major minor : Nat)
  /-- What a tag handle stands for. -/
  | tag (handle : String) (meaning : List UInt8)
deriving DecidableEq, Repr

/-- The most digits that a number of a version has. -/
def maxVersionDigits : Nat := 9

/-- Reads a number of a version. -/
def readVersionNumber (c : Cursor) : Except Error (Nat × Cursor) :=
  let digits := c.takeWhile isDigit
  match ofDigits? 10 digits with
  | some n =>
    if digits.length ≤ maxVersionDigits then .ok (n, c.skip digits.length)
    else .error .malformedDirective
  | none => .error .malformedDirective

/-- Reads a version: two numbers with a point between them. -/
def readVersion (c : Cursor) : Except Error (Directive × Cursor) := do
  let (major, c) ← readVersionNumber c
  if c.looksAt '.' then
    let (minor, c) ← readVersionNumber (c.skip 1)
    .ok (.version major minor, c)
  else .error .malformedDirective

/-- Reads the definition of a tag handle. -/
def readTagDefinition (c : Cursor) : Except Error (Directive × Cursor) := do
  if c.looksAt '!' then
    let (handle, c) := readHandle c
    if handle.getLast? = some '!' ∧ isSpaceOrTab (c.peek 0) then
      let (meaning, c) ← readTagText isLongTagChar c.skipBlanks
      if isGapOrEnd (c.peek 0) then
        .ok (.tag (String.ofList handle) meaning, c)
      else .error .malformedDirective
    else .error .malformedDirective
  else .error .malformedDirective

/-- Reads a directive with the rest of its line. -/
def readDirective (c : Cursor) : Except Error (Directive × Cursor) := do
  let name := (c.skip 1).takeWhile isNameChar
  let after := c.skip (1 + name.length)
  if !isGapOrEnd (after.peek 0) then .error .malformedDirective
  else
    let (directive, c) ←
      if name = ['Y', 'A', 'M', 'L'] then readVersion after.skipBlanks
      else if name = ['T', 'A', 'G'] then readTagDefinition after.skipBlanks
      else .error .malformedDirective
    let c := c.skipBlanks
    let c := if c.looksAt '#' then c.skipLine else c
    if isBreakOrEnd (c.peek 0) then .ok (directive, c.skipBreak) else .error .malformedDirective

end ApiChain.Yaml
