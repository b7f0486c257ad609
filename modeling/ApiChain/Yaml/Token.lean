import ApiChain.Yaml.Property
import ApiChain.Yaml.ScalarText

/-!
# The tokens of a YAML text

A YAML text is a list of tokens: indicators, scalars, and the marks that open and close a block, which
the text itself shows by indentation alone. That a scalar is a key is known only when the colon after it
is reached; until then the scanner keeps the place in the list at which the key would begin, one such
place for each open bracket, and the mark of the key is inserted there.
-/

namespace ApiChain.Yaml

/-- A token of a YAML text. -/
inductive Token where
  | directive (d : Directive)
  | documentStart
  | documentEnd
  | blockSequenceStart
  | blockMappingStart
  | blockEnd
  | flowSequenceStart
  | flowSequenceEnd
  | flowMappingStart
  | flowMappingEnd
  | blockEntry
  | flowEntry
  | key
  | value
  /-- A reference to the node with an anchor. -/
  | reference (name : String)
  | anchor (name : String)
  | tag (t : Tag)
  /-- A scalar; `plain` if it has neither quotes nor the form of a block. -/
  | scalar (plain : Bool) (text : String)
deriving DecidableEq, Repr

/-! ## The scanner -/

/-- A place at which a key may have begun. -/
structure PossibleKey where
  /-- Where in the list of tokens the key begins. -/
  token : Nat
  /-- Whether nothing but a key can stand there. -/
  required : Bool
  /-- How many octets of the text stand before it. -/
  offset : Nat
  line : Nat
  column : Nat
deriving Repr

/-- The scanner at a place in the text. -/
structure Scanner where
  cursor : Cursor
  tokens : Array Token
  /-- The columns of the open blocks, innermost first. -/
  blocks : List Nat
  /-- Whether a key may begin here. -/
  keyAllowed : Bool
  /-- The key that may have begun inside the innermost bracket. -/
  key : Option PossibleKey
  /-- Those inside the brackets around it; one for each open bracket. -/
  outer : List (Option PossibleKey)
deriving Repr

namespace Scanner

/-- The scanner at the start of a text. -/
def start (text : List Char) : Scanner where
  cursor := Cursor.start text
  tokens := #[]
  blocks := []
  keyAllowed := true
  key := none
  outer := []

/-- Whether a bracket is open, so that indentation means nothing. -/
def inFlow (s : Scanner) : Bool := !s.outer.isEmpty

/-- The column of the innermost block, or `-1` if none is open. -/
def indent (s : Scanner) : Int :=
  match s.blocks with
  | column :: _ => column
  | [] => -1

/-- Appends a token. -/
def push (s : Scanner) (t : Token) : Scanner := { s with tokens := s.tokens.push t }

/-! ### Blocks -/

/-- Opens a block at a column, unless one is open there or further right. Its mark is put at the place
`token` in the list of tokens. -/
def openBlock (s : Scanner) (column : Nat) (token : Nat) (mark : Token) : Scanner :=
  if !s.inFlow && s.indent < (column : Int) then
    { s with blocks := column :: s.blocks, tokens := s.tokens.insertIdxIfInBounds token mark }
  else s

/-- Closes the blocks that are further right than the column `least`. -/
def closeBlocks (s : Scanner) (least : Int) : Scanner :=
  if s.inFlow then s
  else
    let closed := s.blocks.takeWhile fun (column : Nat) => decide (least < column)
    { s with
      blocks := s.blocks.drop closed.length
      tokens := s.tokens ++ (List.replicate closed.length Token.blockEnd).toArray }

/-! ### Keys -/

/-- The most octets between the start of a key and its colon. -/
def maxKeyLength : Nat := 1024

/-- Whether the colon of a key that began at `k` can no longer come. -/
def isPast (s : Scanner) (k : PossibleKey) : Bool :=
  decide (k.line < s.cursor.line) || decide (k.offset + maxKeyLength < s.cursor.offset)

/-- Gives up a key that cannot be one any more. -/
def dropPast (s : Scanner) : Option PossibleKey → Except Error (Option PossibleKey)
  | some k =>
    if s.isPast k then if k.required then .error .missingColon else .ok none else .ok (some k)
  | none => .ok none

/-- Gives up all keys that cannot be ones any more. -/
def dropPastKeys (s : Scanner) : Except Error Scanner := do
  let outer ← s.outer.mapM s.dropPast
  let key ← s.dropPast s.key
  .ok { s with key, outer }

/-- Gives up the innermost key. -/
def dropKey (s : Scanner) : Except Error Scanner :=
  match s.key with
  | some k => if k.required then .error .missingColon else .ok { s with key := none }
  | none => .ok s

/-- Notes that a key may begin here. -/
def noteKey (s : Scanner) : Except Error Scanner :=
  if s.keyAllowed then do
    let c := s.cursor
    let required := !s.inFlow && s.indent == (c.column : Int)
    let s ← s.dropKey
    .ok { s with key := some ⟨s.tokens.size, required, c.offset, c.line, c.column⟩ }
  else .ok s

/-! ### Gaps between tokens -/

/-- Skips what may stand between two tokens: blanks, comments and line breaks. After a line break
outside brackets a key may begin; where one may begin, a tab is no blank. -/
def skipGap : Nat → Scanner → Scanner
  | 0, s => s
  | fuel + 1, s =>
    let c := s.cursor
    let c := if c.column == 0 && c.looksAt '\uFEFF' then c.skip 1 else c
    let tabs := s.inFlow || !s.keyAllowed
    let c := c.skipWhile fun ch => ch == ' ' || (tabs && ch == '\t')
    let c := if c.looksAt '#' then c.skipLine else c
    if isBreak (c.peek 0) then
      skipGap fuel { s with cursor := c.skipBreak, keyAllowed := s.keyAllowed || !s.inFlow }
    else { s with cursor := c }

/-! ### Tokens -/

/-- A token that closes all blocks and any key: the mark of a document or a directive. -/
def breakOff (s : Scanner) : Except Error Scanner := do
  let s ← (s.closeBlocks (-1)).dropKey
  .ok { s with keyAllowed := false }

/-- Reads a directive. -/
def scanDirective (s : Scanner) : Except Error Scanner := do
  let s ← s.breakOff
  let (d, cursor) ← readDirective s.cursor
  .ok { s.push (.directive d) with cursor }

/-- Reads a mark of three characters that starts or ends a document. -/
def scanDocumentMark (s : Scanner) (mark : Token) : Except Error Scanner := do
  let s ← s.breakOff
  .ok { s.push mark with cursor := s.cursor.skip 3 }

/-- Reads an opening bracket. -/
def scanOpen (s : Scanner) (mark : Token) : Except Error Scanner := do
  let s ← s.noteKey
  .ok { s.push mark with
    cursor := s.cursor.skip 1, keyAllowed := true, key := none, outer := s.key :: s.outer }

/-- Reads a closing bracket. -/
def scanClose (s : Scanner) (mark : Token) : Except Error Scanner := do
  let s ← s.dropKey
  let (key, outer) := match s.outer with
    | key :: outer => (key, outer)
    | [] => (none, [])
  .ok { s.push mark with cursor := s.cursor.skip 1, keyAllowed := false, key, outer }

/-- Reads a comma. -/
def scanFlowEntry (s : Scanner) : Except Error Scanner := do
  let s ← s.dropKey
  .ok { s.push .flowEntry with cursor := s.cursor.skip 1, keyAllowed := true }

/-- Reads the hyphen before a list entry. -/
def scanBlockEntry (s : Scanner) : Except Error Scanner := do
  if !s.inFlow && !s.keyAllowed then .error .entryNotAllowed
  else
    let s ← (s.openBlock s.cursor.column s.tokens.size .blockSequenceStart).dropKey
    .ok { s.push .blockEntry with cursor := s.cursor.skip 1, keyAllowed := true }

/-- Reads the question mark before a key. -/
def scanKey (s : Scanner) : Except Error Scanner := do
  if !s.inFlow && !s.keyAllowed then .error .keyNotAllowed
  else
    let s ← (s.openBlock s.cursor.column s.tokens.size .blockMappingStart).dropKey
    .ok { s.push .key with cursor := s.cursor.skip 1, keyAllowed := !s.inFlow }

/-- Reads the colon between a key and its value. -/
def scanValue (s : Scanner) : Except Error Scanner :=
  match s.key with
  | some k =>
    let s := { s with tokens := s.tokens.insertIdxIfInBounds k.token Token.key, key := none }
    let s := s.openBlock k.column k.token .blockMappingStart
    .ok { s.push .value with cursor := s.cursor.skip 1, keyAllowed := false }
  | none =>
    if !s.inFlow && !s.keyAllowed then .error .valueNotAllowed
    else
      let s := s.openBlock s.cursor.column s.tokens.size .blockMappingStart
      .ok { s.push .value with cursor := s.cursor.skip 1, keyAllowed := !s.inFlow }

/-- Reads a word after which no key may begin, and which may begin one itself. -/
def scanWord {α : Type} (s : Scanner) (read : Cursor → Except Error (α × Cursor))
    (token : α → Token) : Except Error Scanner := do
  let s ← s.noteKey
  let (word, cursor) ← read s.cursor
  .ok { s.push (token word) with cursor, keyAllowed := false }

/-- Reads a scalar in the form of a block. -/
def scanBlockScalar (s : Scanner) (literal : Bool) : Except Error Scanner := do
  let s ← s.dropKey
  let (text, cursor) ← readBlock literal s.indent s.cursor
  .ok { s.push (.scalar false (String.ofList text)) with cursor, keyAllowed := true }

/-- Reads a quoted scalar. -/
def scanQuoted (s : Scanner) (single : Bool) : Except Error Scanner :=
  s.scanWord (readQuoted single) fun text => .scalar false (String.ofList text)

/-- Reads a plain scalar. -/
def scanPlain (s : Scanner) : Except Error Scanner := do
  let s ← s.noteKey
  let (text, cursor, broken) ← readPlain s.inFlow s.indent s.cursor
  .ok { s.push (.scalar true (String.ofList text)) with cursor, keyAllowed := broken }

/-- The characters that cannot begin a plain scalar on their own. -/
def isIndicator (c : Char) : Bool :=
  ['-', '?', ':', ',', '[', ']', '{', '}', '#', '&', '*', '!', '|', '>', '\'', '"', '%', '@',
    '\x60'].contains c

/-- Whether a plain scalar begins with the character, the next one being `next`. -/
def beginsPlain (flow : Bool) (ch : Char) (next : Option Char) : Bool :=
  (!isIndicator ch && !isGapOrEnd (some ch))
    || (ch == '-' && !isSpaceOrTab next)
    || (!flow && (ch == '?' || ch == ':') && !isGapOrEnd next)

/-- Reads the token that begins with the character. -/
def scanToken (s : Scanner) (ch : Char) : Except Error Scanner :=
  let next := s.cursor.peek 1
  let separate := s.inFlow || isGapOrEnd next
  if ch = '%' ∧ s.cursor.column = 0 then s.scanDirective
  else if s.cursor.atMark '-' then s.scanDocumentMark .documentStart
  else if s.cursor.atMark '.' then s.scanDocumentMark .documentEnd
  else if ch = '[' then s.scanOpen .flowSequenceStart
  else if ch = '{' then s.scanOpen .flowMappingStart
  else if ch = ']' then s.scanClose .flowSequenceEnd
  else if ch = '}' then s.scanClose .flowMappingEnd
  else if ch = ',' then s.scanFlowEntry
  else if ch = '-' ∧ isGapOrEnd next then s.scanBlockEntry
  else if ch = '?' ∧ separate then s.scanKey
  else if ch = ':' ∧ separate then s.scanValue
  else if ch = '*' then s.scanWord readAnchor .reference
  else if ch = '&' then s.scanWord readAnchor .anchor
  else if ch = '!' then s.scanWord (readTag s.inFlow) .tag
  else if ch = '|' ∧ !s.inFlow then s.scanBlockScalar true
  else if ch = '>' ∧ !s.inFlow then s.scanBlockScalar false
  else if ch = '\'' then s.scanQuoted true
  else if ch = '"' then s.scanQuoted false
  else if beginsPlain s.inFlow ch next then s.scanPlain
  else .error .unexpectedCharacter

/-- Reads the tokens from a place on. Each of them takes a character at least. -/
def scanFrom : Nat → Scanner → Except Error (List Token)
  | 0, _ => .error .unexpectedCharacter
  | fuel + 1, s => do
    let s := skipGap (fuel + 1) s
    let s ← s.dropPastKeys
    let s := s.closeBlocks s.cursor.column
    match s.cursor.peek 0 with
    | none => return (← s.breakOff).tokens.toList
    | some ch => scanFrom fuel (← s.scanToken ch)

end Scanner

/-- The tokens of a text. -/
def Token.ofText (text : List Char) : Except Error (List Token) :=
  if text.all isAllowed then Scanner.scanFrom (text.length + 1) (Scanner.start text)
  else .error .forbiddenCharacter

end ApiChain.Yaml
