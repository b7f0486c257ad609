import ApiChain.Number.Natural
import ApiChain.Text.Octets

/-!
# A place in a YAML text

The text from a place on, with the place's offset, line and column, and the classes of characters that
the grammar tells apart. Columns count characters, offsets octets. The end of the text is `none`.
-/

namespace ApiChain.Yaml

/-! ## Characters -/

/-- Whether the text may hold the character. -/
def isAllowed (c : Char) : Bool :=
  let n := c.toNat
  n == 0x09 || n == 0x0A || n == 0x0D || (0x20 ≤ n && n ≤ 0x7E) || n == 0x85
    || (0xA0 ≤ n && n ≤ 0xFFFD) || 0x10000 ≤ n

/-- A line break. -/
def isBreak : Option Char → Bool
  | some c => c == '\n' || c == '\r' || c == '\u0085' || c == '\u2028' || c == '\u2029'
  | none => false

/-- A space or a tab. -/
def isSpaceOrTab : Option Char → Bool
  | some c => c == ' ' || c == '\t'
  | none => false

/-- A line break or the end of the text. -/
def isBreakOrEnd (c : Option Char) : Bool := c.isNone || isBreak c

/-- A blank, a line break or the end of the text. -/
def isGapOrEnd (c : Option Char) : Bool := isSpaceOrTab c || isBreakOrEnd c

/-- A character of a name: a letter or digit of ASCII, a hyphen or an underscore. -/
def isNameChar (c : Char) : Bool := c.isAlphanum || c == '-' || c == '_'

/-! ## Places -/

/-- A place in a text. -/
structure Cursor where
  /-- The text from the place on. -/
  rest : List Char
  /-- How many octets of the text stand before the place. -/
  offset : Nat
  line : Nat
  column : Nat
deriving Repr

namespace Cursor

/-- The start of a text. -/
def start (text : List Char) : Cursor := ⟨text, 0, 0, 0⟩

/-- The character at the place, or `n` characters after it. -/
def peek (c : Cursor) (n : Nat) : Option Char := c.rest[n]?

/-- Whether the character at the place is the given one. -/
def looksAt (c : Cursor) (ch : Char) : Bool := c.rest.head? == some ch

/-- The place `n` characters later on the same line. -/
def skip (c : Cursor) (n : Nat) : Cursor where
  rest := c.rest.drop n
  offset := c.offset + Text.octetCount (c.rest.take n)
  line := c.line
  column := c.column + n

/-- The place after the characters of a class, none of which is a line break. -/
def skipWhile (c : Cursor) (p : Char → Bool) : Cursor := c.skip (c.rest.takeWhile p).length

/-- The characters of a class at the place. -/
def takeWhile (c : Cursor) (p : Char → Bool) : List Char := c.rest.takeWhile p

/-- The place after the spaces and tabs. -/
def skipBlanks (c : Cursor) : Cursor := c.skipWhile fun ch => ch == ' ' || ch == '\t'

/-- The place after the rest of the line, before its break. -/
def skipLine (c : Cursor) : Cursor := c.skipWhile fun ch => !isBreak (some ch)

/-- The place after the line break; the start of the next line. -/
def skipBreak (c : Cursor) : Cursor :=
  match c.rest with
  | '\r' :: '\n' :: rest => ⟨rest, c.offset + 2, c.line + 1, 0⟩
  | ch :: rest => ⟨rest, c.offset + ch.utf8Size, c.line + 1, 0⟩
  | [] => c

/-- The text that the line break stands for: breaks of lines are all one, those between paragraphs stay
what they are. -/
def breakText (c : Cursor) : List Char :=
  match c.rest with
  | '\u2028' :: _ => ['\u2028']
  | '\u2029' :: _ => ['\u2029']
  | _ :: _ => ['\n']
  | [] => []

/-- Whether a document mark of three such characters stands at the start of a line here. -/
def atMark (c : Cursor) (ch : Char) : Bool :=
  c.column == 0 && c.rest.take 3 == [ch, ch, ch] && isGapOrEnd (c.peek 3)

/-- Whether one of the two document marks stands here. -/
def atDocumentMark (c : Cursor) : Bool := c.atMark '-' || c.atMark '.'

end Cursor

end ApiChain.Yaml
