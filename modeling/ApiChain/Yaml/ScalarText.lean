import ApiChain.Yaml.Cursor
import ApiChain.Yaml.Error

/-!
# The texts of scalars

A scalar is written plain, between quotes, or as a block. In the first two, a gap of blanks and line
breaks folds: one break becomes a space, more of them lose the first. A block keeps its breaks or folds
them line by line, and its indentation is taken off.

Each reader starts at a place in the text and gives the scalar's text with the place after it. Every
step takes at least one character, so the length of the text is fuel enough, also for the steps inside
a step.
-/

namespace ApiChain.Yaml

open ApiChain.Number (isDigit isHexDigit ofDigits?)

/-! ## Gaps -/

/-- A run of blanks and line breaks inside a scalar. -/
structure Gap where
  /-- The blanks before any line break. -/
  blanks : List Char
  /-- The text of the first line break. -/
  first : List Char
  /-- The texts of the later line breaks. -/
  later : List Char
  /-- Whether a line break has been passed. -/
  broken : Bool
deriving Repr

namespace Gap

/-- A gap before anything was read. -/
def empty : Gap := ⟨[], [], [], false⟩

/-- What the gap is in the scalar's text. -/
def text (g : Gap) : List Char :=
  if g.broken then
    if g.first = ['\n'] then
      if g.later.isEmpty then [' '] else g.later
    else g.first ++ g.later
  else g.blanks

/-- Reads a gap. A tab before the column `least` of a later line is refused. -/
def read (least : Int) : Nat → Cursor → Gap → Except Error (Gap × Cursor)
  | 0, c, g => .ok (g, c)
  | fuel + 1, c, g =>
    match c.peek 0 with
    | some ch =>
      if isSpaceOrTab (some ch) then
        if g.broken then
          if (c.column : Int) < least ∧ ch = '\t' then .error .tabInIndentation
          else read least fuel (c.skip 1) g
        else read least fuel (c.skip 1) { g with blanks := g.blanks ++ [ch] }
      else if isBreak (some ch) then
        if g.broken then
          read least fuel c.skipBreak { g with later := g.later ++ c.breakText }
        else read least fuel c.skipBreak { g with blanks := [], first := c.breakText, broken := true }
      else .ok (g, c)
    | none => .ok (g, c)

end Gap

/-! ## Quoted scalars -/

/-- How many hexadecimal digits follow an escape character. -/
def escapeLength? : Char → Option Nat
  | 'x' => some 2
  | 'u' => some 4
  | 'U' => some 8
  | _ => none

/-- The character that an escape character stands for. -/
def escaped? : Char → Option Char
  | '0' => some '\x00'
  | 'a' => some '\x07'
  | 'b' => some '\x08'
  | 't' => some '\t'
  | '\t' => some '\t'
  | 'n' => some '\n'
  | 'v' => some '\x0b'
  | 'f' => some '\x0c'
  | 'r' => some '\r'
  | 'e' => some '\x1b'
  | ' ' => some ' '
  | '"' => some '"'
  | '/' => some '/'
  | '\\' => some '\\'
  | 'N' => some '\u0085'
  | '_' => some '\u00a0'
  | 'L' => some '\u2028'
  | 'P' => some '\u2029'
  | _ => none

/-- The character written by hexadecimal digits. -/
def codePoint? (digits : List Char) : Option Char :=
  (ofDigits? 16 digits).bind fun n =>
    if n.isValidChar then some (Char.ofNat n) else none

/-- The escape sequence after a backslash, with the place after it. -/
def readEscape (c : Cursor) : Except Error (Char × Cursor) :=
  match c.peek 1 with
  | none => .error .unknownEscape
  | some e =>
    match escapeLength? e with
    | some n =>
      let digits := (c.rest.drop 2).take n
      if digits.length = n then
        match codePoint? digits with
        | some ch => .ok (ch, c.skip (n + 2))
        | none => .error .unknownEscape
      else .error .unknownEscape
    | none =>
      match escaped? e with
      | some ch => .ok (ch, c.skip 2)
      | none => .error .unknownEscape

/-- Where a run of characters between gaps ended. -/
inductive RunEnd where
  /-- At a blank, a break, or the end of the text. -/
  | gap
  /-- At the closing quote. -/
  | quote
  /-- After an escaped line break. -/
  | escapedBreak
deriving DecidableEq, Repr

/-- Reads the characters of a quoted scalar up to a gap or the closing quote. `acc` holds the characters
read so far, last one first. -/
def readQuotedRun (single : Bool) : Nat → Cursor → List Char →
    Except Error (RunEnd × List Char × Cursor)
  | 0, c, acc => .ok (.gap, acc, c)
  | fuel + 1, c, acc =>
    match c.peek 0 with
    | none => .ok (.gap, acc, c)
    | some ch =>
      if isGapOrEnd (some ch) then .ok (.gap, acc, c)
      else if single then
        if ch = '\'' then
          if c.peek 1 = some '\'' then readQuotedRun single fuel (c.skip 2) ('\'' :: acc)
          else .ok (.quote, acc, c)
        else readQuotedRun single fuel (c.skip 1) (ch :: acc)
      else if ch = '"' then .ok (.quote, acc, c)
      else if ch = '\\' then
        if isBreak (c.peek 1) then .ok (.escapedBreak, acc, (c.skip 1).skipBreak)
        else
          match readEscape c with
          | .error e => .error e
          | .ok (e, after) => readQuotedRun single fuel after (e :: acc)
      else readQuotedRun single fuel (c.skip 1) (ch :: acc)

/-- Reads a quoted scalar after its opening quote. -/
def readQuotedFrom (single : Bool) : Nat → Cursor → List Char → Except Error (List Char × Cursor)
  | 0, _, _ => .error .unclosedQuote
  | fuel + 1, c, acc =>
    if c.atDocumentMark then .error .markInsideQuote
    else if (c.peek 0).isNone then .error .unclosedQuote
    else
      match readQuotedRun single (fuel + 1) c acc with
      | .error e => .error e
      | .ok (.quote, acc, c) => .ok (acc.reverse, c.skip 1)
      | .ok (ended, acc, c) =>
        -- Right after an escaped break a quote closes the scalar at once.
        if ended = .escapedBreak ∧ c.looksAt (if single then '\'' else '"') then
          .ok (acc.reverse, c.skip 1)
        else
          let gap := { Gap.empty with broken := ended = .escapedBreak }
          match Gap.read 0 (fuel + 1) c gap with
          | .error e => .error e
          | .ok (gap, c) => readQuotedFrom single fuel c (gap.text.reverse ++ acc)

/-- Reads a quoted scalar at its opening quote. -/
def readQuoted (single : Bool) (c : Cursor) : Except Error (List Char × Cursor) :=
  readQuotedFrom single (c.rest.length + 1) (c.skip 1) []

/-! ## Plain scalars -/

/-- The characters that end a plain scalar inside brackets. -/
def isFlowMark (c : Char) : Bool := c == ',' || c == '[' || c == ']' || c == '{' || c == '}'

/-- Reads the characters of a plain scalar up to a gap or to a mark that ends it. -/
def readPlainRun (flow : Bool) : Nat → Cursor → List Char → Except Error (List Char × Cursor)
  | 0, c, acc => .ok (acc, c)
  | fuel + 1, c, acc =>
    match c.peek 0 with
    | none => .ok (acc, c)
    | some ch =>
      if isGapOrEnd (some ch) then .ok (acc, c)
      else if ch = ':' ∧ flow ∧ (c.peek 1).any (fun n => isFlowMark n || n == '?') then
        .error .unexpectedColon
      else if ch = ':' ∧ isGapOrEnd (c.peek 1) then .ok (acc, c)
      else if flow ∧ isFlowMark ch then .ok (acc, c)
      else readPlainRun flow fuel (c.skip 1) (ch :: acc)

/-- Reads a plain scalar from a run on, after a gap. Its lines must reach the column `least`, unless it
stands inside brackets. The last part of the answer says whether a line break was passed after the
scalar's last character. -/
def readPlainFrom (flow : Bool) (least : Int) : Nat → Cursor → Gap → List Char →
    Except Error (List Char × Cursor × Bool)
  | 0, c, gap, acc => .ok (acc.reverse, c, gap.broken)
  | fuel + 1, c, gap, acc =>
    if c.atDocumentMark || c.looksAt '#' then .ok (acc.reverse, c, gap.broken)
    else
      match readPlainRun flow (fuel + 1) c [] with
      | .error e => .error e
      | .ok (run, after) =>
        let (acc, gap) :=
          if run.isEmpty then (acc, gap) else (run ++ (gap.text.reverse ++ acc), Gap.empty)
        if !(isSpaceOrTab (after.peek 0) || isBreak (after.peek 0)) then
          .ok (acc.reverse, after, gap.broken)
        else
          match Gap.read least (fuel + 1) after gap with
          | .error e => .error e
          | .ok (gap, c) =>
            if !flow && (c.column : Int) < least then .ok (acc.reverse, c, gap.broken)
            else readPlainFrom flow least fuel c gap acc

/-- Reads a plain scalar inside a block of the given indentation. -/
def readPlain (flow : Bool) (indent : Int) (c : Cursor) :
    Except Error (List Char × Cursor × Bool) :=
  readPlainFrom flow (indent + 1) (c.rest.length + 1) c Gap.empty []

/-! ## Block scalars -/

/-- What becomes of the line breaks at the end of a block. -/
inductive Chomping where
  | clip
  | strip
  | keep
deriving DecidableEq, Repr

/-- The chomping that a sign asks for. -/
def chomping? : Option Char → Option Chomping
  | some '+' => some .keep
  | some '-' => some .strip
  | _ => none

/-- The indentation that a digit asks for; zero is none. -/
def increment? (c : Option Char) : Option Nat :=
  c.bind fun ch => if isDigit ch then some (ch.toNat - '0'.toNat) else none

/-- Reads the header of a block after its indicator: chomping and indentation in either order. -/
def readBlockHeader (c : Cursor) : Except Error (Chomping × Option Nat × Cursor) :=
  match chomping? (c.peek 0), increment? (c.peek 0) with
  | some ch, _ =>
    match increment? (c.peek 1) with
    | some 0 => .error .malformedBlockHeader
    | some n => .ok (ch, some n, c.skip 2)
    | none => .ok (ch, none, c.skip 1)
  | none, some 0 => .error .malformedBlockHeader
  | none, some n =>
    match chomping? (c.peek 1) with
    | some ch => .ok (ch, some n, c.skip 2)
    | none => .ok (.clip, some n, c.skip 1)
  | none, none => .ok (.clip, none, c)

/-- Reads the empty lines before a line of a block and its indentation, up to the column `indent` if
that is known. The answer is the text of the breaks and the widest indentation that was seen. -/
def readBlockBreaks (indent : Option Nat) : Nat → Cursor → Nat → List Char →
    Except Error (List Char × Nat × Cursor)
  | 0, c, widest, acc => .ok (acc, widest, c)
  | fuel + 1, c, widest, acc =>
    let spaces := (c.takeWhile (· == ' ')).length
    let c := c.skip (match indent with
      | some n => min spaces (n - c.column)
      | none => spaces)
    let widest := max widest c.column
    let inside := match indent with
      | some n => decide (c.column < n)
      | none => true
    if inside && c.looksAt '\t' then .error .tabInIndentation
    else if isBreak (c.peek 0) then
      readBlockBreaks indent fuel c.skipBreak widest (acc ++ c.breakText)
    else .ok (acc, widest, c)

/-- Reads the lines of a block with the given indentation. `lead` is the text of the break after the
last line, `breaks` that of the empty lines after it, and `blankLead` says whether the last line started
with a blank. -/
def readBlockLines (literal : Bool) (indent : Nat) : Nat → Cursor → List Char → List Char →
    List Char → Bool → Except Error (List Char × List Char × List Char × Cursor)
  | 0, c, acc, lead, breaks, _ => .ok (acc, lead, breaks, c)
  | fuel + 1, c, acc, lead, breaks, blankLead =>
    if c.column = indent ∧ (c.peek 0).isSome then
      let startsBlank := isSpaceOrTab (c.peek 0)
      let joint :=
        if !literal && lead == ['\n'] && !blankLead && !startsBlank then
          if breaks.isEmpty then [' '] else breaks
        else lead ++ breaks
      let line := c.takeWhile fun ch => !isBreak (some ch)
      let atEnd := c.skipLine
      match readBlockBreaks (some indent) (fuel + 1) atEnd.skipBreak 0 [] with
      | .error e => .error e
      | .ok (more, _, next) =>
        readBlockLines literal indent fuel next (acc ++ joint ++ line) atEnd.breakText more
          startsBlank
    else .ok (acc, lead, breaks, c)

/-- Reads a block scalar at its indicator, inside a block of the given indentation. -/
def readBlock (literal : Bool) (indent : Int) (c : Cursor) : Except Error (List Char × Cursor) := do
  let (chomping, increment, c) ← readBlockHeader (c.skip 1)
  let c := c.skipBlanks
  let c := if c.looksAt '#' then c.skipLine else c
  if !isBreakOrEnd (c.peek 0) then .error .malformedBlockHeader
  else
    let c := c.skipBreak
    let given : Option Nat := increment.map fun n => if 0 ≤ indent then indent.toNat + n else n
    let (breaks, widest, c) ← readBlockBreaks given (c.rest.length + 1) c 0 []
    let width := given.getD (max widest (max (indent + 1).toNat 1))
    let (text, lead, breaks, c) ←
      readBlockLines literal width (c.rest.length + 1) c [] [] breaks false
    let tail := match chomping with
      | .strip => []
      | .clip => lead
      | .keep => lead ++ breaks
    .ok (text ++ tail, c)

end ApiChain.Yaml
