import ApiChain.Document
import ApiChain.Number.Double

/-!
# Reading JSON text

A strict reader of the JSON grammar: one value, blanks around it, nothing else. Its result is a
`Document`, so that a decoder may skip the parts it does not know. Three things that the grammar allows
can be skipped but not read: a number beyond the greatest float, half of a surrogate pair, and a list or
record that lies deeper than `maxDepth`.
-/

namespace ApiChain.Json

open ApiChain.Number (Double digitValue? isDigit tenPow twoPow)

/-- How many lists and records may lie inside each other. -/
def maxDepth : Nat := 127

/-- The blanks of the grammar. -/
def isSpace (c : Char) : Bool := c == ' ' || c == '\n' || c == '\t' || c == '\r'

/-- The text after its leading blanks. -/
def skipSpace (s : List Char) : List Char := s.dropWhile isSpace

/-! ## Strings -/

/-- A part of a string: a character, or an escaped half of a surrogate pair. -/
inductive StringPart where
  | char (c : Char)
  | half (unit : Nat)
deriving Repr, DecidableEq

/-- The number written by four hexadecimal digits. -/
def hex4? (a b c d : Char) : Option Nat := ApiChain.Number.ofDigits? 16 [a, b, c, d]

/-- The part that an escaped code unit stands for. -/
def partOfUnit (n : Nat) : StringPart :=
  if 0xD800 ≤ n ∧ n ≤ 0xDFFF then .half n else .char (Char.ofNat n)

/-- The character after a backslash, apart from `u`. -/
def simpleEscape? : Char → Option Char
  | '"' => some '"'
  | '\\' => some '\\'
  | '/' => some '/'
  | 'b' => some '\x08'
  | 'f' => some '\x0c'
  | 'n' => some '\n'
  | 'r' => some '\r'
  | 't' => some '\t'
  | _ => none

/-- The parts of a string up to its closing quote, and the text after that. -/
def readParts : List Char → Option (List StringPart × List Char)
  | '"' :: rest => some ([], rest)
  | '\\' :: 'u' :: a :: b :: c :: d :: rest =>
    (hex4? a b c d).bind fun n => (readParts rest).map fun (ps, r) => (partOfUnit n :: ps, r)
  | '\\' :: c :: rest =>
    (simpleEscape? c).bind fun e => (readParts rest).map fun (ps, r) => (.char e :: ps, r)
  | c :: rest =>
    if c.toNat < 32 then none else (readParts rest).map fun (ps, r) => (.char c :: ps, r)
  | [] => none

/-- The characters of the parts; a high half needs a low half right after it. -/
def joinParts? : List StringPart → Option (List Char)
  | [] => some []
  | .char c :: rest => (joinParts? rest).map (c :: ·)
  | .half hi :: .half lo :: rest =>
    if hi < 0xDC00 ∧ 0xDC00 ≤ lo then
      (joinParts? rest).map (Char.ofNat (0x10000 + (hi - 0xD800) * 0x400 + (lo - 0xDC00)) :: ·)
    else none
  | .half _ :: _ => none

/-! ## Numbers -/

/-- Takes digits onto a whole number of 64 bits until one no longer fits. The answer is the number, how
many digits it took, and how many were left over. -/
def absorb (n taken : Nat) : List Char → Nat × Nat × Nat
  | [] => (n, taken, 0)
  | c :: rest =>
    let d := (digitValue? c).getD 0
    if n * 10 + d ≤ ApiChain.Number.maxUnsigned64 then absorb (n * 10 + d) (taken + 1) rest
    else (n, taken, rest.length + 1)

/-- A float divided by `10 ^ n`, in steps of at most `10 ^ 308`. -/
def divideByTenfold (x : Double) (n : Nat) : Option Double :=
  if n ≤ 308 then (Double.ofRatio? false (tenPow n) 1).bind x.div?
  else if x.isZero then some x
  else
    (Double.ofRatio? false (tenPow 308) 1).bind fun p =>
      (x.div? p).bind fun y => divideByTenfold y (n - 308)
termination_by n

/-- The float written by `n * 10 ^ e`, computed in floats: the whole number is rounded first and then
multiplied or divided by the power of ten. Nothing if it lies beyond the greatest float. -/
def scaleTenfold? (negative : Bool) (n : Nat) (e : Int) : Option Double :=
  (Double.ofRatio? negative n 1).bind fun x =>
    if 0 ≤ e then
      if e ≤ 308 then (Double.ofRatio? false (tenPow e.toNat) 1).bind x.mul?
      else if x.isZero then some x
      else none
    else divideByTenfold x (-e).toNat

/-- The parts of a number's text: sign, whole digits, digits after the point, and power of ten. -/
structure Literal where
  negative : Bool
  whole : List Char
  fraction : Option (List Char)
  power : Option Int
deriving Repr

/-- The number of a literal. A whole number that fits 64 bits stays one, except that minus zero is a
float. -/
def Literal.number? (l : Literal) : Option Json.Number :=
  let (n, _, dropped) := absorb 0 0 l.whole
  match l.fraction, l.power with
  | none, none =>
    if dropped = 0 then
      if !l.negative then some (.int n)
      else if 0 < n ∧ n ≤ twoPow 63 then some (.int (-(n : Int)))
      else (scaleTenfold? true n 0).map .real
    else (scaleTenfold? l.negative n dropped).map .real
  | fraction, power =>
    let (n, taken, _) := absorb n 0 (fraction.getD [])
    (scaleTenfold? l.negative n ((dropped : Int) - taken + power.getD 0)).map .real

/-- The digits at the start of a text and the text after them. -/
def spanDigits (s : List Char) : List Char × List Char := (s.takeWhile isDigit, s.dropWhile isDigit)

/-- The power of ten at the start of a text, if there is one; none of the whole if it has no digits. -/
def readPower (s : List Char) : Option (Option Int × List Char) :=
  match s with
  | c :: rest =>
    if c = 'e' ∨ c = 'E' then
      let (negative, rest) := match rest with
        | '+' :: r => (false, r)
        | '-' :: r => (true, r)
        | _ => (false, rest)
      let (ds, after) := spanDigits rest
      (ApiChain.Number.ofDigits? 10 ds).map fun n =>
        (some (if negative then -(n : Int) else n), after)
    else some (none, s)
  | [] => some (none, s)

/-- The literal at the start of a text that begins with a digit or a minus sign. -/
def readLiteral (s : List Char) : Option (Literal × List Char) :=
  let (negative, s) := match s with
    | '-' :: rest => (true, rest)
    | _ => (false, s)
  let (whole, rest) := spanDigits s
  let wellFormed := match whole with
    | [] => false
    | '0' :: _ :: _ => false
    | _ => true
  if !wellFormed then none
  else
    match rest with
    | '.' :: after =>
      let (fraction, after) := spanDigits after
      if fraction.isEmpty then none
      else (readPower after).map fun (power, r) => (⟨negative, whole, some fraction, power⟩, r)
    | _ => (readPower rest).map fun (power, r) => (⟨negative, whole, none, power⟩, r)

/-! ## Values -/

/-- A string as a document; one with a lone surrogate half cannot be read. -/
def stringDocument (parts : List StringPart) : Document :=
  match joinParts? parts with
  | some s => .scalar (Scalar.ofString (String.ofList s))
  | none => .unreadable

/-- A number as a document; one beyond the greatest float cannot be read. -/
def numberDocument (l : Literal) : Document :=
  match l.number? with
  | some n => .scalar (Scalar.ofValue (.number n))
  | none => .unreadable

/-- A list or record at a depth; one that lies too deep cannot be read. -/
def atDepth (depth : Nat) (d : Document) : Document :=
  if depth ≤ maxDepth then d else .unreadable

mutual

/-- The value at the start of a text, inside `depth` lists and records. Every step takes a character or
passes to the items of a list just opened, so twice the length of the text is fuel enough. -/
def readValue : Nat → Nat → List Char → Option (Document × List Char)
  | 0, _, _ => none
  | fuel + 1, depth, s =>
    match skipSpace s with
    | 'n' :: 'u' :: 'l' :: 'l' :: rest => some (.scalar Scalar.null, rest)
    | 't' :: 'r' :: 'u' :: 'e' :: rest => some (.scalar (Scalar.ofValue (.bool true)), rest)
    | 'f' :: 'a' :: 'l' :: 's' :: 'e' :: rest => some (.scalar (Scalar.ofValue (.bool false)), rest)
    | '"' :: rest => (readParts rest).map fun (parts, r) => (stringDocument parts, r)
    | '[' :: rest =>
      match skipSpace rest with
      | ']' :: r => some (atDepth (depth + 1) (.list true []), r)
      | r =>
        (readItems fuel (depth + 1) r).map fun (items, after) =>
          (atDepth (depth + 1) (.list true items), after)
    | '{' :: rest =>
      match skipSpace rest with
      | '}' :: r => some (atDepth (depth + 1) (.record []), r)
      | r =>
        (readMembers fuel (depth + 1) r).map fun (members, after) =>
          (atDepth (depth + 1) (.record members), after)
    | c :: rest =>
      if c = '-' ∨ isDigit c then
        (readLiteral (c :: rest)).map fun (l, r) => (numberDocument l, r)
      else none
    | [] => none

/-- One or more items up to the closing bracket. -/
def readItems : Nat → Nat → List Char → Option (List Document × List Char)
  | 0, _, _ => none
  | fuel + 1, depth, s =>
    (readValue fuel depth s).bind fun (d, rest) =>
      match skipSpace rest with
      | ',' :: r => (readItems fuel depth r).map fun (ds, after) => (d :: ds, after)
      | ']' :: r => some ([d], r)
      | _ => none

/-- One or more members up to the closing brace. -/
def readMembers : Nat → Nat → List Char → Option (List (Document × Document) × List Char)
  | 0, _, _ => none
  | fuel + 1, depth, s =>
    match skipSpace s with
    | '"' :: rest =>
      (readParts rest).bind fun (key, rest) =>
        match skipSpace rest with
        | ':' :: rest =>
          (readValue fuel depth rest).bind fun (d, rest) =>
            match skipSpace rest with
            | ',' :: r =>
              (readMembers fuel depth r).map fun (ms, after) =>
                ((stringDocument key, d) :: ms, after)
            | '}' :: r => some ([(stringDocument key, d)], r)
            | _ => none
        | _ => none
    | _ => none

end

/-- The document of a JSON text: one value with blanks around it. -/
def readDocument? (s : String) : Option Document :=
  let cs := s.toList
  (readValue (2 * cs.length + 2) 0 cs).bind fun (d, rest) =>
    if (skipSpace rest).isEmpty then some d else none

/-- The value of a JSON text. -/
def read? (s : String) : Option Json := (readDocument? s).bind Document.toJson?

end ApiChain.Json
