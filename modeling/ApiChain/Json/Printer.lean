import ApiChain.Json.Basic
import ApiChain.Number.Shortest

/-!
# The compact text of a JSON value

No blanks, members in their order, and the least escaping that the grammar allows. A float is written
with the shortest digits that read back: positionally between `10 ^ -5` and `10 ^ 16`, with a power of
ten beyond.
-/

namespace ApiChain.Json

/-! ## Strings -/

/-- The hexadecimal digit of a number below sixteen. -/
def hexDigit (n : Nat) : Char := Nat.digitChar n

/-- How a character is written inside a string: the quote, the backslash and the control characters
are escaped, everything else stands for itself. -/
def escapeChar (c : Char) : List Char :=
  if c = '"' then ['\\', '"']
  else if c = '\\' then ['\\', '\\']
  else if c = '\x08' then ['\\', 'b']
  else if c = '\x0c' then ['\\', 'f']
  else if c = '\n' then ['\\', 'n']
  else if c = '\r' then ['\\', 'r']
  else if c = '\t' then ['\\', 't']
  else if c.toNat < 32 then
    ['\\', 'u', '0', '0', hexDigit (c.toNat / 16), hexDigit (c.toNat % 16)]
  else [c]

/-- A string between its quotes. -/
def quoted (s : List Char) : List Char := '"' :: (s.flatMap escapeChar ++ ['"'])

/-! ## Numbers -/

/-- `n` zeros. -/
def zeros (n : Nat) : List Char := List.replicate n '0'

/-- The positional or scientific text of `digits * 10 ^ exponent`. `point` is the place of the decimal
point, counted from the first digit. -/
def decimalText (digits : Nat) (exponent : Int) : List Char :=
  let ds := ApiChain.Number.decimal digits
  let point : Int := ds.length + exponent
  if 0 ≤ exponent ∧ point ≤ 16 then
    ds ++ zeros exponent.toNat ++ ['.', '0']
  else if 0 < point ∧ point ≤ 16 then
    ds.take point.toNat ++ ['.'] ++ ds.drop point.toNat
  else if -5 < point ∧ point ≤ 0 then
    ['0', '.'] ++ zeros (-point).toNat ++ ds
  else
    let power := point - 1
    let sign := if power < 0 then '-' else '+'
    let mantissa := match ds with
      | [] => []
      | [d] => [d]
      | d :: more => d :: '.' :: more
    mantissa ++ ['e', sign] ++ ApiChain.Number.decimal power.natAbs

/-- The text of a finite float. -/
def realText (x : ApiChain.Number.Double) : List Char :=
  let sign := if x.negative then ['-'] else []
  if x.isZero then sign ++ ['0', '.', '0']
  else
    let d := x.shortest
    sign ++ decimalText d.digits d.exponent

/-- The text of a number. -/
def Number.text : Json.Number → List Char
  | .int n => ApiChain.Number.decimalInt n
  | .real x => realText x

/-- The text of a truth value. -/
def boolText (b : Bool) : List Char := if b then ['t', 'r', 'u', 'e'] else ['f', 'a', 'l', 's', 'e']

/-! ## Values -/

mutual

/-- The compact text of a value. -/
def printChars : Json → List Char
  | .null => ['n', 'u', 'l', 'l']
  | .bool b => boolText b
  | .number n => n.text
  | .string s => quoted s.toList
  | .array items => '[' :: (printItems items ++ [']'])
  | .object members => '{' :: (printMembers members ++ ['}'])

/-- The items of an array between commas. -/
def printItems : List Json → List Char
  | [] => []
  | [x] => printChars x
  | x :: y :: rest => printChars x ++ ',' :: printItems (y :: rest)

/-- The members of an object between commas. -/
def printMembers : List (String × Json) → List Char
  | [] => []
  | [(k, v)] => quoted k.toList ++ ':' :: printChars v
  | (k, v) :: m :: rest => quoted k.toList ++ ':' :: (printChars v ++ ',' :: printMembers (m :: rest))

end

/-- The compact text of a value. -/
def print (j : Json) : String := String.ofList j.printChars

/-! ## Plain text -/

mutual

/-- The plain text of a value, as it stands in a request or a table cell: strings unquoted, `null`
empty, arrays joined with commas, objects as compact JSON. -/
def plainChars : Json → List Char
  | .null => []
  | .bool b => boolText b
  | .number n => n.text
  | .string s => s.toList
  | .array items => plainItems items
  | .object members => printChars (.object members)

/-- The plain texts of the items with commas between them. -/
def plainItems : List Json → List Char
  | [] => []
  | [x] => plainChars x
  | x :: y :: rest => plainChars x ++ ',' :: plainItems (y :: rest)

end

/-- The plain text of a value. -/
def plain (j : Json) : String := String.ofList j.plainChars

end ApiChain.Json
