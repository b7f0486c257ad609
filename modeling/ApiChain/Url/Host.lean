import ApiChain.Url.Domain

/-!
# Hosts

A host is a domain name or an address. Four numbers with points between them are an address of 32 bits,
where a number may also be octal or hexadecimal and the last one may stand for several octets; between
brackets stand eight groups of 16 bits, some of which may be left out as zero.
-/

namespace ApiChain.Url

open ApiChain.Number (isDigit ofDigits? decimal twoPow)
open ApiChain.Text (splitOn splitOnce joinWith)

/-- A host. -/
inductive Host where
  | domain (name : List Char)
  /-- An address of four octets. -/
  | ipv4 (address : Nat)
  /-- An address of eight groups. -/
  | ipv6 (groups : List Nat)
deriving DecidableEq, Repr

/-! ## Addresses of four octets -/

/-- A number of an address: decimal, octal after a zero, hexadecimal after `0x`. -/
def addressNumber? : List Char → Option Nat
  | ['0', 'x'] => some 0
  | ['0', 'X'] => some 0
  | '0' :: 'x' :: rest => ofDigits? 16 rest
  | '0' :: 'X' :: rest => ofDigits? 16 rest
  | ['0'] => some 0
  | '0' :: rest => ofDigits? 8 rest
  | s => ofDigits? 10 s

/-- The labels of a name, without the empty one after a point at its end. -/
def labels (name : List Char) : List (List Char) :=
  let parts := splitOn '.' name
  if 1 < parts.length ∧ parts.getLast? = some [] then parts.dropLast else parts

/-- Whether a name ends like an address and so must be one. -/
def endsInNumber (name : List Char) : Bool :=
  match (labels name).getLast? with
  | some last => (!last.isEmpty && last.all isDigit) || (addressNumber? last).isSome
  | none => false

/-- The address that numbers write, the octets before having the value `acc`. The last number fills all
octets that are left. -/
def joinAddress? : Nat → Nat → List Nat → Option Nat
  | _, _, [] => none
  | left, acc, [last] =>
    let room := twoPow (8 * left)
    if last < room then some (acc * room + last) else none
  | 0, _, _ => none
  | left + 1, acc, n :: rest => if n < 256 then joinAddress? left (acc * 256 + n) rest else none

/-- The address that a name writes. -/
def ipv4? (name : List Char) : Option Nat :=
  let parts := labels name
  if parts.length ≤ 4 then (parts.mapM addressNumber?).bind (joinAddress? 4 0) else none

/-- The octets of an address with points between them. -/
def ipv4Text (address : Nat) : List Char :=
  let octets := [address / twoPow 24, address / twoPow 16, address / 256, address].map (· % 256)
  joinWith ['.'] (octets.map decimal)

/-! ## Addresses of eight groups -/

/-- A group of up to four hexadecimal digits. -/
def group? (s : List Char) : Option Nat := if s.length ≤ 4 then ofDigits? 16 s else none

/-- An octet in decimal without a zero in front. -/
def octet? (s : List Char) : Option Nat :=
  match s with
  | '0' :: _ :: _ => none
  | _ => (ofDigits? 10 s).filter (· < 256)

/-- The two groups that four octets at the end of an address write. -/
def octetGroups? (s : List Char) : Option (List Nat) :=
  match (splitOn '.' s).mapM octet? with
  | some [a, b, c, d] => some [a * 256 + b, c * 256 + d]
  | _ => none

/-- The groups that parts write; four octets may end the address. -/
def groups? (atEnd : Bool) : List (List Char) → Option (List Nat)
  | [] => some []
  | [last] =>
    if atEnd && last.contains '.' then octetGroups? last else (group? last).map fun n => [n]
  | part :: rest => (group? part).bind fun n => (groups? atEnd rest).map (n :: ·)

/-- The groups of one side of the gap; an empty side has none. -/
def side? (atEnd : Bool) (s : List Char) : Option (List Nat) :=
  if s.isEmpty then some [] else groups? atEnd (splitOn ':' s)

/-- Splits a text at its first double colon. -/
def splitGap : List Char → Option (List Char × List Char)
  | ':' :: ':' :: rest => some ([], rest)
  | c :: rest => (splitGap rest).map fun (before, after) => (c :: before, after)
  | [] => none

/-- The address that a text between brackets writes. -/
def ipv6? (s : List Char) : Option (List Nat) :=
  match splitGap s with
  | some (before, after) =>
    (side? false before).bind fun first => (side? true after).bind fun last =>
      if first.length + last.length ≤ 7 then
        some (first ++ List.replicate (8 - first.length - last.length) 0 ++ last)
      else none
  | none => (side? true s).filter (·.length == 8)

/-- How many zeros a list begins with. -/
def leadingZeros (gs : List Nat) : Nat := (gs.takeWhile (· == 0)).length

/-- Where the first longest run of zeros begins, from place `at` on, and its length. -/
def longestZeros : List Nat → Nat → Nat × Nat
  | [], _ => (0, 0)
  | g :: rest, place =>
    let here := leadingZeros (g :: rest)
    let later := longestZeros rest (place + 1)
    if later.2 ≤ here ∧ 0 < here then (place, here) else later

/-- Groups in hexadecimal with colons between them. -/
def groupsText (gs : List Nat) : List Char := joinWith [':'] (gs.map (Nat.toDigits 16))

/-- The text of an address of eight groups; the longest run of two zeros or more is left out. -/
def ipv6Text (gs : List Nat) : List Char :=
  let (start, length) := longestZeros gs 0
  if 2 ≤ length then
    groupsText (gs.take start) ++ [':', ':'] ++ groupsText (gs.drop (start + length))
  else groupsText gs

/-! ## Hosts -/

namespace Host

/-- The text of a host. -/
def text : Host → List Char
  | .domain name => name
  | .ipv4 address => ipv4Text address
  | .ipv6 groups => ['['] ++ ipv6Text groups ++ [']']

/-- The address between brackets. -/
def ofBrackets (s : List Char) : Except Error Host :=
  match s.getLast?, ipv6? s.dropLast with
  | some ']', some groups => .ok (.ipv6 groups)
  | _, _ => .error .invalidIpv6

/-- The host that a text names on the web. -/
def ofText (s : List Char) : Except Error Host :=
  match s with
  | '[' :: rest => ofBrackets rest
  | _ => do
    let name ← domainToAscii s
    if name.isEmpty then .error .emptyHost
    else if endsInNumber name then
      match ipv4? name with
      | some address => .ok (.ipv4 address)
      | none => .error .invalidIpv4
    else .ok (.domain name)

/-- Whether a character can be no part of a host outside the web. -/
def isForbiddenAnywhere (c : Char) : Bool :=
  ['\x00', '\t', '\n', '\r', ' ', '#', '/', ':', '<', '>', '?', '@', '[', '\\', ']', '^',
    '|'].contains c

/-- The host that a text names outside the web; its name is not read any further. -/
def ofOpaqueText (s : List Char) : Except Error Host :=
  match s with
  | '[' :: rest => ofBrackets rest
  | _ => if s.any isForbiddenAnywhere then .error .invalidHostCharacter else .ok (.domain s)

end Host

end ApiChain.Url
