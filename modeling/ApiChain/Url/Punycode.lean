/-!
# Punycode

The label of a domain name with characters outside ASCII is written by its ASCII characters, a hyphen,
and a list of numbers that say which other characters stand where. Each number counts the steps from
one insertion to the next, through all places of the label and then through the next character; it is
written in base 36 with thresholds that adapt to the numbers before it.

Digits are at most as many as the number written, or the characters read, so these are fuel enough.
-/

namespace ApiChain.Url.Punycode

/-! ## Digits -/

/-- A digit in base 36: the letters, then the decimal digits. -/
def digit (n : Nat) : Char :=
  if n < 26 then Char.ofNat ('a'.toNat + n) else Char.ofNat ('0'.toNat + n - 26)

/-- The value of a digit in base 36. -/
def digitValue? (c : Char) : Option Nat :=
  if 'a' ≤ c ∧ c ≤ 'z' then some (c.toNat - 'a'.toNat)
  else if 'A' ≤ c ∧ c ≤ 'Z' then some (c.toNat - 'A'.toNat)
  else if '0' ≤ c ∧ c ≤ '9' then some (c.toNat - '0'.toNat + 26)
  else none

/-- The value below which a digit is the last one of its number, at position `k` counted in steps of
36. -/
def threshold (k bias : Nat) : Nat :=
  if k ≤ bias then 1 else if bias + 26 ≤ k then 26 else k - bias

/-- Divides by 35 until at most 455 are left, counting the steps in 36s. -/
def shrink : Nat → Nat → Nat → Nat × Nat
  | 0, delta, k => (delta, k)
  | fuel + 1, delta, k => if 455 < delta then shrink fuel (delta / 35) (k + 36) else (delta, k)

/-- The bias for the next number, after `delta` was written for the character that makes `count`. -/
def adapt (delta count : Nat) (first : Bool) : Nat :=
  let delta := if first then delta / 700 else delta / 2
  let (delta, k) := shrink delta (delta + delta / count) 0
  k + 36 * delta / (delta + 38)

/-! ## Writing -/

/-- The digits of a number. -/
def digits (bias : Nat) : Nat → Nat → Nat → List Char
  | 0, _, q => [digit q]
  | fuel + 1, k, q =>
    let t := threshold k bias
    if q < t then [digit q]
    else digit (t + (q - t) % (36 - t)) :: digits bias fuel (k + 36) ((q - t) / (36 - t))

/-- Where the writing of a label stands. -/
structure Progress where
  written : List Char
  delta : Nat
  bias : Nat
  /-- How many characters of the label are written. -/
  count : Nat

/-- Passes a character of the label while the character `next` is inserted. -/
def pass (basic : Nat) (next : Nat) (p : Progress) (c : Char) : Progress :=
  if c.toNat < next then { p with delta := p.delta + 1 }
  else if c.toNat = next then
    { written := p.written ++ digits p.bias p.delta 36 p.delta
      delta := 0
      bias := adapt p.delta (p.count + 1) (p.count == basic)
      count := p.count + 1 }
  else p

/-- Writes the insertions of the characters `pending`, in order, the characters below `from` being
done. -/
def writeInsertions (label : List Char) (basic : Nat) : List Nat → Nat → Progress → List Char
  | [], _, p => p.written
  | next :: rest, start, p =>
    let p := { p with delta := p.delta + (next - start) * (p.count + 1) }
    let p := label.foldl (pass basic next) p
    writeInsertions label basic rest (next + 1) { p with delta := p.delta + 1 }

/-- Whether the character is one of ASCII. -/
def isAscii (c : Char) : Bool := c.toNat < 128

/-- The written form of a label. -/
def encode (label : List Char) : List Char :=
  let basic := label.filter isAscii
  let others := ((label.filter fun c => !isAscii c).map Char.toNat).mergeSort.eraseDups
  basic ++ (if basic.isEmpty then [] else ['-'])
    ++ writeInsertions label basic.length others 128 ⟨[], 0, 72, basic.length⟩

/-! ## Reading -/

/-- Reads a number: what it adds to `i`, and the rest. -/
def readNumber (bias : Nat) : List Char → Nat → Nat → Nat → Option (Nat × List Char)
  | [], _, _, _ => none
  | c :: rest, k, weight, i =>
    (digitValue? c).bind fun d =>
      if d < threshold k bias then some (i + d * weight, rest)
      else readNumber bias rest (k + 36) (weight * (36 - threshold k bias)) (i + d * weight)

/-- Reads the insertions into a label. -/
def readInsertions : Nat → Nat → Nat → Nat → List Char → List Char → Option (List Char)
  | _, _, _, _, label, [] => some label
  | 0, _, _, _, _, _ => none
  | fuel + 1, bias, n, i, label, s =>
    (readNumber bias s 36 1 i).bind fun (j, rest) =>
      let count := label.length + 1
      let next := n + j / count
      let place := j % count
      if next.isValidChar then
        readInsertions fuel (adapt (j - i) count (i == 0)) next (place + 1)
          (label.insertIdx place (Char.ofNat next)) rest
      else none

/-- The label that a written form stands for. A hyphen ends the characters of ASCII only if there are
some before it. -/
def decode? (s : List Char) : Option (List Char) :=
  let last := (s.reverse.takeWhile (· != '-')).reverse
  let basic := s.take (s.length - last.length - 1)
  readInsertions (s.length + 1) 72 128 0 basic (if basic.isEmpty then s else last)

end ApiChain.Url.Punycode
