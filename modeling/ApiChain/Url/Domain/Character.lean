import ApiChain.Url.Domain.Tables
import ApiChain.Url.Punycode

/-!
# Characters of domain names and their forms

What the rules for domain names ask of a single character: whether a name can hold it, its plain form,
whether it joins its neighbours, and the direction in which it is written.
-/

namespace ApiChain.Url.Domain

open Punycode (isAscii)

/-! ## Forms -/

/-- Whether a character of ASCII can be no part of a domain name. -/
def isForbidden (c : Char) : Bool :=
  c.toNat ≤ 0x20 || c.toNat == 0x7F
    || ['%', '#', '/', ':', '<', '>', '?', '@', '[', '\\', ']', '^', '|'].contains c

/-- The plain form that a character outside ASCII has in a run of them. -/
def plainInRun (c : Char) : Nat × Nat × Nat × Nat → Option Char
  | (first, last, step, target) =>
    if first ≤ c.toNat ∧ c.toNat ≤ last ∧ (c.toNat - first) % step = 0 then
      some (Char.ofNat (target + (c.toNat - first)))
    else none

/-- The plain form of a character that a name can hold. A form of several characters, or one that
stands in no run, is not looked up: the character stays as it is. -/
def plainForm (c : Char) : Char :=
  if c == '\u3002' || c == '\uFF61' then '.' else (plain.findSome? (plainInRun c)).getD c

/-- The form that a character has in a name, if it can be in one. -/
def mapChar (c : Char) : Option (List Char) :=
  if isAscii c then some [c.toLower]
  else if refused.has c then none
  else if ignored.has c then some []
  else some [plainForm c]

/-- Whether a character lies in a run, given by its ends and its step. -/
def inRun (c : Char) : Nat × Nat × Nat → Bool
  | (first, last, step) => first ≤ c.toNat && c.toNat ≤ last && (c.toNat - first) % step == 0

/-- Whether a character is its own plain form. -/
def isPlain (c : Char) : Bool :=
  if isAscii c then !c.isUpper else !(refused.has c || ignored.has c || varied.any (inRun c))

/-! ## Marks and joiners -/

/-- Whether a character is a mark, which combines with the one before it. -/
def isMark (c : Char) : Bool := marks.has c

/-- The character that keeps its neighbours apart. -/
def nonJoiner : Char := '\u200C'

/-- The character that joins its neighbours. -/
def joiner : Char := '\u200D'

/-! ## Directions -/

/-- The direction in which a character is written. -/
inductive Direction where
  | left
  | right
  /-- A digit that goes in either direction. -/
  | digit
  /-- A digit of a script that is written from right to left. -/
  | arabicDigit
  /-- A mark has the direction of what it combines with. -/
  | mark
  | neutral
deriving DecidableEq, Repr

/-- The direction of a character. -/
def direction (c : Char) : Direction :=
  if isAscii c then
    if c.isAlpha then .left else if c.isDigit then .digit else .neutral
  else if marks.has c then .mark
  else if rightToLeft.has c then .right
  else if arabicDigits.has c then .arabicDigit
  else if otherDigits.has c then .digit
  else if neutral.has c then .neutral
  else .left

end ApiChain.Url.Domain
