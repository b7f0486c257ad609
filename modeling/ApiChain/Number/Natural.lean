/-!
# Reading whole numbers

Digits in a base between 2 and 16, and the written form of a bounded whole number: digits, with an
optional plus sign before them.
-/

namespace ApiChain.Number

/-- The value of a digit in hexadecimal, and so in any smaller base that has it. -/
def digitValue? (c : Char) : Option Nat :=
  if '0' ≤ c ∧ c ≤ '9' then some (c.toNat - '0'.toNat)
  else if 'a' ≤ c ∧ c ≤ 'f' then some (c.toNat - 'a'.toNat + 10)
  else if 'A' ≤ c ∧ c ≤ 'F' then some (c.toNat - 'A'.toNat + 10)
  else none

/-- The value of a digit of the base. -/
def digitIn? (base : Nat) (c : Char) : Option Nat :=
  (digitValue? c).filter (· < base)

/-- Whether the character is a decimal digit of ASCII. -/
def isDigit (c : Char) : Bool := decide ('0' ≤ c ∧ c ≤ '9')

/-- Whether the character is a hexadecimal digit of ASCII. -/
def isHexDigit (c : Char) : Bool := (digitValue? c).isSome

/-- The number that follows `acc` when its digits are written on. -/
def readDigits (base : Nat) : Nat → List Char → Option Nat
  | acc, [] => some acc
  | acc, c :: rest => (digitIn? base c).bind fun d => readDigits base (acc * base + d) rest

/-- The number written by one or more digits and nothing else. -/
def ofDigits? (base : Nat) (s : List Char) : Option Nat :=
  if s.isEmpty then none else readDigits base 0 s

/-- A whole number up to `bound`, written with an optional plus sign. -/
def ofText? (bound : Nat) (s : List Char) : Option Nat :=
  let digits := match s with
    | '+' :: rest => rest
    | _ => s
  (ofDigits? 10 digits).filter (· ≤ bound)

/-! ## Powers -/

/-- A power of two. -/
def twoPow (n : Nat) : Nat := Nat.pow 2 n

/-- A power of ten. -/
def tenPow (n : Nat) : Nat := Nat.pow 10 n

/-! ## Bounds and decimal texts -/

/-- The largest unsigned number of 64 bits. -/
def maxUnsigned64 : Nat := twoPow 64 - 1

/-- The decimal digits of a number. -/
def decimal (n : Nat) : List Char := Nat.toDigits 10 n

/-- The decimal text of an integer, with a minus sign below zero. -/
def decimalInt (n : Int) : List Char :=
  if n < 0 then '-' :: decimal n.natAbs else decimal n.natAbs

end ApiChain.Number
