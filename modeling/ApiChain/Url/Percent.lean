import ApiChain.Number.Natural
import ApiChain.Text.Octets

/-!
# Percent-encoding

A character that a part of a URL cannot hold is written as the octets of its UTF-8 encoding, each a
percent sign with two hexadecimal digits. Reading takes such triples back to octets and leaves a percent
sign that begins none as it is.
-/

namespace ApiChain.Url

open ApiChain.Number (digitValue?)

/-- A hexadecimal digit, letters in upper case. -/
def upperHexDigit (n : Nat) : Char := (Nat.digitChar n).toUpper

/-- An octet as a percent sign and two digits. -/
def percentOctet (b : UInt8) : List Char :=
  ['%', upperHexDigit (b.toNat / 16), upperHexDigit (b.toNat % 16)]

/-- A text with every character but those that `keep` keeps encoded. -/
def percentEncode (keep : Char → Bool) (s : List Char) : List Char :=
  s.flatMap fun c => if keep c then [c] else (Text.octets [c]).flatMap percentOctet

/-- The octets that a text stands for. -/
def percentOctets : List Char → List UInt8
  | '%' :: a :: b :: rest =>
    match digitValue? a, digitValue? b with
    | some high, some low => UInt8.ofNat (16 * high + low) :: percentOctets rest
    | _, _ => Text.octets ['%'] ++ percentOctets (a :: b :: rest)
  | c :: rest => Text.octets [c] ++ percentOctets rest
  | [] => []

/-- The text that a percent-encoded text stands for, if its octets are one. -/
def percentDecode? (s : List Char) : Option (List Char) := Text.ofOctets? (percentOctets s)

end ApiChain.Url
