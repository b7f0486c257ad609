/-!
# Octets

Texts as the octets of their UTF-8 encoding.
-/

namespace ApiChain.Text

/-- The octets of a text. -/
def octets (s : List Char) : List UInt8 := s.flatMap String.utf8EncodeChar

/-- The text that octets encode. -/
def ofOctets? (bs : List UInt8) : Option (List Char) :=
  (String.fromUTF8? bs.toByteArray).map String.toList

/-- How many octets a text has. -/
def octetCount (s : List Char) : Nat := s.foldl (fun n c => n + c.utf8Size) 0

end ApiChain.Text
