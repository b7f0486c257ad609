/-!
# Letter case

Lower case is ASCII's: it serves names that are compared without regard to the case of ASCII letters
(schemes, header names). Upper case also covers the few letters outside ASCII whose upper case is
written in ASCII letters, because a keyword may be spelled with them.
-/

namespace ApiChain.Text

/-- The lower case of an ASCII text; other characters are kept. -/
def asciiLower (s : List Char) : List Char := s.map Char.toLower

/-- Two texts agree up to the case of ASCII letters. -/
def sameIgnoringCase (s t : String) : Bool := asciiLower s.toList == asciiLower t.toList

/-- The letters outside ASCII whose upper case is written in ASCII letters: the dotless and the long
letter, the sharp letter and the Latin ligatures. -/
def upperOutsideAscii : List (Char × List Char) :=
  [('\u0131', ['I']), ('\u017f', ['S']), ('\u00df', ['S', 'S']),
   ('\ufb00', ['F', 'F']), ('\ufb01', ['F', 'I']), ('\ufb02', ['F', 'L']),
   ('\ufb03', ['F', 'F', 'I']), ('\ufb04', ['F', 'F', 'L']),
   ('\ufb05', ['S', 'T']), ('\ufb06', ['S', 'T'])]

/-- The upper case of a character, as far as it is written in ASCII. Any other character outside ASCII
has an upper case outside ASCII, or none, and stays as it is: a comparison with an ASCII keyword fails
either way. -/
def upperChar (c : Char) : List Char :=
  if c.toNat < 128 then [c.toUpper] else (upperOutsideAscii.lookup c).getD [c]

/-- The upper case of a text, for a comparison with an ASCII keyword. -/
def keywordUpper (s : List Char) : List Char := s.flatMap upperChar

end ApiChain.Text
