/-!
# Headers

A header's name is a token and its value holds no control character other than the tab.
-/

namespace ApiChain.Http

/-- A header: its name and its value. -/
abbrev Header := String × String

namespace Header

/-- Why a header cannot be sent. -/
inductive Defect where
  | name
  | value
deriving DecidableEq, Repr

/-- The wording of the defect. -/
def Defect.message : Defect → String
  | .name => "builder error: invalid HTTP header name"
  | .value => "builder error: failed to parse header value"

/-- A character of a token. -/
def isTokenChar (c : Char) : Bool :=
  c.isAlphanum
    || ['!', '#', '$', '%', '&', '\'', '*', '+', '-', '.', '^', '_', '\x60', '|', '~'].contains c

/-- The most characters of a name. -/
def maxNameLength : Nat := 65535

/-- Whether the text can be the name of a header. -/
def isName (s : String) : Bool :=
  !s.isEmpty && s.toList.all isTokenChar && s.toList.length ≤ maxNameLength

/-- Whether the text can be the value of a header. -/
def isValue (s : String) : Bool :=
  s.toList.all fun c => c == '\t' || (0x20 ≤ c.toNat && c.toNat != 0x7F)

/-- What is wrong with a header, its name being looked at first. -/
def defect? (h : Header) : Option Defect :=
  if !isName h.1 then some .name else if !isValue h.2 then some .value else none

/-- What is wrong with the first header that cannot be sent. -/
def firstDefect? (hs : List Header) : Option Defect := hs.findSome? defect?

end Header

end ApiChain.Http
