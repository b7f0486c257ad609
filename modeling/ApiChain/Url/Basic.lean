import ApiChain.Url.Host

/-!
# Absolute URLs

A URL of the web has a host, a path and perhaps a query; of any other URL only the scheme is kept,
because no request can be sent to it. The parts hold their written forms: what a part cannot hold is
percent-encoded there already.
-/

namespace ApiChain

/-- A place on the web. -/
structure WebUrl where
  /-- Whether the scheme is `https`. -/
  secure : Bool
  user : List Char
  password : List Char
  host : Url.Host
  /-- The port, if it is not the one that the scheme has by default. -/
  port : Option Nat
  /-- The path, which begins with a slash. -/
  path : List Char
  query : Option (List Char)
  fragment : Option (List Char)
deriving DecidableEq, Repr

/-- An absolute URL. -/
inductive Url where
  | web (place : WebUrl)
  /-- A URL outside the web. -/
  | other (scheme : List Char)
deriving DecidableEq, Repr

namespace Url

/-! ## What the parts keep -/

/-- Whether the character is a printable one of ASCII other than the space. -/
def isGraphic (c : Char) : Bool := 0x20 < c.toNat && c.toNat < 0x7F

/-- The characters that a fragment keeps. -/
def keptInFragment (c : Char) : Bool := isGraphic c && !(['"', '<', '>', '\x60'].contains c)

/-- The characters that a path keeps. -/
def keptInPath (c : Char) : Bool := keptInFragment c && !(['#', '?', '{', '}'].contains c)

/-- The characters that a user's name or password keeps. -/
def keptInUser (c : Char) : Bool :=
  keptInPath c && !(['/', ':', ';', '=', '@', '[', '\\', ']', '^', '|'].contains c)

/-- The characters that a query keeps. -/
def keptInQuery (c : Char) : Bool := isGraphic c && !(['"', '#', '<', '>', '\''].contains c)

/-- The characters that a form keeps. -/
def keptInForm (c : Char) : Bool := c.isAlphanum || ['*', '-', '.', '_'].contains c

/-! ## Forms -/

/-- A text in a form: a space is a plus sign. -/
def formText (s : List Char) : List Char :=
  s.flatMap fun c => if c = ' ' then ['+'] else percentEncode keptInForm [c]

/-- Pairs of names and values as a form. -/
def formPairs (pairs : List (String × String)) : List Char :=
  Text.joinWith ['&'] (pairs.map fun (k, v) => formText k.toList ++ ['='] ++ formText v.toList)

end Url

namespace WebUrl

open ApiChain.Number (decimal)

/-- The name of the scheme. -/
def scheme (u : WebUrl) : List Char :=
  if u.secure then ['h', 't', 't', 'p', 's'] else ['h', 't', 't', 'p']

/-- The host with the port, if one is written. -/
def authority (u : WebUrl) : List Char :=
  u.host.text ++ (match u.port with
    | some n => ':' :: decimal n
    | none => [])

/-- A part with the mark before it. -/
def part (mark : Char) : Option (List Char) → List Char
  | some s => mark :: s
  | none => []

/-- The text of the URL up to its query, without the user. -/
def target (u : WebUrl) : List Char :=
  u.scheme ++ [':', '/', '/'] ++ u.authority ++ u.path ++ part '?' u.query

/-- The text of the URL without the user. -/
def text (u : WebUrl) : List Char := u.target ++ part '#' u.fragment

/-- The URL with pairs appended to its query. -/
def addQuery (u : WebUrl) (pairs : List (String × String)) : WebUrl :=
  if pairs.isEmpty then u
  else
    match u.query with
    | some (c :: q) => { u with query := some (c :: q ++ ['&'] ++ Url.formPairs pairs) }
    | _ => { u with query := some (Url.formPairs pairs) }

end WebUrl

end ApiChain
