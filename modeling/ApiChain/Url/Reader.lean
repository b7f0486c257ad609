import ApiChain.Url.Basic

/-!
# Reading URLs

`Url.read` gives the absolute URL that a text writes. It is lenient: blanks around the text, tabs
and line breaks in it and the number of slashes before the host do not count, and a backslash is a
slash on the web. Outside the web only what stands for a host is looked at.
-/

namespace ApiChain.Url

open ApiChain.Number (ofDigits?)

/-! ## Schemes -/

/-- The text without the blanks and controls around it and without the tabs and line breaks in it. -/
def clean (s : List Char) : List Char :=
  let isEdge (c : Char) : Bool := c.toNat ≤ 0x20
  let trimmed := ((s.dropWhile isEdge).reverse.dropWhile isEdge).reverse
  trimmed.filter fun c => !(c == '\t' || c == '\n' || c == '\r')

/-- A character of a scheme after its first one. -/
def isSchemeChar (c : Char) : Bool := c.isAlphanum || c == '+' || c == '-' || c == '.'

/-- Splits a text into its scheme, in lower case, and what follows the colon. -/
def splitScheme (s : List Char) : Option (List Char × List Char) :=
  let scheme := s.takeWhile isSchemeChar
  match scheme, s.dropWhile isSchemeChar with
  | c :: _, ':' :: rest => if c.isAlpha then some (scheme.map Char.toLower, rest) else none
  | _, _ => none

/-! ## Authorities -/

/-- Whether the character is a slash on the web. -/
def isSlash (c : Char) : Bool := c == '/' || c == '\\'

/-- Whether the character ends an authority; a backslash does so on the web only. -/
def endsAuthority (web : Bool) (c : Char) : Bool :=
  c == '/' || c == '?' || c == '#' || (web && c == '\\')

/-- Splits an authority into the user's part, if there is one, and the host with its port. -/
def splitUser (authority : List Char) : Option (List Char) × List Char :=
  let host := (authority.reverse.takeWhile (· != '@')).reverse
  if authority.contains '@' then (some (authority.take (authority.length - host.length - 1)), host)
  else (none, authority)

/-- Splits a host with its port at the colon before the port; a colon between brackets belongs to the
host. -/
def splitHost : Bool → List Char → List Char × List Char
  | _, [] => ([], [])
  | bracketed, c :: rest =>
    if c = ':' ∧ bracketed = false then ([], c :: rest)
    else
      let (host, port) := splitHost (c == '[' || (bracketed && c != ']')) rest
      (c :: host, port)

/-- The greatest port. -/
def maxPort : Nat := 65535

/-- Reads a port with the colon before it; the default one is none. -/
def readPort (default : Option Nat) : List Char → Except Error (Option Nat)
  | ':' :: rest =>
    let digits := rest.takeWhile (· != '\\')
    if digits.isEmpty then .ok none
    else
      match ofDigits? 10 digits with
      | some n =>
        if maxPort < n then .error .invalidPort
        else if default = some n then .ok none
        else .ok (some n)
      | none => .error .invalidPort
  | _ => .ok none

/-! ## The web -/

/-- Splits a path at its slashes. -/
def splitSegments : List Char → List (List Char)
  | [] => [[]]
  | c :: rest =>
    if isSlash c then [] :: splitSegments rest
    else
      match splitSegments rest with
      | segment :: segments => (c :: segment) :: segments
      | [] => [[c]]

/-- A segment with its encoded points read. -/
def readPoints : List Char → List Char
  | '%' :: '2' :: e :: rest =>
    if e = 'e' ∨ e = 'E' then '.' :: readPoints rest else '%' :: '2' :: e :: readPoints rest
  | c :: rest => c :: readPoints rest
  | [] => []

/-- The segments of a path after `before`, last one first: one point stays at a segment, two go back
one. -/
def walk : List (List Char) → List (List Char) → List (List Char)
  | before, [] => before
  | before, segment :: rest =>
    let points := readPoints segment
    if points = ['.', '.'] then
      let before := before.drop 1
      walk (if rest.isEmpty then [] :: before else before) rest
    else if points = ['.'] then walk (if rest.isEmpty then [] :: before else before) rest
    else walk (percentEncode keptInPath segment :: before) rest

/-- Reads a path, which begins with a slash if it is not empty. -/
def readPath (s : List Char) : List Char :=
  (walk [] (splitSegments (s.drop 1))).reverse.flatMap ('/' :: ·)

/-- Reads a URL of the web after its scheme and colon. -/
def readWeb (secure : Bool) (s : List Char) : Except Error WebUrl := do
  let s := s.dropWhile isSlash
  let (user, place) := splitUser (s.takeWhile fun c => !endsAuthority true c)
  let after := s.dropWhile fun c => !endsAuthority true c
  let (hostText, portText) := splitHost false place
  if hostText.isEmpty then .error .emptyHost
  else
    let host ← Host.ofText hostText
    let port ← readPort (some (if secure then 443 else 80)) portText
    let user := user.getD []
    let path := after.takeWhile fun c => !(c == '?' || c == '#')
    let marked := after.dropWhile fun c => !(c == '?' || c == '#')
    let query := match marked with
      | '?' :: rest => some (percentEncode keptInQuery (rest.takeWhile (· != '#')))
      | _ => none
    let fragment := match marked.dropWhile (· != '#') with
      | _ :: rest => some (percentEncode keptInFragment rest)
      | [] => none
    .ok {
      secure, host, port, query, fragment
      user := percentEncode keptInUser (user.takeWhile (· != ':'))
      password := percentEncode keptInUser ((user.dropWhile (· != ':')).drop 1)
      path := readPath path }

/-! ## Outside the web -/

/-- Checks the host of a file's URL after its scheme and colon. The letter of a drive is no host. -/
def checkFile (s : List Char) : Except Error Unit :=
  match s with
  | a :: b :: rest =>
    if isSlash a && isSlash b then
      let host := rest.takeWhile fun c => !endsAuthority true c
      match host with
      | [] => .ok ()
      | [drive, mark] =>
        if drive.isAlpha && (mark == ':' || mark == '|') then .ok ()
        else (Host.ofText host).map fun _ => ()
      | _ => (Host.ofText host).map fun _ => ()
    else .ok ()
  | _ => .ok ()

/-- Checks the host of any other URL after its scheme and colon, if it has one. -/
def checkOpaque (s : List Char) : Except Error Unit :=
  match s with
  | '/' :: '/' :: rest => do
    let (user, place) := splitUser (rest.takeWhile fun c => !endsAuthority false c)
    let atEnd := (rest.dropWhile fun c => !endsAuthority false c).isEmpty
    let (hostText, portText) := splitHost false place
    let host ← Host.ofOpaqueText hostText
    let nameless := host == .domain []
    if nameless && !portText.isEmpty then .error .emptyHost
    else
      let _ ← readPort none portText
      match user with
      | some [] => if nameless && !atEnd then .error .emptyHost else .ok ()
      | some u => if nameless && u != [':'] then .error .emptyHost else .ok ()
      | none => .ok ()
  | _ => .ok ()

/-! ## URLs -/

/-- Reads a URL after its scheme and colon. -/
def readAfter (scheme s : List Char) : Except Error Url :=
  match String.ofList scheme with
  | "http" => (readWeb false s).map .web
  | "https" => (readWeb true s).map .web
  | "ws" => (readWeb false s).map fun _ => .other scheme
  | "wss" => (readWeb true s).map fun _ => .other scheme
  | "ftp" => (readWeb false s).map fun _ => .other scheme
  | "file" => (checkFile s).map fun _ => .other scheme
  | _ => (checkOpaque s).map fun _ => .other scheme

/-- The absolute URL that a text writes. -/
def read (s : String) : Except Error Url :=
  match splitScheme (clean s.toList) with
  | some (scheme, rest) => readAfter scheme rest
  | none => .error .relative

end ApiChain.Url
