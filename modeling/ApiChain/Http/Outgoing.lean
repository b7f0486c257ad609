import ApiChain.Http.Header
import ApiChain.Config.Basic
import ApiChain.Request
import ApiChain.Url.Reader

/-!
# Requests as they are sent

The form in which a request leaves for its peer: the whole URL as its target, all headers with those
that every request has, and the body as a text. `Outgoing.ofRequest` finds the first thing that
keeps a request from being sent: the URL, its scheme, a header, or a host that cannot be written in
a target.
-/

namespace ApiChain.Http

/-- A request as it is sent. -/
structure Outgoing where
  method : Method
  target : String
  /-- The headers, names in lower case, sorted. -/
  headers : List Header
  body : String
deriving DecidableEq, Repr

namespace Outgoing

/-! ## Credentials -/

/-- The sign for six bits. -/
def sixBits (n : Nat) : Char :=
  if n < 26 then Char.ofNat ('A'.toNat + n)
  else if n < 52 then Char.ofNat ('a'.toNat + n - 26)
  else if n < 62 then Char.ofNat ('0'.toNat + n - 52)
  else if n = 62 then '+' else '/'

/-- Octets in groups of three as four signs of six bits; an incomplete group is filled up. -/
def base64 : List Nat → List Char
  | a :: b :: c :: rest =>
    sixBits (a / 4) :: sixBits (a % 4 * 16 + b / 16) :: sixBits (b % 16 * 4 + c / 64)
      :: sixBits (c % 64) :: base64 rest
  | [a, b] => [sixBits (a / 4), sixBits (a % 4 * 16 + b / 16), sixBits (b % 16 * 4), '=']
  | [a] => [sixBits (a / 4), sixBits (a % 4 * 16), '=', '=']
  | [] => []

/-- The header for the user that a URL names. -/
def credentials (u : WebUrl) : List Header :=
  if u.user.isEmpty && u.password.isEmpty then []
  else
    let user := Url.percentOctets u.user ++ [58] ++ Url.percentOctets u.password
    [("authorization", "Basic " ++ String.ofList (base64 (user.map UInt8.toNat)))]

/-! ## Headers -/

/-- A header unless one of its name is given. -/
def unlessGiven (given : List Header) (name value : String) : List Header :=
  if given.any fun h => h.1 == name then [] else [(name, value)]

/-- The order of headers: by name, then by value. -/
def headerLe (a b : Header) : Bool := decide (a.1 < b.1) || (a.1 == b.1 && !decide (b.2 < a.2))

/-- The text of a body: a text as it is, any other value as JSON. -/
def bodyText : Option Json → String
  | some (.string s) => s
  | some j => j.print
  | none => ""

/-- Whether a body is sent as JSON. -/
def isJsonBody : Option Json → Bool
  | some (.string _) => false
  | some _ => true
  | none => false

/-- All headers of a request to the URL. A request for a range asks for no encoding. -/
def allHeaders (userAgent : String) (u : WebUrl) (r : Request) : List Header :=
  let given := r.headers.map fun (name, value) =>
    (String.ofList (Text.asciiLower name.toList), String.ofList (Text.trim value.toList))
  let body := bodyText r.body
  let ranged := given.any fun h => h.1 == "range"
  let all := given ++ credentials u
    ++ unlessGiven given "accept" "*/*"
    ++ (if ranged then [] else unlessGiven given "accept-encoding" "gzip, br, deflate")
    ++ unlessGiven given "host" (String.ofList u.authority)
    ++ unlessGiven given "user-agent" userAgent
    ++ (if isJsonBody r.body then unlessGiven given "content-type" "application/json" else [])
    ++ (if body.isEmpty then []
        else unlessGiven given "content-length" (toString body.utf8ByteSize))
  all.mergeSort headerLe

/-! ## Building -/

/-- The most octets of a URL that can be written in a target. -/
def maxTargetLength : Nat := 65534

/-- Whether a host holds nothing that a target cannot. -/
def isSendableHost : Url.Host → Bool
  | .domain name => !name.any fun c => ['"', '\x60', '{', '}'].contains c
  | _ => true

/-- Whether a request can be sent to the URL. -/
def isSendable (u : WebUrl) : Bool := isSendableHost u.host && u.text.length ≤ maxTargetLength

/-- The request as it is sent, or the first thing that keeps it from being sent. -/
def ofRequest (userAgent : String) (r : Request) : Except RequestError Outgoing :=
  match Url.read r.url with
  | .error e => .error (.invalidUrl e.message)
  | .ok (.other scheme) => .error (.unsupportedProtocol (String.ofList scheme))
  | .ok (.web u) =>
    match Header.firstDefect? r.headers with
    | some defect => .error (.build defect.message)
    | none =>
      let u := u.addQuery r.query
      if isSendable u then
        .ok {
          method := r.method
          target := String.ofList u.target
          headers := allHeaders userAgent u r
          body := bodyText r.body }
      else
        .error (.build ("builder error for url (" ++ String.ofList u.text
          ++ "): Parsed Url is not a valid Uri"))

end Outgoing

end ApiChain.Http
