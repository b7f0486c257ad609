import ApiChain.Failure
import ApiChain.Http.Header
import ApiChain.Json.Reader
import ApiChain.Response
import ApiChain.Text.Blank
import ApiChain.Text.Case

/-!
# Answers as they come in

An answer with a status of success becomes a response, its body read as JSON if it is that, and as a
text otherwise. Any other status is an error that keeps the beginning of the body.
-/

namespace ApiChain.Http

/-- An answer as it comes in. -/
structure Incoming where
  status : Nat
  headers : List Header
  body : String
  /-- The time from the request to the end of the answer. -/
  duration : Duration
deriving DecidableEq, Repr

namespace Incoming

/-- The value of a body: none if it is blank, what it says as JSON, or else the text itself. -/
def decodeBody (text : String) : Json :=
  if Text.allBlank text then .null else (Json.read? text).getD (.string text)

/-- Whether the value of a header is plain text. -/
def isPlain (value : String) : Bool :=
  value.toList.all fun c => c == '\t' || (0x20 ≤ c.toNat && c.toNat < 0x7F)

/-- The headers with plain values, by their names in lower case; of several values the last one
counts. -/
def plainHeaders (hs : List Header) : Entries String :=
  Entries.ofList ((hs.filter fun h => isPlain h.2).map fun (name, value) =>
    (String.ofList (Text.asciiLower name.toList), value))

/-- The response, or the error that the status stands for. -/
def toResponse (i : Incoming) : Except RequestError Response :=
  if Response.isSuccessStatus i.status then
    .ok {
      status := i.status
      headers := plainHeaders i.headers
      body := decodeBody i.body
      duration := i.duration }
  else .error (.ofStatus i.status i.body)

end Incoming

end ApiChain.Http
