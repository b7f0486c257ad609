import ApiChain.Document.Fields

/-!
# Responses

A successful answer to a request, its body decoded to a value, and the data that a payload carries:
the member `data` of an object that has one, the payload itself otherwise.
-/

namespace ApiChain

/-- The data of a payload. -/
def dataOf (payload : Json) : Json :=
  match payload with
  | .object members => (Entries.get? members "data").getD payload
  | _ => payload

/-- A span of time in nanoseconds. -/
structure Duration where
  nanoseconds : Nat
deriving DecidableEq, Repr

namespace Duration

/-- Nanoseconds in a second. -/
def second : Nat := Number.tenPow 9

/-- The fields of a written duration. -/
inductive Field where
  | seconds
  | nanoseconds
deriving DecidableEq, Repr

/-- The names of a duration's fields. -/
def fieldSet : Document.FieldSet Field where
  all := [.seconds, .nanoseconds]
  name
    | .seconds => "secs"
    | .nanoseconds => "nanos"
  ofKey?
    | "secs" => some .seconds
    | "nanos" => some .nanoseconds
    | _ => none

/-- Refuses a record with a key that is no field of a duration. -/
def checkKeys : List (Document × Document) → Decoded Unit
  | [] => .ok ()
  | (k, _) :: rest => do
    let key ← k.asText
    if (fieldSet.ofKey? key).isNone then .error (.unknown key) else checkKeys rest

/-- Reads a duration: 64 bits of seconds and 32 bits of nanoseconds, of which a full second carries over
and must not overflow. Unlike other records it has no keys but its own. -/
def ofDocument (d : Document) : Decoded Duration := do
  match d.unmarked with
  | .record members => checkKeys members
  | _ => .ok ()
  let found ← Document.fields fieldSet 2 d
  let seconds ← Document.required fieldSet found .seconds (Document.asNatural (Number.twoPow 64 - 1))
  let nanos ← Document.required fieldSet found .nanoseconds (Document.asNatural (Number.twoPow 32 - 1))
  if seconds + nanos / second < Number.twoPow 64 then .ok ⟨seconds * second + nanos⟩
  else .error (.expected "a shorter duration")

/-- The seconds of a duration with nine decimals. -/
def text (d : Duration) : String :=
  let fraction := Number.decimal (d.nanoseconds % second)
  String.ofList (Number.decimal (d.nanoseconds / second) ++ ['.']
    ++ List.replicate (9 - fraction.length) '0' ++ fraction)

end Duration

/-- A successful answer. -/
structure Response where
  status : Nat
  headers : Entries String
  body : Json
  duration : Duration
deriving DecidableEq, Repr

namespace Response

/-- An answer with status 200, no headers and no measured time. -/
def ofBody (body : Json) : Response := { status := 200, headers := [], body, duration := ⟨0⟩ }

/-- Whether a status is one of success. -/
def isSuccessStatus (status : Nat) : Bool := 200 ≤ status && status < 300

/-- Whether the answer's status is one of success. -/
def isSuccess (r : Response) : Bool := isSuccessStatus r.status

/-- The data of the body. -/
def data (r : Response) : Json := dataOf r.body

/-- The fields of a response. -/
inductive Field where
  | status
  | headers
  | body
  | duration
deriving DecidableEq, Repr

/-- The names of a response's fields. -/
def fieldSet : Document.FieldSet Field where
  all := [.status, .headers, .body, .duration]
  name
    | .status => "status_code"
    | .headers => "headers"
    | .body => "body"
    | .duration => "duration"
  ofKey?
    | "status_code" => some .status
    | "headers" => some .headers
    | "body" => some .body
    | "duration" => some .duration
    | _ => none

/-- Reads a response. -/
def ofDocument (d : Document) : Decoded Response := do
  let found ← Document.fields fieldSet 4 d
  let status ← Document.required fieldSet found .status (Document.asNatural 65535)
  let headers ← Document.required fieldSet found .headers (Document.asEntriesOf Document.asText)
  let body ← Document.required fieldSet found .body Document.asJson
  let duration ← Document.required fieldSet found .duration Duration.ofDocument
  .ok { status, headers, body, duration }

end Response

end ApiChain
