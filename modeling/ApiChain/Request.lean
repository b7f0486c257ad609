import ApiChain.Definition.Encoding

/-!
# Requests

A request as it is handed to a transport: every hole that could be filled is filled and the URL is
composed. Query pairs and headers keep their order and may repeat.
-/

namespace ApiChain

/-- A request ready to be sent. -/
structure Request where
  /-- The identifier of the call it belongs to. -/
  api : String
  method : Method
  /-- The URL, to which a transport appends the query. -/
  url : String
  query : List (String × String)
  headers : List (String × String)
  /-- A text is sent as it is, any other value as JSON. -/
  body : Option Json
deriving DecidableEq, Repr

namespace Request

/-- The first value of a query parameter. -/
def queryParameter? (r : Request) (name : String) : Option String := r.query.lookup name

/-- The first value of a header; the case of ASCII letters in the name does not count. -/
def header? (r : Request) (name : String) : Option String :=
  (r.headers.find? fun h => Text.sameIgnoringCase h.1 name).map Prod.snd

/-! ## Reading and writing -/

/-- The fields of a request. -/
inductive Field where
  | api
  | method
  | url
  | query
  | headers
  | body
deriving DecidableEq, Repr

/-- The names of a request's fields. -/
def fieldSet : Document.FieldSet Field where
  all := [.api, .method, .url, .query, .headers, .body]
  name
    | .api => "api_id"
    | .method => "method"
    | .url => "url"
    | .query => "query"
    | .headers => "headers"
    | .body => "body"
  ofKey?
    | "api_id" => some .api
    | "method" => some .method
    | "url" => some .url
    | "query" => some .query
    | "headers" => some .headers
    | "body" => some .body
    | _ => none

/-- Reads a pair of texts, written as a list of two. -/
def pairOfDocument (d : Document) : Decoded (String × String) := do
  match ← d.asItems with
  | [a, b] => do
    let first ← a.asText
    let second ← b.asText
    .ok (first, second)
  | _ => .error .wrongLength

/-- Reads a request. -/
def ofDocument (d : Document) : Decoded Request := do
  let found ← Document.fields fieldSet 6 d
  let api ← Document.required fieldSet found .api Document.asText
  let method ← Document.required fieldSet found .method Method.ofDocument
  let url ← Document.required fieldSet found .url Document.asText
  let query ← Document.required fieldSet found .query (Document.asListOf pairOfDocument)
  let headers ← Document.required fieldSet found .headers (Document.asListOf pairOfDocument)
  let body ← Document.optional found .body Document.asJson
  .ok { api, method, url, query, headers, body }

/-- A pair of texts as a list of two. -/
def pairToJson (p : String × String) : Json := .array [.string p.1, .string p.2]

/-- The written form of a request. -/
def toJson (r : Request) : Json :=
  .object
    [("api_id", .string r.api), ("method", .string r.method.name), ("url", .string r.url),
     ("query", .array (r.query.map pairToJson)), ("headers", .array (r.headers.map pairToJson)),
     ("body", r.body.getD .null)]

end Request

end ApiChain
