import ApiChain.Definition.Basic
import ApiChain.Document.Fields

/-!
# Definitions as documents

Definitions and mapping rules are written as JSON objects and read from documents of any format. A
definition writes its members in a fixed order and leaves out the optional ones that it does not have.
Reading is lenient: members may come in any order, unknown keys are ignored, and three fields have a
second name. It is strict about repetition: a field given twice is refused, also under its two names.
-/

namespace ApiChain

/-! ## Mapping rules -/

namespace Rule

/-- The fields of a rule. -/
inductive Field where
  | source
  | target
deriving DecidableEq, Repr

/-- The names of a rule's fields; each has a second one. -/
def fieldSet : Document.FieldSet Field where
  all := [.source, .target]
  name
    | .source => "source"
    | .target => "target"
  ofKey?
    | "source" | "from" => some .source
    | "target" | "to" => some .target
    | _ => none

/-- The members of a written rule. -/
def toMembers (r : Rule) : Members := [("source", .string r.source), ("target", .string r.target)]

/-- The written form of a rule. -/
def toJson (r : Rule) : Json := .object r.toMembers

/-- Reads a rule. -/
def ofDocument (d : Document) : Decoded Rule := do
  let found ← Document.fields fieldSet 2 d
  let source ← Document.required fieldSet found .source Document.asText
  let target ← Document.required fieldSet found .target Document.asText
  .ok { source, target }

end Rule

/-! ## Methods -/

/-- Reads a method. -/
def Method.ofDocument (d : Document) : Decoded Method := do
  let text ← d.asText
  match Method.parse? text with
  | some m => .ok m
  | none => .error (.unknownMethod text)

/-! ## Definitions -/

namespace Definition

/-- The fields of a definition. -/
inductive Field where
  | id
  | name
  | description
  | method
  | host
  | url
  | parameters
  | headers
  | body
  | previous
  | mapping
deriving DecidableEq, Repr

/-- The names of a definition's fields; `path` is a second name of `url`. -/
def fieldSet : Document.FieldSet Field where
  all := [.id, .name, .description, .method, .host, .url, .parameters, .headers, .body, .previous,
    .mapping]
  name
    | .id => "id"
    | .name => "name"
    | .description => "description"
    | .method => "method"
    | .host => "host"
    | .url => "url"
    | .parameters => "parameters"
    | .headers => "headers"
    | .body => "body"
    | .previous => "previousApiId"
    | .mapping => "mapping"
  ofKey?
    | "id" => some .id
    | "name" => some .name
    | "description" => some .description
    | "method" => some .method
    | "host" => some .host
    | "url" | "path" => some .url
    | "parameters" => some .parameters
    | "headers" => some .headers
    | "body" => some .body
    | "previousApiId" => some .previous
    | "mapping" => some .mapping
    | _ => none

/-- A member that is written only if there is a value. -/
def optionalMember (key : String) (value : Option Json) : Members :=
  match value with
  | some v => [(key, v)]
  | none => []

/-- The members of a written definition. -/
def toMembers (d : Definition) : Members :=
  [("id", .string d.id)]
    ++ optionalMember "name" (d.name.map .string)
    ++ optionalMember "description" (d.description.map .string)
    ++ [("method", .string d.method.name), ("host", .string d.host), ("url", .string d.url),
        ("parameters", .object d.parameters), ("headers", .object d.headers)]
    ++ optionalMember "body" d.body
    ++ optionalMember "previousApiId" (d.previous.map .string)
    ++ [("mapping", .array (d.mapping.map Rule.toJson))]

/-- The written form of a definition. -/
def toJson (d : Definition) : Json := .object d.toMembers

/-- Reads a definition. A body given as no value is no body. -/
def ofDocument (d : Document) : Decoded Definition := do
  let found ← Document.fields fieldSet 11 d
  let id ← Document.required fieldSet found .id Document.asText
  let name ← Document.optional found .name Document.asText
  let description ← Document.optional found .description Document.asText
  let method ← Document.required fieldSet found .method Method.ofDocument
  let host ← Document.withDefault found .host "" Document.asText
  let url ← Document.withDefault found .url "" Document.asText
  let parameters ← Document.withDefault found .parameters [] (Document.asEntriesOf Document.asJson)
  let headers ← Document.withDefault found .headers [] (Document.asEntriesOf Document.asJson)
  let body ← Document.optional found .body Document.asJson
  let previous ← Document.optional found .previous Document.asText
  let mapping ← Document.required fieldSet found .mapping (Document.asListOf Rule.ofDocument)
  .ok { id, name, description, method, host, url, parameters, headers, body, previous, mapping }

/-- Reads a definition from the members of an object. -/
def ofMembers (ms : List (String × Json)) : Decoded Definition :=
  ofDocument (.record (Document.ofMembers ms))

end Definition

end ApiChain
