import ApiChain.Template.Substitute
import ApiChain.Request
import ApiChain.Response
import ApiChain.Store
import ApiChain.Notice

/-!
# Planning the requests of a call

What a call sends depends on its definition and on the responses stored so far. Without the response
it depends on, it sends one request as written. With it, the holes are filled; if a hole is a
broadcast over the response and the response's data is an array, one request is sent for each
element, and its holes see that element alone.

* **`Definition.basis`** says which of these cases holds.
* **`Plan.of`** gives the requests, **`Plan.notices`** what is reported about them.
-/

namespace ApiChain

/-! ## URLs -/

/-- The URL for a host and a path. An absolute path is the URL itself; a host without a scheme is taken
to be secure. -/
def composeUrlChars (host path : List Char) : List Char :=
  let path := Text.trim path
  if isAbsoluteChars path then path
  else
    let host := ((Text.trim host).reverse.dropWhile (· == '/')).reverse
    let base :=
      if Text.occursIn [':', '/', '/'] host then host
      else ['h', 't', 't', 'p', 's', ':', '/', '/'] ++ host
    match path with
    | [] => base
    | '/' :: _ => base ++ path
    | '?' :: _ => base ++ path
    | _ => base ++ '/' :: path

/-- The URL for a host and a path. -/
def composeUrl (host path : String) : String :=
  String.ofList (composeUrlChars host.toList path.toList)

/-! ## What a call is planned from -/

/-- What the requests of a call are planned from. -/
inductive Basis where
  /-- The call depends on no other. -/
  | independent
  /-- The response that the call depends on is not stored. -/
  | nothingStored (dependency : String)
  /-- One request, filled from the whole response. -/
  | whole (dependency : String) (payload : Json)
  /-- One request for each element of the response's data. -/
  | each (dependency : String) (elements : List Json)
deriving Repr, DecidableEq

namespace Definition

/-- Whether the URL, the parameters or the body hold a broadcast over the dependency. Parameters and
body are searched in their written form. -/
def referencesBroadcast (d : Definition) (dependency : String) : Bool :=
  Template.containsBroadcast d.url dependency
    || Template.containsBroadcast (Json.object d.parameters).print dependency
    || d.body.any fun body => Template.containsBroadcast body.print dependency

/-- What the requests of the call are planned from. -/
def basis (d : Definition) (store : Store) : Basis :=
  match d.previous with
  | none => .independent
  | some dependency =>
    match store.get? dependency with
    | none => .nothingStored dependency
    | some payload =>
      match dataOf payload with
      | .array elements =>
        if d.referencesBroadcast dependency then .each dependency elements
        else .whole dependency payload
      | _ => .whole dependency payload

/-! ## Building a request -/

/-- The request with the given path, parameters and body. Parameters that are `null` are left out. -/
def assemble (d : Definition) (path : String) (parameters : Members) (body : Option Json) :
    Request where
  api := d.id
  method := d.method
  url := composeUrl d.host path
  query := (parameters.filter fun p => !p.2.isNull).map fun p => (p.1, p.2.plain)
  headers := d.headers.map fun h => (h.1, h.2.plain)
  body := body

/-- The request as written. -/
def plainRequest (d : Definition) : Request := d.assemble d.url d.parameters d.body

/-- The request with its holes for the dependency filled from a payload. -/
def filledRequest (d : Definition) (dependency : String) (payload : Json) : Request :=
  d.assemble (Template.fill payload dependency d.url)
    (Template.fillMembers payload dependency d.parameters)
    (d.body.map (Template.fillJson payload dependency))

/-- A payload whose data is the one element. -/
def elementView (element : Json) : Json := .object [("data", .array [element])]

end Definition

/-! ## Plans -/

/-- The requests of a call. -/
inductive Plan where
  /-- One request. -/
  | single (request : Request)
  /-- One request for each element of a response, in order. -/
  | fanOut (requests : List Request)
deriving Repr, DecidableEq

namespace Plan

/-- The requests of the plan, in order. -/
def requests : Plan → List Request
  | .single r => [r]
  | .fanOut rs => rs

/-- Whether the call is made once for each element. -/
def isFanOut : Plan → Bool
  | .single _ => false
  | .fanOut _ => true

/-- The plan on a basis. -/
def ofBasis (d : Definition) : Basis → Plan
  | .independent => .single d.plainRequest
  | .nothingStored _ => .single d.plainRequest
  | .whole dependency payload => .single (d.filledRequest dependency payload)
  | .each dependency elements =>
    .fanOut (elements.map fun e => d.filledRequest dependency (Definition.elementView e))

/-- The plan of a call, given the responses stored so far. -/
def of (d : Definition) (store : Store) : Plan := ofBasis d (d.basis store)

/-- What is reported about a plan on a basis. -/
def noticesOfBasis (d : Definition) : Basis → List Notice
  | .independent => []
  | .nothingStored dependency => [.nothingStored dependency d.id]
  | .whole _ _ => []
  | .each dependency elements => [.fanningOut d.id elements.length dependency]

/-- What is reported when the call is planned. -/
def notices (d : Definition) (store : Store) : List Notice := noticesOfBasis d (d.basis store)

end Plan

end ApiChain
