import ApiChain.Mapping
import ApiChain.Method

/-!
# Call definitions

A definition describes one call: where it goes, what it sends, the earlier call whose response fills its
holes, and how its response becomes records. The functions named `with…` add to a definition that
`Definition.basic` started.
-/

namespace ApiChain

/-- One call of a chain. -/
structure Definition where
  /-- The identifier, under which the first response is stored. -/
  id : String
  name : Option String
  description : Option String
  method : Method
  /-- The host, with or without a scheme. -/
  host : String
  /-- The path on the host, or an absolute URL. -/
  url : String
  parameters : Members
  headers : Members
  body : Option Json
  /-- The identifier of the call whose response fills the holes. -/
  previous : Option String
  mapping : List Rule
deriving DecidableEq, Repr

/-- Whether a text starts with `http://` or `https://`, blanks before it and the case of letters
apart. -/
def isAbsoluteChars (s : List Char) : Bool :=
  let lower := Text.asciiLower (Text.trimStart s)
  ['h', 't', 't', 'p', ':', '/', '/'].isPrefixOf lower
    || ['h', 't', 't', 'p', 's', ':', '/', '/'].isPrefixOf lower

namespace Definition

/-- The definition with nothing but its place and method. -/
def basic (id : String) (method : Method) (host url : String) : Definition where
  id
  name := none
  description := none
  method
  host
  url
  parameters := []
  headers := []
  body := none
  previous := none
  mapping := []

/-- Makes the call depend on an earlier one. -/
def withPrevious (d : Definition) (api : String) : Definition := { d with previous := some api }

/-- Sets a query parameter. -/
def withParameter (d : Definition) (name : String) (value : Json) : Definition :=
  { d with parameters := d.parameters.set name value }

/-- Sets a header. -/
def withHeader (d : Definition) (name value : String) : Definition :=
  { d with headers := d.headers.set name (.string value) }

/-- Sets the body. -/
def withBody (d : Definition) (body : Json) : Definition := { d with body := some body }

/-- Adds a mapping rule after the others. -/
def withRule (d : Definition) (source target : String) : Definition :=
  { d with mapping := d.mapping ++ [⟨source, target⟩] }

/-- Whether the definition carries its whole URL itself, so that the host does not matter. -/
def hasAbsoluteUrl (d : Definition) : Bool := isAbsoluteChars d.url.toList

end Definition

end ApiChain
