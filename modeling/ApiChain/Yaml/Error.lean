/-!
# Errors in a YAML text
-/

namespace ApiChain.Yaml

/-- Why a text is not one YAML document. -/
inductive Error where
  | forbiddenCharacter
  | unexpectedCharacter
  | malformedDirective
  | malformedAnchor
  | malformedTag
  | malformedBlockHeader
  | tabInIndentation
  | unclosedQuote
  | markInsideQuote
  | unknownEscape
  | unexpectedColon
  | missingColon
  | entryNotAllowed
  | keyNotAllowed
  | valueNotAllowed
  | unexpectedToken
  | undefinedTagHandle
  | incompatibleVersion
  | repeatedDirective
  | unknownAnchor
  | noDocument
  | severalDocuments
deriving DecidableEq, Repr

namespace Error

/-- The wording of the error. -/
def message : Error → String
  | .forbiddenCharacter => "control characters are not allowed"
  | .unexpectedCharacter => "found a character that cannot start any token"
  | .malformedDirective => "found a malformed directive"
  | .malformedAnchor => "found a malformed anchor or alias"
  | .malformedTag => "found a malformed tag"
  | .malformedBlockHeader => "found a malformed header of a block scalar"
  | .tabInIndentation => "found a tab where an indentation space is expected"
  | .unclosedQuote => "found the end of the text inside a quoted scalar"
  | .markInsideQuote => "found a document mark inside a quoted scalar"
  | .unknownEscape => "found an unknown escape sequence"
  | .unexpectedColon => "found an unexpected ':' in a plain scalar"
  | .missingColon => "could not find the expected ':' after a key"
  | .entryNotAllowed => "a list entry is not allowed here"
  | .keyNotAllowed => "a mapping key is not allowed here"
  | .valueNotAllowed => "a mapping value is not allowed here"
  | .unexpectedToken => "did not find the expected part of a node"
  | .undefinedTagHandle => "found an undefined tag handle"
  | .incompatibleVersion => "found a document of an incompatible version"
  | .repeatedDirective => "found a repeated directive"
  | .unknownAnchor => "found an unknown anchor"
  | .noDocument => "found no document"
  | .severalDocuments => "found more than one document"

end Error

end ApiChain.Yaml
