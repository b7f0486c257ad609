/-!
# Errors in a URL
-/

namespace ApiChain.Url

/-- Why a text is not an absolute URL. -/
inductive Error where
  /-- It has no scheme. -/
  | relative
  | emptyHost
  | invalidPort
  | invalidIpv4
  | invalidIpv6
  /-- The host is not a domain name. -/
  | invalidDomain
  /-- A host outside the web has a character that no host can have. -/
  | invalidHostCharacter
deriving DecidableEq, Repr

/-- The wording of the error. -/
def Error.message : Error → String
  | .relative => "relative URL without a base"
  | .emptyHost => "empty host"
  | .invalidPort => "invalid port number"
  | .invalidIpv4 => "invalid IPv4 address"
  | .invalidIpv6 => "invalid IPv6 address"
  | .invalidDomain => "invalid international domain name"
  | .invalidHostCharacter => "invalid domain character"

end ApiChain.Url
