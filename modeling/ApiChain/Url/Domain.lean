import ApiChain.Text.Split
import ApiChain.Url.Domain.Label
import ApiChain.Url.Error
import ApiChain.Url.Percent

/-!
# Domain names

A domain name is brought to one form: percent-encoded octets are read, characters take their plain
forms, and labels with characters outside ASCII are written in punycode. A name with a character that no
domain can have, or with a label that is not a good one, is refused.
-/

namespace ApiChain.Url

open ApiChain.Text (splitOn joinWith)

namespace Domain

/-- The labels of a name, their characters in plain form. -/
def labels? (name : List Char) : Option (List (List Char)) :=
  (name.mapM mapChar).bind fun mapped => (splitOn '.' mapped.flatten).mapM readLabel

/-- Whether the labels of a name agree on directions, if one of them is written from right to left. -/
def isConsistent (labels : List (List Char)) : Bool :=
  !labels.any isRightToLeft || labels.all directionsAgree

/-- The written form of the name with the given labels, if there is one. -/
def ofLabels? (labels : List (List Char)) : Option (List Char) :=
  let name := joinWith ['.'] (labels.map writeLabel)
  if isConsistent labels && !name.any isForbidden then some name else none

end Domain

/-- The one form of a domain name. -/
def domainToAscii (s : List Char) : Except Error (List Char) :=
  match ((percentDecode? s).bind Domain.labels?).bind Domain.ofLabels? with
  | some name => .ok name
  | none => .error .invalidDomain

end ApiChain.Url
