import ApiChain.Json.Basic

/-!
# Stored responses

The payloads of the calls made so far, by identifier. The first payload of an identifier stays: storing
another one changes nothing.
-/

namespace ApiChain

/-- The payloads stored so far, in the order in which they came. -/
structure Store where
  entries : Entries Json
deriving Repr, DecidableEq

namespace Store

/-- The store without payloads. -/
def empty : Store := ⟨[]⟩

/-- The payload of an identifier. -/
def get? (s : Store) (api : String) : Option Json := s.entries.get? api

/-- Whether the identifier has a payload. -/
def contains (s : Store) (api : String) : Bool := s.entries.contains api

/-- The number of payloads. -/
def size (s : Store) : Nat := s.entries.length

/-- Whether there is no payload. -/
def isEmpty (s : Store) : Bool := s.entries.isEmpty

/-- Stores a payload, unless the identifier has one. -/
def insertIfAbsent (s : Store) (api : String) (payload : Json) : Store :=
  if s.contains api then s else ⟨s.entries ++ [(api, payload)]⟩

end Store

end ApiChain
