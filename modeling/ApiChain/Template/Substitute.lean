import ApiChain.Template.Placeholder
import ApiChain.Path.Resolve

/-!
# Filling templates

A hole is filled with the text that its path finds in a response. It stays as written if it names
another call or if its path finds nothing, so filling never fails and a later pass can still fill it.
Values are filled string by string; keys and everything that is not a string stay as they are.
-/

namespace ApiChain

namespace Template

/-- The text that fills a hole, if one does. -/
def replacement? (payload : Json) (api : String) (inner : List Char) : Option (List Char) :=
  let p := Placeholder.parseChars inner
  if p.api = api then (payload.resolve p.path).textChars? else none

/-- A piece with its hole filled, or as written. -/
def fillPiece (payload : Json) (api : String) (piece : Piece) : List Char :=
  match piece with
  | .char c => [c]
  | .hole inner => (replacement? payload api inner).getD piece.chars

/-- The text with its holes filled. -/
def fillChars (payload : Json) (api : String) (s : List Char) : List Char :=
  (scan s).flatMap (fillPiece payload api)

/-- The text with its holes for the call filled from the call's response. A text without two opening
braces in a row is not scanned. -/
def fill (payload : Json) (api : String) (text : String) : String :=
  if Text.occursIn ['{', '{'] text.toList then String.ofList (fillChars payload api text.toList)
  else text

mutual

/-- The value with the holes in its strings filled. -/
def fillJson (payload : Json) (api : String) : Json → Json
  | .string s => .string (fill payload api s)
  | .array items => .array (fillItems payload api items)
  | .object members => .object (fillMembers payload api members)
  | .null => .null
  | .bool b => .bool b
  | .number n => .number n

/-- The items with the holes in their strings filled. -/
def fillItems (payload : Json) (api : String) : List Json → List Json
  | [] => []
  | j :: rest => fillJson payload api j :: fillItems payload api rest

/-- The members with the holes in their values filled. -/
def fillMembers (payload : Json) (api : String) : List (String × Json) → List (String × Json)
  | [] => []
  | (k, j) :: rest => (k, fillJson payload api j) :: fillMembers payload api rest

end

end Template

end ApiChain
