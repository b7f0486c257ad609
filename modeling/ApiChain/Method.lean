import ApiChain.Text.Blank
import ApiChain.Text.Case

/-!
# Request methods

The seven methods a call can use. They are read without regard to case and to blanks around them, and
written in upper case.
-/

namespace ApiChain

/-- A request method. -/
inductive Method where
  | get
  | post
  | put
  | delete
  | patch
  | options
  | head
deriving DecidableEq, Repr

namespace Method

/-- The name of a method, in upper case. -/
def name : Method → String
  | .get => "GET"
  | .post => "POST"
  | .put => "PUT"
  | .delete => "DELETE"
  | .patch => "PATCH"
  | .options => "OPTIONS"
  | .head => "HEAD"

/-- The methods, in the order in which a message lists them. -/
def all : List Method := [.get, .post, .put, .delete, .patch, .options, .head]

/-- The method that a text names. -/
def parse? (s : String) : Option Method :=
  let upper := Text.keywordUpper (Text.trim s.toList)
  all.find? fun m => m.name.toList == upper

/-- The message for a text that names no method. -/
def unknownMessage (given : String) : String :=
  "unknown HTTP method '" ++ given ++ "', expected one of: " ++ ", ".intercalate (all.map name)

/-- A method is read back from its name. -/
theorem parse?_name (m : Method) : parse? m.name = some m := by
  cases m <;> decide

end Method

end ApiChain
