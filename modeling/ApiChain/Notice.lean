import ApiChain.Method

/-!
# Notices

What a run reports while it goes on: one constructor for each kind of line, with the level at which it
is shown and its wording.
-/

namespace ApiChain

/-- How important a notice is. -/
inductive Level where
  | debug
  | info
  | warn
  | error
deriving DecidableEq, Repr

namespace Level

/-- The name of a level. -/
def name : Level → String
  | .debug => "DEBUG"
  | .info => "INFO"
  | .warn => "WARN"
  | .error => "ERROR"

/-- Levels by importance. -/
def rank : Level → Nat
  | .debug => 0
  | .info => 1
  | .warn => 2
  | .error => 3

end Level

/-- A line that a run reports. -/
inductive Notice where
  /-- A configuration was read from a file. -/
  | configurationRead (path : String)
  /-- A definition depends on a call that no earlier definition makes. -/
  | unknownDependency (api dependency : String)
  /-- A call depends on a response that is not stored. -/
  | nothingStored (dependency api : String)
  /-- A call is made once for each element of a response. -/
  | fanningOut (api : String) (count : Nat) (dependency : String)
  /-- A request is about to be sent. -/
  | sending (method : Method) (url api : String)
  /-- A response was stored. -/
  | stored (api : String)
  /-- The definitions of a configuration are about to run. -/
  | definitionsLoaded (count : Nat) (path : String)
  /-- The output was written. -/
  | written (count : Nat) (path : String)
  /-- The records of a failed run are dropped. -/
  | discarding (count : Nat)
  /-- The program failed. -/
  | failed (message : String)
deriving DecidableEq, Repr

namespace Notice

/-- The level of a notice. -/
def level : Notice → Level
  | .configurationRead _ => .debug
  | .unknownDependency _ _ => .warn
  | .nothingStored _ _ => .warn
  | .fanningOut _ _ _ => .info
  | .sending _ _ _ => .debug
  | .stored _ => .debug
  | .definitionsLoaded _ _ => .info
  | .written _ _ => .info
  | .discarding _ => .warn
  | .failed _ => .error

/-- The wording of a notice. -/
def message : Notice → String
  | .configurationRead path => "Loaded configuration from " ++ path
  | .unknownDependency api dependency =>
    "API '" ++ api ++ "' depends on '" ++ dependency
      ++ "', which is not defined before it; it will run without the dependency"
  | .nothingStored dependency api =>
    "No stored result for '" ++ dependency ++ "' (dependency of '" ++ api
      ++ "'); sending the request without substitution"
  | .fanningOut api count dependency =>
    "Fanning out '" ++ api ++ "' over " ++ toString count ++ " elements of '" ++ dependency ++ "'"
  | .sending method url api => method.name ++ " " ++ url ++ " (" ++ api ++ ")"
  | .stored api => "Stored result of '" ++ api ++ "'"
  | .definitionsLoaded count path =>
    "Loaded " ++ toString count ++ " API definitions from " ++ path
  | .written count path => "Wrote " ++ toString count ++ " records to " ++ path
  | .discarding count =>
    "Discarding " ++ toString count ++ " records collected before the failure"
  | .failed message => message

/-- The line of a notice: its level and its wording. -/
def line (n : Notice) : String := n.level.name ++ " " ++ n.message

end Notice

end ApiChain
