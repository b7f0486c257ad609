import ApiChain.Config.Basic

/-!
# Configurations as documents

A configuration is one record. Its own fields are typed; any other key may hold any value, as long as it
is one. The settings of the client stand among the other fields, and each must have its very type: a
number is no text here, nor a text a number.
-/

namespace ApiChain

/-! ## Settings -/

namespace Settings

/-- The fields of the settings. -/
inductive Field where
  | timeout
  | userAgent
deriving DecidableEq, Repr

/-- The names of the settings. -/
def fieldSet : Document.FieldSet Field where
  all := [.timeout, .userAgent]
  name
    | .timeout => "timeout"
    | .userAgent => "userAgent"
  ofKey?
    | "timeout" => some .timeout
    | "userAgent" => some .userAgent
    | _ => none

/-- A value of its very type, or no value. -/
def asExact {α : Type} (what : String) (read : Json → Option α) (d : Document) :
    Decoded (Option α) :=
  match d with
  | .scalar s =>
    match s.reading with
    | .nothing => .ok none
    | .value v =>
      match read v with
      | some x => .ok (some x)
      | none => .error (.expected what)
    | _ => .error (.expected what)
  | _ => .error (.expected what)

/-- A whole number of 64 bits. -/
def natural? : Json → Option Nat
  | .number (.int n) => if 0 ≤ n ∧ n < Number.twoPow 64 then some n.toNat else none
  | _ => none

/-- A string. -/
def string? : Json → Option String
  | .string s => some s
  | _ => none

/-- Reads the timeout. -/
def readTimeout : Document → Decoded (Option Nat) := asExact "a whole number" natural?

/-- Reads the user agent. -/
def readUserAgent : Document → Decoded (Option String) := asExact "a string" string?

/-- Reads settings that stand alone. -/
def ofDocument (d : Document) : Decoded Settings := do
  let found ← Document.fields fieldSet 0 d
  let timeout ← Document.withDefault found .timeout none readTimeout
  let userAgent ← Document.withDefault found .userAgent none readUserAgent
  .ok { timeout, userAgent }

/-- The members of written settings. -/
def toMembers (s : Settings) : Members :=
  Definition.optionalMember "timeout" (s.timeout.map Json.ofNat)
    ++ Definition.optionalMember "userAgent" (s.userAgent.map .string)

/-- The written form of settings. -/
def toJson (s : Settings) : Json := .object s.toMembers

end Settings

/-! ## Configurations -/

namespace Config

/-- The fields of a configuration. -/
inductive Field where
  | definitions
  | output
  | delimiter
  | timeout
  | userAgent
deriving DecidableEq, Repr

/-- The names of a configuration's fields. -/
def fieldSet : Document.FieldSet Field where
  all := [.definitions, .output, .delimiter, .timeout, .userAgent]
  name
    | .definitions => "apis"
    | .output => "output"
    | .delimiter => "delimiter"
    | .timeout => "timeout"
    | .userAgent => "userAgent"
  ofKey?
    | "apis" => some .definitions
    | "output" => some .output
    | "delimiter" => some .delimiter
    | "timeout" => some .timeout
    | "userAgent" => some .userAgent
    | _ => none

/-- Whether every value under a key that is no field is one. -/
def othersReadable (members : List (Document × Document)) : Bool :=
  members.all fun (k, d) =>
    match k.text?.bind fieldSet.ofKey? with
    | some _ => true
    | none => d.readable

/-- Reads a configuration. -/
def ofDocument (d : Document) : Decoded Config := do
  let members ← d.asRecord
  let found ← Document.collect fieldSet members
  if othersReadable members then
    let definitions ←
      Document.required fieldSet found .definitions (Document.asListOf Definition.ofDocument)
    let output ← Document.withDefault found .output defaultOutput Document.asText
    let delimiter ←
      Document.withDefault found .delimiter Delimited.defaultDelimiter Document.asCharacter
    let timeout ← Document.withDefault found .timeout none Settings.readTimeout
    let userAgent ← Document.withDefault found .userAgent none Settings.readUserAgent
    .ok { definitions, output, delimiter, settings := { timeout, userAgent } }
  else .error (.expected "a value")

/-- The members of a written configuration. -/
def toMembers (c : Config) : Members :=
  [("apis", .array (c.definitions.map Definition.toJson)), ("output", .string c.output),
   ("delimiter", .string (String.ofList [c.delimiter]))]
    ++ c.settings.toMembers

/-- The written form of a configuration. -/
def toJson (c : Config) : Json := .object c.toMembers

end Config

end ApiChain
