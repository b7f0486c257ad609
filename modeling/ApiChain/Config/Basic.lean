import ApiChain.Definition.Encoding
import ApiChain.Failure
import ApiChain.Notice
import ApiChain.Table.Delimited

/-!
# Configurations

A configuration lists the definitions of a chain, in the order in which they run, and a few settings:
where the table is written, its delimiter, how long a request may take and the user agent.
`Config.check` finds the first thing that makes a configuration unusable.
-/

namespace ApiChain

/-- The settings of the client that sends the requests. -/
structure Settings where
  /-- The seconds that a request may take; without it a request may take for ever. -/
  timeout : Option Nat
  userAgent : Option String
deriving DecidableEq, Repr

namespace Settings

/-- No settings. -/
def empty : Settings := ⟨none, none⟩

/-- The user agent where none is chosen. -/
def defaultUserAgent : String := "api-harvest/0.2.0"

/-- The user agent to send. -/
def effectiveUserAgent (s : Settings) : String := s.userAgent.getD defaultUserAgent

/-- The time that a request may take, in milliseconds. -/
def timeoutMilliseconds (s : Settings) : Option Nat := s.timeout.map (· * 1000)

end Settings

/-- A chain of calls with its settings. -/
structure Config where
  definitions : List Definition
  /-- Where the table is written. -/
  output : String
  delimiter : Char
  settings : Settings
deriving DecidableEq, Repr

namespace Config

/-- The output where none is chosen. -/
def defaultOutput : String := "output.csv"

/-- A configuration with default settings. -/
def ofDefinitions (ds : List Definition) : Config where
  definitions := ds
  output := defaultOutput
  delimiter := Delimited.defaultDelimiter
  settings := Settings.empty

/-! ## Checking -/

/-- What a definition lacks, at a position counted from zero: an identifier, or else a host that is
needed because its URL is not absolute. -/
def incomplete? (position : Nat) (d : Definition) : Option ConfigError :=
  if Text.allBlank d.id then
    some (.missingField ("#" ++ toString (position + 1)) "id")
  else if !d.hasAbsoluteUrl && Text.allBlank d.host then
    some (.missingField d.id "host")
  else none

/-- What is reported about a definition after those with the identifiers `seen`. -/
def dependencyNotices (seen : List String) (d : Definition) : List Notice :=
  match d.previous with
  | some dependency =>
    if seen.contains dependency then [] else [.unknownDependency d.id dependency]
  | none => []

/-- Checks the definitions from a position on, after those with the identifiers `seen`. The answer is
what is reported on the way and the first defect. -/
def checkDefinitions : Nat → List String → List Definition → List Notice × Option ConfigError
  | _, _, [] => ([], none)
  | position, seen, d :: rest =>
    match incomplete? position d with
    | some e => ([], some e)
    | none =>
      let here := dependencyNotices seen d
      if seen.contains d.id then (here, some (.duplicateId d.id))
      else
        let (later, defect) := checkDefinitions (position + 1) (d.id :: seen) rest
        (here ++ later, defect)

/-- How a message shows a delimiter that cannot be used. -/
def shownDelimiter (c : Char) : String :=
  let inner := if c = '\n' then ['\\', 'n'] else if c = '\r' then ['\\', 'r'] else [c]
  String.ofList ('\'' :: (inner ++ ['\'']))

/-- A delimiter must not be a character that the table's own format uses. -/
def isUsableDelimiter (c : Char) : Bool := c != '"' && c != '\n' && c != '\r'

/-- Checks a configuration. The answer is what is reported on the way and the first defect. A dependency
on a call that no earlier definition makes is reported and is no defect. -/
def check (c : Config) : List Notice × Option ConfigError :=
  if c.definitions.isEmpty then ([], some .noDefinitions)
  else if c.settings.timeout = some 0 then
    ([], some (.invalidSetting "timeout" "must be greater than 0"))
  else if !isUsableDelimiter c.delimiter then
    ([], some (.invalidSetting "delimiter"
      (shownDelimiter c.delimiter ++ " cannot be used as a delimiter")))
  else checkDefinitions 0 [] c.definitions

end Config

end ApiChain
