/-!
# Failures

Why a request, a configuration or a whole run fails. Each kind is a type of causes with one function
for the wording.
-/

namespace ApiChain

/-! ## Requests -/

/-- Why a request failed. -/
inductive RequestError where
  /-- The request did not reach a peer, or the answer did not come back whole. -/
  | network (detail : String)
  /-- The time allowed for the request ran out. -/
  | timeout
  /-- The URL cannot be read. -/
  | invalidUrl (detail : String)
  /-- The request cannot be built: a header or the host is not one that can be sent. -/
  | build (detail : String)
  /-- The URL has a scheme other than `http` and `https`. -/
  | unsupportedProtocol (scheme : String)
  /-- The answer's status is not one of success. -/
  | status (code : Nat) (body : String)
deriving DecidableEq, Repr

namespace RequestError

/-- How many characters of a body an error keeps. -/
def maxExcerpt : Nat := 512

/-- The error for a status that is not one of success; a longer body is cut and marked. -/
def ofStatus (code : Nat) (body : String) : RequestError :=
  let cs := body.toList
  if cs.length ≤ maxExcerpt then .status code body
  else .status code (String.ofList (cs.take maxExcerpt ++ ['.', '.', '.']))

/-- The wording of the error. -/
def message : RequestError → String
  | .network detail => "Network error: " ++ detail
  | .timeout => "Request timed out"
  | .invalidUrl detail => "Invalid URL: " ++ detail
  | .build detail => "Request build error: " ++ detail
  | .unsupportedProtocol scheme => "Unsupported protocol: " ++ scheme
  | .status code body =>
    if body.isEmpty then "HTTP status " ++ toString code
    else "HTTP status " ++ toString code ++ ": " ++ body

end RequestError

/-! ## Configurations -/

/-- Why a configuration is refused, before any request is sent. -/
inductive ConfigError where
  /-- There is no such file. -/
  | fileNotFound (path : String)
  /-- The file cannot be read. -/
  | unreadable (detail : String)
  /-- The text is not a configuration. -/
  | malformed (detail : String)
  /-- There are no definitions. -/
  | noDefinitions
  /-- A definition lacks a field it needs; `api` is its identifier or its position. -/
  | missingField (api field : String)
  /-- Two definitions have one identifier. -/
  | duplicateId (id : String)
  /-- A setting has a value that cannot be used. -/
  | invalidSetting (setting reason : String)
deriving DecidableEq, Repr

namespace ConfigError

/-- The wording of the error. -/
def message : ConfigError → String
  | .fileNotFound path => "Configuration file not found: " ++ path
  | .unreadable detail => "Failed to read configuration: " ++ detail
  | .malformed detail => "Invalid configuration format: " ++ detail
  | .noDefinitions => "Configuration defines no APIs"
  | .missingField api field => "API '" ++ api ++ "' is missing required field '" ++ field ++ "'"
  | .duplicateId id => "API id '" ++ id ++ "' is defined more than once"
  | .invalidSetting setting reason => "Invalid setting '" ++ setting ++ "': " ++ reason

end ConfigError

/-! ## Runs -/

/-- Why a run failed. -/
inductive ChainError where
  /-- The configuration was refused. -/
  | config (cause : ConfigError)
  /-- A request of the call failed; `iteration` is its place in a fan-out. -/
  | request (api : String) (iteration : Option Nat) (cause : RequestError)
  /-- The client could not be set up. -/
  | client (cause : RequestError)
  /-- The output could not be written. -/
  | output (detail : String)
deriving DecidableEq, Repr

namespace ChainError

/-- The identifier of the call that failed, if a request did. -/
def api? : ChainError → Option String
  | .request api _ _ => some api
  | _ => none

/-- The wording of the error. -/
def message : ChainError → String
  | .config cause => cause.message
  | .request api (some index) cause =>
    "API '" ++ api ++ "' failed on fan-out element " ++ toString index ++ ": " ++ cause.message
  | .request api none cause => "API '" ++ api ++ "' failed: " ++ cause.message
  | .client cause => "Failed to initialise HTTP client: " ++ cause.message
  | .output detail => "Failed to write output: " ++ detail

/-- The wording of the error that this one was made from, if there is one. -/
def causeMessage? : ChainError → Option String
  | .config cause => some cause.message
  | .request _ _ cause => some cause.message
  | .client cause => some cause.message
  | .output _ => none

end ChainError

end ApiChain
