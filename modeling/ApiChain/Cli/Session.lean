import ApiChain.Cli.Arguments
import ApiChain.Config.Load
import ApiChain.Harvest

/-!
# A session of the program

A session loads a configuration, harvests it and hands the table over, to be printed or written to a
file. A failure before that leaves nothing to hand over. What is reported is a list of notices, of
which the options choose the levels that are shown.
-/

namespace ApiChain.Cli

/-- Where the table goes. -/
inductive Destination where
  | stdout
  | file (path : String)
deriving DecidableEq, Repr

/-- A finished table on its way. -/
structure Delivery where
  destination : Destination
  table : String
  /-- How many records the table holds. -/
  count : Nat
deriving DecidableEq, Repr

/-- The exit code of a session that ended well. -/
def successCode : Nat := 0

/-- The exit code of a refused command line. -/
def usageCode : Nat := 2

/-- The exit code for a failure. -/
def exitCode : ChainError → Nat
  | .config _ => 2
  | _ => 1

/-- How a session went up to the point where the table is handed over. -/
structure Session (σ : Type) where
  notices : List Notice
  result : Except ChainError Delivery
  peer : σ

/-- Where the options and the configuration send the table. -/
def destination (o : Options) (c : Config) : Destination :=
  if o.stdout then .stdout else .file (o.output.getD c.output)

/-- The notices among events. -/
def noticesOf (es : List Event) : List Notice :=
  es.filterMap fun
    | .notice n => some n
    | .sent _ => none

/-- What is reported about records that a failed run leaves behind; a client that could not be set
up ran nothing. -/
def discardNotices {σ : Type} (s : Run.State σ) : ChainError → List Notice
  | .client _ => []
  | _ => [.discarding s.records.length]

namespace Session

variable {σ : Type}

/-- The session that ends with an error. -/
def failing (notices : List Notice) (e : ChainError) (peer : σ) : Session σ :=
  { notices := notices ++ [.failed e.message], result := .error e, peer }

/-- The session for the options, the configuration file having been read with the given outcome. -/
def of (o : Options) (file : Except Files.Error String) (peer : Http.Peer σ) (s : σ) : Session σ :=
  match Config.load o.config file with
  | (notices, .error e) => failing notices (.config e) s
  | (notices, .ok c) =>
    let notices := notices ++ [.definitionsLoaded c.definitions.length o.config]
    match harvest peer c s with
    | (.error e, run) =>
      failing (notices ++ noticesOf run.events ++ discardNotices run e) e run.peer
    | (.ok (), run) =>
      { notices := notices ++ noticesOf run.events
        result := .ok {
          destination := destination o c, table := c.table run.records, count := run.records.length }
        peer := run.peer }

end Session

/-! ## Handing over -/

/-- How a session ended. -/
structure Ending where
  notices : List Notice
  code : Nat
deriving DecidableEq, Repr

/-- The end of a session whose table was printed or written with the given outcome. -/
def Delivery.ending (d : Delivery) (written : Except String Unit) : Ending :=
  match written, d.destination with
  | .ok (), .stdout => ⟨[], successCode⟩
  | .ok (), .file path => ⟨[.written d.count path], successCode⟩
  | .error detail, .stdout =>
    let e := ChainError.output detail
    ⟨[.failed e.message], exitCode e⟩
  | .error detail, .file path =>
    let e := ChainError.output (path ++ ": " ++ detail)
    ⟨[.failed e.message], exitCode e⟩

/-! ## What is shown -/

/-- The least level that the options show. -/
def Options.level (o : Options) : Level :=
  if o.quiet then .warn else if o.verbosity = 0 then .info else .debug

/-- Whether the options show a notice. -/
def Options.shows (o : Options) (n : Notice) : Bool := decide (o.level.rank ≤ n.level.rank)

/-- The notices that the options show. -/
def Options.shown (o : Options) (ns : List Notice) : List Notice := ns.filter o.shows

end ApiChain.Cli
