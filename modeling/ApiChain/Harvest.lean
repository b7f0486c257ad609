import ApiChain.Http.Client

/-!
# Harvests

A harvest sets up a client with the settings of a configuration and runs the definitions over it.
-/

namespace ApiChain

/-- Runs a configuration over a peer. The answer is the outcome and where the run stood at its end. -/
def harvest {σ : Type} (peer : Http.Peer σ) (c : Config) (s : σ) :
    Except ChainError Unit × Run.State σ :=
  match Http.Client.ofSettings c.settings with
  | .error e => (.error (.client e), Run.State.initial s)
  | .ok client => Run.run (client.transport peer) c.definitions s

/-- The table of a finished run. -/
def Config.table (c : Config) (records : List Record) : String :=
  Delimited.ofRecords c.delimiter records

end ApiChain
