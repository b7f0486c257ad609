import ApiChain.Http.Incoming
import ApiChain.Http.Outgoing
import ApiChain.Run

/-!
# Clients

A client sends requests to a peer and reads the answers. It is set up once, with the settings of a
configuration; a user agent that cannot be sent keeps it from being set up at all.
-/

namespace ApiChain.Http

/-- Whoever answers requests, with a state `σ` that every request may change. The time allowed is in
milliseconds. -/
structure Peer (σ : Type) where
  exchange : Option Nat → Outgoing → σ → Except RequestError Incoming × σ

/-- A peer that no request reaches. -/
def Peer.unreachable : Peer Unit where
  exchange _ _ s := (.error (.network "the peer cannot be reached"), s)

/-- A client that is set up. -/
structure Client where
  userAgent : String
  /-- The time allowed for a request, in milliseconds. -/
  timeout : Option Nat
deriving DecidableEq, Repr

namespace Client

/-- The client with the given settings. -/
def ofSettings (s : Settings) : Except RequestError Client :=
  if Header.isValue s.effectiveUserAgent then
    .ok { userAgent := s.effectiveUserAgent, timeout := s.timeoutMilliseconds }
  else .error (.build Header.Defect.value.message)

variable {σ : Type}

/-- Sends a request to a peer. -/
def send (c : Client) (peer : Peer σ) (r : Request) (s : σ) : Except RequestError Response × σ :=
  match Outgoing.ofRequest c.userAgent r with
  | .error e => (.error e, s)
  | .ok o =>
    let (answer, s) := peer.exchange c.timeout o s
    (answer.bind Incoming.toResponse, s)

/-- The transport of the client. -/
def transport (c : Client) (peer : Peer σ) : Transport σ where
  send := c.send peer

end Client

end ApiChain.Http
