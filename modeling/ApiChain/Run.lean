import ApiChain.Plan
import ApiChain.Failure

/-!
# Running a chain of calls

The definitions run in order. Each is planned against the responses stored so far, its requests are sent
one at a time, the first response is stored under the definition's identifier, and the data of every
response is mapped to records. The first failing request ends the run; what was stored and collected
before it stays.

The peer that answers is a value of any type `σ`, which every request may change; `Transport` sends a
request to it. Everything observed on the way is listed in order as events.
-/

namespace ApiChain

/-- Sends a request to a peer and brings back the answer, or the reason why there is none. -/
structure Transport (σ : Type) where
  send : Request → σ → Except RequestError Response × σ

/-- What is observed while calls run. -/
inductive Event where
  /-- A line was reported. -/
  | notice (n : Notice)
  /-- A request was handed to the transport. -/
  | sent (r : Request)
deriving Repr, DecidableEq

namespace Run

/-- Where a run stands. -/
structure State (σ : Type) where
  /-- The peer that answers. -/
  peer : σ
  /-- The responses stored so far. -/
  store : Store
  /-- The records collected so far. -/
  records : List Record
  /-- What was observed so far. -/
  events : List Event

variable {σ : Type}

namespace State

/-- The state before anything ran. -/
def initial (peer : σ) : State σ := { peer, store := .empty, records := [], events := [] }

/-- The state after some more events. -/
def observe (s : State σ) (es : List Event) : State σ := { s with events := s.events ++ es }

/-- The state when a request is handed to the transport. -/
def sending (s : State σ) (d : Definition) (r : Request) : State σ :=
  s.observe [.notice (.sending r.method r.url d.id), .sent r]

/-- What is reported when a response of the call comes in. -/
def storedEvents (s : State σ) (d : Definition) : List Event :=
  if s.store.contains d.id then [] else [.notice (.stored d.id)]

/-- The state after a response: stored if it is the call's first, its data mapped. -/
def accept (s : State σ) (d : Definition) (response : Response) : State σ :=
  { s with
    store := s.store.insertIfAbsent d.id response.body
    records := s.records ++ Mapping.records response.data d.mapping
    events := s.events ++ s.storedEvents d }

end State

/-- Sends the requests of a call one after the other, the first of them with number `index`. The result
is the number of records they gave, on top of `produced`, or the first failure. -/
def sendAll (t : Transport σ) (d : Definition) (fanOut : Bool) :
    Nat → Nat → List Request → State σ → Except ChainError Nat × State σ
  | _, produced, [], s => (.ok produced, s)
  | index, produced, r :: rest, s =>
    let s := s.sending d r
    match t.send r s.peer with
    | (.error cause, peer) =>
      (.error (.request d.id (if fanOut then some index else none) cause), { s with peer })
    | (.ok response, peer) =>
      let more := (Mapping.records response.data d.mapping).length
      sendAll t d fanOut (index + 1) (produced + more) rest
        (State.accept { s with peer } d response)

/-- Runs one definition. The result is the number of records it gave. -/
def execute (t : Transport σ) (d : Definition) (s : State σ) : Except ChainError Nat × State σ :=
  let plan := Plan.of d s.store
  sendAll t d plan.isFanOut 0 0 plan.requests
    (s.observe ((Plan.notices d s.store).map .notice))

/-- Runs the definitions in order, up to the first failure. -/
def runFrom (t : Transport σ) : List Definition → State σ → Except ChainError Unit × State σ
  | [], s => (.ok (), s)
  | d :: rest, s =>
    match execute t d s with
    | (.error e, s) => (.error e, s)
    | (.ok _, s) => runFrom t rest s

/-- Runs the definitions from an empty store. -/
def run (t : Transport σ) (ds : List Definition) (peer : σ) : Except ChainError Unit × State σ :=
  runFrom t ds (State.initial peer)

end Run

/-! ## Scripted answers -/

/-- A transport that answers from a list, one entry for each request. -/
def Transport.scripted : Transport (List (Except RequestError Response)) where
  send _ answers :=
    match answers with
    | [] => (.error (.network "no scripted response"), [])
    | a :: rest => (a, rest)

end ApiChain
