import ApiChain.Run

/-!
# Exchanges with the peer

What a run sends and what comes back, as data: an `Exchange` is one request with its sender and its
answer, and a list of exchanges in the order of sending is all that a run leaves to say about its
effects.

* **`Transport.converse`** sends requests up to and including the first that fails;
* **`converse_cases`**: either all requests were answered, or the last exchange alone failed;
* **`Leaves`**: the store, the records, the requests on record and the peer after some exchanges are
  those before them with the exchanges worked in, one after the other;
* **`sendAll_answered`, `sendAll_failed`**: what the sending of a call returns in the two cases, and
  what it leaves.
-/

namespace ApiChain

/-- One request, the definition that sent it and what came back for it. -/
structure Exchange where
  sender : Definition
  request : Request
  answer : Except RequestError Response

namespace Exchange

/-- Whether a response came back. -/
def succeeded (x : Exchange) : Bool := x.answer.isOk

@[simp] theorem not_succeeded_error (d : Definition) (r : Request) (cause : RequestError) :
    (mk d r (.error cause)).succeeded = false := rfl

/-- The body of the response, if one came back. -/
def body? (x : Exchange) : Option Json := x.answer.toOption.map (·.body)

/-- The records that the exchange gives. -/
def records (x : Exchange) : List Record :=
  match x.answer with
  | .ok response => Mapping.records response.data x.sender.mapping
  | .error _ => []

/-- The store after the exchange. -/
def storeInto (s : Store) (x : Exchange) : Store :=
  match x.answer with
  | .ok response => s.insertIfAbsent x.sender.id response.body
  | .error _ => s

end Exchange

/-- The requests on record among some events. -/
def requestsOf (es : List Event) : List Request :=
  es.filterMap fun
    | .sent r => some r
    | .notice _ => none

@[simp] theorem requestsOf_append (es fs : List Event) :
    requestsOf (es ++ fs) = requestsOf es ++ requestsOf fs := List.filterMap_append

theorem requestsOf_notices (ns : List Notice) : requestsOf (ns.map .notice) = [] := by
  simp [requestsOf, List.filterMap_map]

/-! ## Conversations -/

namespace Transport

variable {σ : Type}

/-- The peer after some requests. -/
def peerAfter (t : Transport σ) (rs : List Request) (peer : σ) : σ :=
  rs.foldl (fun peer r => (t.send r peer).2) peer

/-- A request fails or gets a response. -/
theorem send_cases (t : Transport σ) (r : Request) (peer : σ) :
    (∃ cause peer', t.send r peer = (.error cause, peer')) ∨
      ∃ response peer', t.send r peer = (.ok response, peer') := by
  rcases t.send r peer with ⟨cause | response, peer'⟩
  · exact .inl ⟨cause, peer', rfl⟩
  · exact .inr ⟨response, peer', rfl⟩

/-- What the peer answers to some requests, one after the other. -/
def answers (t : Transport σ) : List Request → σ → List (Except RequestError Response)
  | [], _ => []
  | r :: rest, peer => (t.send r peer).1 :: t.answers rest (t.send r peer).2

theorem answers_append (t : Transport σ) (rs rs' : List Request) (peer : σ) :
    t.answers (rs ++ rs') peer = t.answers rs peer ++ t.answers rs' (t.peerAfter rs peer) := by
  induction rs generalizing peer with
  | nil => rfl
  | cons r rest ih =>
    rw [List.cons_append, answers, ih]
    rfl

/-- The exchanges of a call whose requests are sent one after the other, up to and including the first
that fails. -/
def converse (t : Transport σ) (d : Definition) : List Request → σ → List Exchange
  | [], _ => []
  | r :: rest, peer =>
    match t.send r peer with
    | (.error cause, _) => [⟨d, r, .error cause⟩]
    | (.ok response, peer) => ⟨d, r, .ok response⟩ :: t.converse d rest peer

variable {t : Transport σ} {d : Definition} {r : Request} {peer peer' : σ}

theorem converse_cons_error {cause : RequestError} (h : t.send r peer = (.error cause, peer'))
    (rest : List Request) : t.converse d (r :: rest) peer = [⟨d, r, .error cause⟩] := by
  simp [converse, h]

theorem converse_cons_ok {response : Response} (h : t.send r peer = (.ok response, peer'))
    (rest : List Request) :
    t.converse d (r :: rest) peer = ⟨d, r, .ok response⟩ :: t.converse d rest peer' := by
  simp [converse, h]

/-- A conversation ends with all requests answered, or with the first failure. -/
theorem converse_cases (t : Transport σ) (d : Definition) (rs : List Request) (peer : σ) :
    ((t.converse d rs peer).map (·.request) = rs ∧ ∀ x ∈ t.converse d rs peer, x.succeeded) ∨
      ∃ answered r cause, t.converse d rs peer = answered ++ [⟨d, r, .error cause⟩] ∧
        ∀ x ∈ answered, x.succeeded := by
  induction rs generalizing peer with
  | nil => exact .inl ⟨rfl, List.forall_mem_nil _⟩
  | cons r rest ih =>
    rcases t.send_cases r peer with ⟨cause, peer', hsend⟩ | ⟨response, peer', hsend⟩
    · rw [converse_cons_error hsend]
      exact .inr ⟨[], r, cause, rfl, List.forall_mem_nil _⟩
    · rw [converse_cons_ok hsend]
      have hfirst : (Exchange.mk d r (.ok response)).succeeded = true := rfl
      rcases ih peer' with ⟨hall, hok⟩ | ⟨answered, r', cause, heq, hok⟩
      · exact .inl ⟨by rw [List.map_cons, hall], List.forall_mem_cons.mpr ⟨hfirst, hok⟩⟩
      · exact .inr ⟨⟨d, r, .ok response⟩ :: answered, r', cause, by rw [heq, List.cons_append],
          List.forall_mem_cons.mpr ⟨hfirst, hok⟩⟩

theorem converse_requests (t : Transport σ) (d : Definition) (rs : List Request) (peer : σ) :
    (t.converse d rs peer).map (·.request) <+: rs := by
  induction rs generalizing peer with
  | nil => exact List.prefix_refl []
  | cons r rest ih =>
    rcases t.send_cases r peer with ⟨cause, peer', hsend⟩ | ⟨response, peer', hsend⟩
    · rw [converse_cons_error hsend]
      exact List.prefix_append [r] rest
    · rw [converse_cons_ok hsend, List.map_cons, List.cons_prefix_cons]
      exact ⟨rfl, ih peer'⟩

theorem converse_sender (t : Transport σ) (d : Definition) (rs : List Request) (peer : σ) :
    ∀ x ∈ t.converse d rs peer, x.sender = d := by
  induction rs generalizing peer with
  | nil => exact List.forall_mem_nil _
  | cons r rest ih =>
    rcases t.send_cases r peer with ⟨cause, peer', hsend⟩ | ⟨response, peer', hsend⟩
    · simp [converse_cons_error hsend]
    · rw [converse_cons_ok hsend]
      exact List.forall_mem_cons.mpr ⟨rfl, ih peer'⟩

end Transport

/-! ## What exchanges leave -/

namespace Run

variable {σ : Type}

/-- What some exchanges leave of a state: `s'` is `s` with the exchanges worked in. -/
structure Leaves (t : Transport σ) (s : State σ) (xs : List Exchange) (s' : State σ) : Prop where
  store : s'.store = xs.foldl Exchange.storeInto s.store
  records : s'.records = s.records ++ xs.flatMap Exchange.records
  sent : requestsOf s'.events = requestsOf s.events ++ xs.map (·.request)
  peer : s'.peer = t.peerAfter (xs.map (·.request)) s.peer
  answers : t.answers (xs.map (·.request)) s.peer = xs.map (·.answer)

namespace Leaves

variable {t : Transport σ}

theorem observe (s : State σ) (ns : List Notice) :
    Leaves t s [] (s.observe (ns.map .notice)) where
  store := rfl
  records := by simp [State.observe]
  sent := by simp [State.observe, requestsOf_notices]
  peer := rfl
  answers := rfl

theorem refl (s : State σ) : Leaves t s [] s where
  store := rfl
  records := (List.append_nil _).symm
  sent := (List.append_nil _).symm
  peer := rfl
  answers := rfl

theorem trans {s s₁ s₂ : State σ} {xs ys : List Exchange} (h₁ : Leaves t s xs s₁)
    (h₂ : Leaves t s₁ ys s₂) : Leaves t s (xs ++ ys) s₂ where
  store := by rw [h₂.store, h₁.store, List.foldl_append]
  records := by rw [h₂.records, h₁.records, List.flatMap_append, List.append_assoc]
  sent := by rw [h₂.sent, h₁.sent, List.map_append, List.append_assoc]
  peer := by
    rw [h₂.peer, h₁.peer, List.map_append]
    simp only [Transport.peerAfter, List.foldl_append]
  answers := by
    rw [List.map_append, Transport.answers_append, h₁.answers, ← h₁.peer, h₂.answers,
      List.map_append]

/-- A failed request changes neither the store nor the records. -/
theorem failed {s : State σ} {r : Request} {cause : RequestError} {peer : σ}
    (h : t.send r s.peer = (.error cause, peer)) (d : Definition) :
    Leaves t s [⟨d, r, .error cause⟩] { s.sending d r with peer } where
  store := rfl
  records := by simp [Exchange.records, State.sending, State.observe]
  sent := by simp [State.sending, State.observe, requestsOf]
  peer := by simp [Transport.peerAfter, h]
  answers := by simp [Transport.answers, h]

theorem requestsOf_storedEvents (s : State σ) (d : Definition) :
    requestsOf (s.storedEvents d) = [] := by
  unfold State.storedEvents
  split <;> rfl

/-- A response is stored and mapped. -/
theorem answered {s : State σ} {r : Request} {response : Response} {peer : σ}
    (h : t.send r s.peer = (.ok response, peer)) (d : Definition) :
    Leaves t s [⟨d, r, .ok response⟩] (State.accept { s.sending d r with peer } d response) where
  store := rfl
  records := by simp [Exchange.records, State.accept, State.sending, State.observe]
  sent := by
    simp only [State.accept, requestsOf_append, requestsOf_storedEvents, List.append_nil]
    simp [State.sending, State.observe, requestsOf]
  peer := by simp [Transport.peerAfter, State.accept, h]
  answers := by simp [Transport.answers, h]

end Leaves

/-! ## Sending the requests of a call -/

section SendAll

variable {t : Transport σ} {d : Definition} {r : Request} {s : State σ} {peer : σ}
variable (fanOut : Bool) (index produced : Nat) (rest : List Request)

theorem sendAll_cons_error {cause : RequestError} (h : t.send r s.peer = (.error cause, peer)) :
    sendAll t d fanOut index produced (r :: rest) s
      = (.error (.request d.id (if fanOut then some index else none) cause),
          { s.sending d r with peer }) := by
  have hsending : t.send r (s.sending d r).peer = (.error cause, peer) := h
  simp only [sendAll, hsending]

theorem sendAll_cons_ok {response : Response} (h : t.send r s.peer = (.ok response, peer)) :
    sendAll t d fanOut index produced (r :: rest) s
      = sendAll t d fanOut (index + 1)
          (produced + (Mapping.records response.data d.mapping).length) rest
          (State.accept { s.sending d r with peer } d response) := by
  have hsending : t.send r (s.sending d r).peer = (.ok response, peer) := h
  simp only [sendAll, hsending]

end SendAll

/-- The sending of a call leaves what its conversation says. -/
theorem sendAll_leaves (t : Transport σ) (d : Definition) (fanOut : Bool) (rs : List Request) :
    ∀ (index produced : Nat) (s : State σ),
      Leaves t s (t.converse d rs s.peer) (sendAll t d fanOut index produced rs s).2 := by
  induction rs with
  | nil => exact fun _ _ s => .refl s
  | cons r rest ih =>
    intro index produced s
    rcases t.send_cases r s.peer with ⟨cause, peer, hsend⟩ | ⟨response, peer, hsend⟩
    · rw [sendAll_cons_error fanOut index produced rest hsend,
        Transport.converse_cons_error hsend]
      exact .failed hsend d
    · rw [sendAll_cons_ok fanOut index produced rest hsend, Transport.converse_cons_ok hsend]
      exact (Leaves.answered hsend d).trans (ih _ _ _)

/-- Where all requests are answered, the number of records is returned. -/
theorem sendAll_answered (t : Transport σ) (d : Definition) (fanOut : Bool) (rs : List Request) :
    ∀ (index produced : Nat) (s : State σ), (∀ x ∈ t.converse d rs s.peer, x.succeeded) →
      (sendAll t d fanOut index produced rs s).1
        = .ok (produced + ((t.converse d rs s.peer).flatMap Exchange.records).length) := by
  induction rs with
  | nil => exact fun _ _ _ _ => rfl
  | cons r rest ih =>
    intro index produced s hall
    rcases t.send_cases r s.peer with ⟨cause, peer, hsend⟩ | ⟨response, peer, hsend⟩
    · rw [Transport.converse_cons_error hsend] at hall
      exact absurd (hall _ List.mem_cons_self) (by simp)
    · rw [Transport.converse_cons_ok hsend] at hall ⊢
      rw [sendAll_cons_ok fanOut index produced rest hsend,
        ih _ _ _ (fun x hx => hall x (List.mem_cons_of_mem _ hx)), List.flatMap_cons,
        List.length_append, Nat.add_assoc]
      rfl

/-- The failure of a call names the call, the place of the request in a fan-out and the cause. -/
theorem sendAll_failed (t : Transport σ) (d : Definition) (fanOut : Bool) (rs : List Request) :
    ∀ (index produced : Nat) (s : State σ) (answered : List Exchange) (r : Request)
      (cause : RequestError), t.converse d rs s.peer = answered ++ [⟨d, r, .error cause⟩] →
      (sendAll t d fanOut index produced rs s).1
        = .error (.request d.id (if fanOut then some (index + answered.length) else none) cause) := by
  induction rs with
  | nil => simp [Transport.converse]
  | cons r rest ih =>
    intro index produced s answered r' cause' heq
    rcases t.send_cases r s.peer with ⟨cause, peer, hsend⟩ | ⟨response, peer, hsend⟩
    · rw [Transport.converse_cons_error hsend] at heq
      rw [sendAll_cons_error fanOut index produced rest hsend]
      -- the conversation is this one failure, so nothing was answered before it
      cases answered with
      | nil =>
        simp only [List.nil_append, List.cons.injEq, Exchange.mk.injEq, Except.error.injEq] at heq
        simp [heq.1.2.2]
      | cons x more => simp at heq
    · rw [Transport.converse_cons_ok hsend] at heq
      rw [sendAll_cons_ok fanOut index produced rest hsend]
      -- the failure is further on, and this request is the first of those answered before it
      cases answered with
      | nil => simp at heq
      | cons x more =>
        rw [List.cons_append, List.cons.injEq] at heq
        rw [ih _ _ _ more r' cause' heq.2, List.length_cons, Nat.add_right_comm, Nat.add_assoc]

end Run

end ApiChain
