import ApiChain.Proofs.Run.Turn

/-!
# What a run means

`Account` is the meaning of a run, said of its turns without the loops that produce them: which
requests are sent, to which answers, and what the outcome and the records are. Its main point is
`planned`. A definition's plan is fixed against the store that the definitions before it leave, so
what comes back during a fan-out does not change the rest of the fan-out.
-/

namespace ApiChain.Run

variable {σ : Type}

/-- The turns account for the run of the definitions from the state. -/
structure Account (t : Transport σ) (ds : List Definition) (s : State σ) (turns : List Turn) :
    Prop where
  /-- The definitions take turns in their order, and none is skipped. -/
  inOrder : turns.map (·.definition) <+: ds
  /-- Each is planned against the store as it stands when those before it have run. -/
  planned : ∀ (i : Nat) (h : i < turns.length),
    turns[i].store = (runFrom t (ds.take i) s).2.store
  /-- The requests of a turn are the first ones of its plan, in the order of the plan. -/
  requests : ∀ turn ∈ turns, turn.requests <+: turn.plan.requests
  /-- A turn's exchanges are its definition's. -/
  senders : ∀ turn ∈ turns, ∀ x ∈ turn.exchanges, x.sender = turn.definition
  /-- The answers are the peer's answers to the requests, one after the other. -/
  answers : t.answers (turns.flatMap Turn.requests) s.peer
    = (turns.flatMap Turn.exchanges).map (·.answer)
  /-- Only the last request of all may have failed. -/
  failureIsLast : ∀ before x after, turns.flatMap Turn.exchanges = before ++ x :: after →
    x.succeeded = false → after = []
  /-- Without a failure every definition has its turn and every planned request is sent. -/
  exhaustive : (∀ x ∈ turns.flatMap Turn.exchanges, x.succeeded) →
    turns.map (·.definition) = ds ∧ ∀ turn ∈ turns, turn.requests = turn.plan.requests
  /-- A turn that another one follows is complete. -/
  complete : ∀ turn ∈ turns.dropLast, turn.Complete
  /-- The peer has seen the requests of the turns, and nothing else. -/
  peer : (runFrom t ds s).2.peer = t.peerAfter (turns.flatMap Turn.requests) s.peer
  /-- The requests on record are those of the turns. -/
  sent : requestsOf (runFrom t ds s).2.events
    = requestsOf s.events ++ turns.flatMap Turn.requests
  /-- The records are the ones before the run and those of the answered requests. -/
  records : (runFrom t ds s).2.records = s.records ++ turns.flatMap Turn.records
  /-- The run succeeds if and only if every request of every plan was sent and answered. -/
  succeeds : (runFrom t ds s).1 = .ok () ↔
    turns.map (·.definition) = ds ∧ ∀ turn ∈ turns, turn.Complete

/-! ## From turns to the exchanges of a run -/

theorem flatMap_requests (ts : List Turn) :
    ts.flatMap Turn.requests = (ts.flatMap Turn.exchanges).map (·.request) := by
  rw [List.map_flatMap]
  rfl

theorem flatMap_records (ts : List Turn) :
    ts.flatMap Turn.records = (ts.flatMap Turn.exchanges).flatMap Exchange.records := by
  rw [List.flatMap_assoc]
  rfl

theorem turns_requests {t : Transport σ} {ds : List Definition} {s : State σ} {x : Turn}
    (h : x ∈ turns t ds s) : x.requests <+: x.plan.requests := by
  obtain ⟨d, s', rfl⟩ := exists_turn_of_mem h
  exact Transport.converse_requests t d _ _

theorem turns_senders {t : Transport σ} {ds : List Definition} {s : State σ} {x : Turn}
    (h : x ∈ turns t ds s) : ∀ y ∈ x.exchanges, y.sender = x.definition := by
  obtain ⟨d, s', rfl⟩ := exists_turn_of_mem h
  exact turn_senders t d s'

theorem succeeded_of_complete {ts : List Turn} (h : ∀ turn ∈ ts, turn.Complete) :
    ∀ x ∈ ts.flatMap Turn.exchanges, x.succeeded := by
  intro x hx
  obtain ⟨turn, hturn, hmem⟩ := List.mem_flatMap.mp hx
  exact (h turn hturn).succeeded x hmem

/-- Where a run fails, all exchanges but the last one succeeded. -/
theorem exchanges_of_failed {earlier : List Turn} {last : Turn} {answered : List Exchange}
    {x : Exchange} (hlast : last.exchanges = answered ++ [x])
    (hearlier : ∀ turn ∈ earlier, turn.Complete) (hanswered : ∀ y ∈ answered, y.succeeded) :
    (earlier ++ [last]).flatMap Turn.exchanges
        = earlier.flatMap Turn.exchanges ++ answered ++ [x] ∧
      ∀ y ∈ earlier.flatMap Turn.exchanges ++ answered, y.succeeded := by
  constructor
  · rw [List.flatMap_append, List.flatMap_singleton, hlast, List.append_assoc]
  · intro y hy
    rcases List.mem_append.mp hy with hy | hy
    · exact succeeded_of_complete hearlier y hy
    · exact hanswered y hy

/-- In a row of successes that ends with anything, a failure can only be the last. -/
theorem eq_nil_of_failed_among {before after xs : List Exchange} {x y : Exchange}
    (hxs : ∀ z ∈ xs, z.succeeded) (heq : xs ++ [y] = before ++ x :: after)
    (hx : x.succeeded = false) : after = [] := by
  -- the failure stands behind the successes, or before the end of them, where it would be one
  rcases List.append_eq_append_iff.mp heq with ⟨more, hbefore, hafter⟩ | ⟨more, hxs', hafter⟩
  · cases more with
    | nil =>
      rw [List.nil_append, List.cons.injEq] at hafter
      exact hafter.2.symm
    | cons z more => simp at hafter
  · cases more with
    | nil =>
      rw [List.nil_append, List.cons.injEq] at hafter
      exact hafter.2
    | cons z more =>
      rw [List.cons_append, List.cons.injEq] at hafter
      have hmem : x ∈ xs := by rw [hxs', hafter.1]; simp
      rw [hxs x hmem] at hx
      exact absurd hx (by simp)

section Fields

variable {t : Transport σ} {ds : List Definition} {s : State σ}

theorem turns_failureIsLast {before after : List Exchange} {x : Exchange}
    (heq : (turns t ds s).flatMap Turn.exchanges = before ++ x :: after)
    (hx : x.succeeded = false) : after = [] := by
  rcases runFrom_cases t ds s with ⟨-, -, hall⟩ | ⟨earlier, last, answered, r, cause, hturns, -,
    hlast, hearlier, hanswered⟩
  · have hmem : x ∈ (turns t ds s).flatMap Turn.exchanges := by rw [heq]; simp
    rw [succeeded_of_complete hall x hmem] at hx
    exact absurd hx (by simp)
  · obtain ⟨hsplit, hok⟩ := exchanges_of_failed hlast hearlier hanswered
    rw [hturns, hsplit] at heq
    exact eq_nil_of_failed_among hok heq hx

theorem turns_exhaustive (hok : ∀ x ∈ (turns t ds s).flatMap Turn.exchanges, x.succeeded) :
    (turns t ds s).map (·.definition) = ds ∧
      ∀ turn ∈ turns t ds s, turn.requests = turn.plan.requests := by
  rcases runFrom_cases t ds s with ⟨-, hdefs, hall⟩ | ⟨earlier, last, answered, r, cause, hturns,
    -, hlast, -, -⟩
  · exact ⟨hdefs, fun turn hturn => (hall turn hturn).requests⟩
  · have hfailed := hok ⟨last.definition, r, .error cause⟩ (by rw [hturns]; simp [hlast])
    exact absurd hfailed (by simp)

theorem turns_complete : ∀ turn ∈ (turns t ds s).dropLast, turn.Complete := by
  intro turn hturn
  rcases runFrom_cases t ds s with ⟨-, -, hall⟩ | ⟨earlier, last, answered, r, cause, hturns, -, -,
    hearlier, -⟩
  · exact hall turn ((List.dropLast_sublist _).subset hturn)
  · rw [hturns, List.dropLast_concat] at hturn
    exact hearlier turn hturn

theorem runFrom_ok_iff : (runFrom t ds s).1 = .ok () ↔
    (turns t ds s).map (·.definition) = ds ∧ ∀ turn ∈ turns t ds s, turn.Complete := by
  rcases runFrom_cases t ds s with ⟨hok, hdefs, hall⟩ | ⟨earlier, last, answered, r, cause, hturns,
    hfail, hlast, -, -⟩
  · exact ⟨fun _ => ⟨hdefs, hall⟩, fun _ => hok⟩
  · constructor
    · intro hok
      exact absurd (hfail.symm.trans hok) (by simp)
    · rintro ⟨-, hall⟩
      have hfailed := (hall last (by rw [hturns]; simp)).succeeded
        ⟨last.definition, r, .error cause⟩ (by rw [hlast]; simp)
      exact absurd hfailed (by simp)

end Fields

/-- What a definition returns with success is the number of records it adds. -/
theorem execute_count {t : Transport σ} {d : Definition} {s s' : State σ} {n : Nat}
    (h : execute t d s = (.ok n, s')) :
    ∃ added, s'.records = s.records ++ added ∧ added.length = n := by
  rcases execute_cases t d s with ⟨s'', hrun, -, hleaves⟩ | ⟨_, _, _, _, hrun, -, -, -⟩
  · rw [h, Prod.mk.injEq, Except.ok.injEq] at hrun
    obtain ⟨rfl, rfl⟩ := hrun
    exact ⟨_, hleaves.records, rfl⟩
  · rw [h, Prod.mk.injEq] at hrun
    exact absurd hrun.1 (by simp)

/-- **The meaning of a run.** For every transport, list of definitions and starting state, there are
turns that account for the run; and a definition that is executed with success returns the number of
records that it adds. -/
theorem runFrom_account (t : Transport σ) (ds : List Definition) (s : State σ) :
    (∃ turns : List Turn, Account t ds s turns) ∧
      ∀ (d : Definition) (s s' : State σ) (n : Nat), execute t d s = (.ok n, s') →
        ∃ added, s'.records = s.records ++ added ∧ added.length = n := by
  have hleaves := runFrom_leaves t ds s
  refine ⟨⟨turns t ds s, ?_⟩, fun _ _ _ _ hrun => execute_count hrun⟩
  exact
    { inOrder := turns_inOrder t ds s
      planned := turns_store t ds s
      requests := fun turn hturn => turns_requests hturn
      senders := fun turn hturn => turns_senders hturn
      answers := by rw [flatMap_requests]; exact hleaves.answers
      failureIsLast := fun _ _ _ heq hx => turns_failureIsLast heq hx
      exhaustive := turns_exhaustive
      complete := turns_complete
      peer := by rw [flatMap_requests]; exact hleaves.peer
      sent := by rw [flatMap_requests]; exact hleaves.sent
      records := by rw [flatMap_records]; exact hleaves.records
      succeeds := runFrom_ok_iff }

end ApiChain.Run
