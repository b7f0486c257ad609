import ApiChain.Proofs.Run.Exchange

/-!
# The turns of a run

A run is a row of turns, one for each definition that is reached. A `Turn` keeps the store against
which its definition was planned and the exchanges that followed.

* **`execute_cases`** says all that one definition can do: its turn is complete, or its last request
  failed;
* **`runFrom_cases`** says the same of a whole run;
* **`runFrom_leaves`**: what a run leaves is what its exchanges leave;
* **`turns_store`**: a definition is planned against the store that the definitions before it leave.
-/

namespace ApiChain

/-- What a definition does in a run. -/
structure Turn where
  definition : Definition
  /-- The store against which the definition is planned. -/
  store : Store
  /-- Its requests with their answers, in the order of sending. -/
  exchanges : List Exchange

namespace Turn

/-- The plan of the turn. -/
def plan (turn : Turn) : Plan := Plan.of turn.definition turn.store

/-- The requests that were sent. -/
def requests (turn : Turn) : List Request := turn.exchanges.map (·.request)

/-- The records that the turn gives. -/
def records (turn : Turn) : List Record := turn.exchanges.flatMap Exchange.records

/-- Every request of the plan was sent and answered. -/
structure Complete (turn : Turn) : Prop where
  requests : turn.requests = turn.plan.requests
  succeeded : ∀ x ∈ turn.exchanges, x.succeeded

end Turn

namespace Run

variable {σ : Type}

/-- The turn of a definition from a state. -/
def turn (t : Transport σ) (d : Definition) (s : State σ) : Turn where
  definition := d
  store := s.store
  exchanges := t.converse d (Plan.of d s.store).requests s.peer

/-- The turns of a run, up to and including the one that fails. -/
def turns (t : Transport σ) : List Definition → State σ → List Turn
  | [], _ => []
  | d :: rest, s =>
    turn t d s ::
      match execute t d s with
      | (.error _, _) => []
      | (.ok _, s) => turns t rest s

/-- The exchanges of a run, in the order of sending. -/
def exchanges (t : Transport σ) (ds : List Definition) (s : State σ) : List Exchange :=
  (turns t ds s).flatMap Turn.exchanges

/-! ## One definition -/

/-- The error of a definition whose request fails after some were answered. -/
def failureOf (turn : Turn) (answered : List Exchange) (cause : RequestError) : ChainError :=
  .request turn.definition.id (if turn.plan.isFanOut then some answered.length else none) cause

theorem turn_senders (t : Transport σ) (d : Definition) (s : State σ) :
    ∀ x ∈ (turn t d s).exchanges, x.sender = d :=
  Transport.converse_sender t d _ _

theorem execute_leaves (t : Transport σ) (d : Definition) (s : State σ) :
    Leaves t s (turn t d s).exchanges (execute t d s).2 := by
  have hplanned := Leaves.observe (t := t) s (Plan.notices d s.store)
  exact hplanned.trans (sendAll_leaves t d _ _ _ _ _)

/-- A definition has all its requests answered, and returns the number of its records, or it stops at
the first request that fails. -/
theorem execute_cases (t : Transport σ) (d : Definition) (s : State σ) :
    (∃ s', execute t d s = (.ok (turn t d s).records.length, s') ∧ (turn t d s).Complete ∧
        Leaves t s (turn t d s).exchanges s') ∨
      ∃ s' answered r cause, execute t d s = (.error (failureOf (turn t d s) answered cause), s') ∧
        (turn t d s).exchanges = answered ++ [⟨d, r, .error cause⟩] ∧
        (∀ x ∈ answered, x.succeeded) ∧ Leaves t s (turn t d s).exchanges s' := by
  have hleaves := execute_leaves t d s
  rcases Transport.converse_cases t d (Plan.of d s.store).requests s.peer with
    ⟨hrequests, hall⟩ | ⟨answered, r, cause, heq, hanswered⟩
  · left
    have hcount := sendAll_answered t d (Plan.of d s.store).isFanOut (Plan.of d s.store).requests
      0 0 (s.observe ((Plan.notices d s.store).map .notice)) hall
    rw [Nat.zero_add] at hcount
    exact ⟨(execute t d s).2, Prod.ext hcount rfl, ⟨hrequests, hall⟩, hleaves⟩
  · right
    have hfailed := sendAll_failed t d (Plan.of d s.store).isFanOut (Plan.of d s.store).requests
      0 0 (s.observe ((Plan.notices d s.store).map .notice)) answered r cause heq
    rw [Nat.zero_add] at hfailed
    exact ⟨(execute t d s).2, answered, r, cause, Prod.ext hfailed rfl, heq, hanswered, hleaves⟩

/-! ## Whole runs -/

section Cons

variable {t : Transport σ} {d : Definition} {s s' : State σ} (rest : List Definition)

theorem runFrom_cons_ok {n : Nat} (h : execute t d s = (.ok n, s')) :
    runFrom t (d :: rest) s = runFrom t rest s' := by
  simp only [runFrom, h]

theorem runFrom_cons_error {e : ChainError} (h : execute t d s = (.error e, s')) :
    runFrom t (d :: rest) s = (.error e, s') := by
  simp only [runFrom, h]

theorem turns_cons_ok {n : Nat} (h : execute t d s = (.ok n, s')) :
    turns t (d :: rest) s = turn t d s :: turns t rest s' := by
  simp only [turns, h]

theorem turns_cons_error {e : ChainError} (h : execute t d s = (.error e, s')) :
    turns t (d :: rest) s = [turn t d s] := by
  simp only [turns, h]

end Cons

/-- A run succeeds with all turns complete, or it fails in its last turn, at that turn's last
request. -/
theorem runFrom_cases (t : Transport σ) (ds : List Definition) (s : State σ) :
    ((runFrom t ds s).1 = .ok () ∧ (turns t ds s).map (·.definition) = ds ∧
        ∀ turn ∈ turns t ds s, turn.Complete) ∨
      ∃ earlier last answered r cause, turns t ds s = earlier ++ [last] ∧
        (runFrom t ds s).1 = .error (failureOf last answered cause) ∧
        last.exchanges = answered ++ [⟨last.definition, r, .error cause⟩] ∧
        (∀ turn ∈ earlier, turn.Complete) ∧ ∀ x ∈ answered, x.succeeded := by
  induction ds generalizing s with
  | nil => exact .inl ⟨rfl, rfl, List.forall_mem_nil _⟩
  | cons d rest ih =>
    rcases execute_cases t d s with
      ⟨s', hrun, hcomplete, -⟩ | ⟨s', answered, r, cause, hrun, heq, hanswered, -⟩
    · rw [runFrom_cons_ok rest hrun, turns_cons_ok rest hrun]
      rcases ih s' with ⟨hok, hdefs, hall⟩ | ⟨earlier, last, answered, r, cause, hturns, hfail,
        heq, hearlier, hanswered⟩
      · refine .inl ⟨hok, ?_, List.forall_mem_cons.mpr ⟨hcomplete, hall⟩⟩
        rw [List.map_cons, hdefs]
        rfl
      · refine .inr ⟨turn t d s :: earlier, last, answered, r, cause, ?_, hfail, heq,
          List.forall_mem_cons.mpr ⟨hcomplete, hearlier⟩, hanswered⟩
        rw [hturns, List.cons_append]
    · rw [runFrom_cons_error rest hrun, turns_cons_error rest hrun]
      exact .inr ⟨[], turn t d s, answered, r, cause, rfl, rfl, heq, List.forall_mem_nil _,
        hanswered⟩

/-- A run leaves what its exchanges leave. -/
theorem runFrom_leaves (t : Transport σ) (ds : List Definition) (s : State σ) :
    Leaves t s (exchanges t ds s) (runFrom t ds s).2 := by
  induction ds generalizing s with
  | nil => exact .refl s
  | cons d rest ih =>
    unfold exchanges
    rcases execute_cases t d s with ⟨s', hrun, -, hleaves⟩ | ⟨s', _, _, _, hrun, -, -, hleaves⟩
    · rw [runFrom_cons_ok rest hrun, turns_cons_ok rest hrun, List.flatMap_cons]
      exact hleaves.trans (ih s')
    · rw [runFrom_cons_error rest hrun, turns_cons_error rest hrun, List.flatMap_singleton]
      exact hleaves

/-- The definitions take turns in their order. -/
theorem turns_inOrder (t : Transport σ) (ds : List Definition) (s : State σ) :
    (turns t ds s).map (·.definition) <+: ds := by
  induction ds generalizing s with
  | nil => exact List.prefix_refl []
  | cons d rest ih =>
    rcases execute_cases t d s with ⟨s', hrun, -, -⟩ | ⟨s', _, _, _, hrun, -, -, -⟩
    · rw [turns_cons_ok rest hrun, List.map_cons]
      exact List.cons_prefix_cons.mpr ⟨rfl, ih s'⟩
    · rw [turns_cons_error rest hrun]
      exact List.prefix_append [d] rest

/-- A definition is planned against the store that the definitions before it leave. -/
theorem turns_store (t : Transport σ) (ds : List Definition) (s : State σ) :
    ∀ (i : Nat) (h : i < (turns t ds s).length),
      (turns t ds s)[i].store = (runFrom t (ds.take i) s).2.store := by
  induction ds generalizing s with
  | nil => intro i h; exact absurd h (Nat.not_lt_zero i)
  | cons d rest ih =>
    intro i h
    cases i with
    | zero => rfl
    | succ i =>
      -- a later turn belongs to the run of the rest, which only an answered definition leads to
      rcases execute_cases t d s with ⟨s', hrun, -, -⟩ | ⟨s', _, _, _, hrun, -, -, -⟩
      · rw [List.take_succ_cons, runFrom_cons_ok _ hrun]
        simp only [turns_cons_ok rest hrun, List.getElem_cons_succ]
        exact ih s' i (by simpa [turns_cons_ok rest hrun] using h)
      · simp [turns_cons_error rest hrun] at h

/-- Every turn is a turn of a definition from some state, so its exchanges are a conversation. -/
theorem exists_turn_of_mem {t : Transport σ} {ds : List Definition} {s : State σ} {x : Turn}
    (h : x ∈ turns t ds s) : ∃ d s', x = turn t d s' := by
  induction ds generalizing s with
  | nil => exact absurd h List.not_mem_nil
  | cons d rest ih =>
    rcases execute_cases t d s with ⟨s', hrun, -, -⟩ | ⟨s', _, _, _, hrun, -, -, -⟩
    · rw [turns_cons_ok rest hrun] at h
      rcases List.mem_cons.mp h with rfl | hrest
      · exact ⟨d, s, rfl⟩
      · exact ih hrest
    · rw [turns_cons_error rest hrun] at h
      exact ⟨d, s, List.mem_singleton.mp h⟩

/-! ## A list and its details -/

/-- Asks for a list of things. -/
def listing : Definition :=
  (Definition.basic "things" .get "api.test" "/things").withRule "id" "id"

/-- Asks for each thing of the list. -/
def details : Definition :=
  ((Definition.basic "details" .get "api.test" "/things/{{things.data[*].id}}").withPrevious
    "things").withRule "name" "name"

end Run

end ApiChain
