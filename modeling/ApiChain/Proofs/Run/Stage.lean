import ApiChain.Proofs.Run.Turn
import Mathlib.Logic.Function.Iterate

/-!
# The stages of a run

A run cut into steps, so that one can speak of where it stands between two requests. A `Stage` is a
state with what is still to be done and the exchanges so far; `Stage.step` plans a definition, sends
one request, goes on to the next definition, or ends.

* **`iterate_step_runFrom`**: the steps end in the outcome, the state and the exchanges of the run;
* **`leaves_stage`**: the store and the records at any stage are what the exchanges so far leave;
* **`stage_exchanges_mono`**: exchanges are only added;
* **`exchanges_prefix_of_answers`**: two runs of the same definitions from the same store that get
  the same answers send the same requests. The invariant is `Coupled`: the two runs stand at the same
  point as long as the answers agree.
-/

namespace ApiChain.Run

variable {σ σ' : Type}

/-- What a run has still to do. -/
inductive Control where
  /-- To plan the first of the definitions. -/
  | planning (todo : List Definition)
  /-- To send the requests of a call, the first of them with number `index`, and then to go on with the
  definitions. -/
  | sending (d : Definition) (fanOut : Bool) (index : Nat) (pending : List Request)
      (todo : List Definition)
  /-- Nothing. -/
  | ended (outcome : Except ChainError Unit)

/-- Where a run stands between two steps. -/
structure Stage (σ : Type) where
  control : Control
  state : State σ
  /-- The exchanges so far. -/
  exchanges : List Exchange

namespace Stage

/-- The stage in which a run starts. -/
def start (ds : List Definition) (s : State σ) : Stage σ := ⟨.planning ds, s, []⟩

/-- One step of a run. A run that has ended stays as it is. -/
def step (t : Transport σ) (m : Stage σ) : Stage σ :=
  match m.control with
  | .planning [] => { m with control := .ended (.ok ()) }
  | .planning (d :: todo) =>
    let plan := Plan.of d m.state.store
    { m with
      control := .sending d plan.isFanOut 0 plan.requests todo
      state := m.state.observe ((Plan.notices d m.state.store).map .notice) }
  | .sending _ _ _ [] todo => { m with control := .planning todo }
  | .sending d fanOut index (r :: pending) todo =>
    match t.send r m.state.peer with
    | (.error cause, peer) =>
      { control := .ended (.error (.request d.id (if fanOut then some index else none) cause))
        state := { m.state.sending d r with peer }
        exchanges := m.exchanges ++ [⟨d, r, .error cause⟩] }
    | (.ok response, peer) =>
      { control := .sending d fanOut (index + 1) pending todo
        state := State.accept { m.state.sending d r with peer } d response
        exchanges := m.exchanges ++ [⟨d, r, .ok response⟩] }
  | .ended _ => m

/-- The answers so far. -/
def answers (m : Stage σ) : List (Except RequestError Response) := m.exchanges.map (·.answer)

/-- A step adds exchanges at the end and leaves what they say. -/
theorem step_leaves (t : Transport σ) (m : Stage σ) :
    ∃ xs, (step t m).exchanges = m.exchanges ++ xs ∧ Leaves t m.state xs (step t m).state := by
  obtain ⟨control, s, ys⟩ := m
  cases control with
  | planning todo =>
    cases todo with
    | nil => exact ⟨[], (List.append_nil ys).symm, .refl s⟩
    | cons d todo => exact ⟨[], (List.append_nil ys).symm, .observe s _⟩
  | ended outcome => exact ⟨[], (List.append_nil ys).symm, .refl s⟩
  | sending d fanOut index pending todo =>
    cases pending with
    | nil => exact ⟨[], (List.append_nil ys).symm, .refl s⟩
    | cons r pending =>
      rcases t.send_cases r s.peer with ⟨cause, peer, hsend⟩ | ⟨response, peer, hsend⟩
      · simp only [step, hsend]
        exact ⟨_, rfl, .failed hsend d⟩
      · simp only [step, hsend]
        exact ⟨_, rfl, .answered hsend d⟩

end Stage

/-- The stage of a run after some steps. -/
def stage (t : Transport σ) (ds : List Definition) (s : State σ) (n : Nat) : Stage σ :=
  (Stage.step t)^[n] (Stage.start ds s)

theorem stage_succ (t : Transport σ) (ds : List Definition) (s : State σ) (n : Nat) :
    stage t ds s (n + 1) = (stage t ds s n).step t :=
  Function.iterate_succ_apply' _ _ _

/-! ## The steps make up the run -/

/-- What is to be done after the requests of a call. -/
def Control.after (todo : List Definition) : Except ChainError Nat → Control
  | .error e => .ended (.error e)
  | .ok _ => .planning todo

/-- The steps of a call end where its sending ends. -/
theorem iterate_step_sendAll (t : Transport σ) (d : Definition) (fanOut : Bool)
    (todo : List Definition) (rs : List Request) :
    ∀ (index produced : Nat) (s : State σ) (xs : List Exchange),
      ∃ n, (Stage.step t)^[n] ⟨.sending d fanOut index rs todo, s, xs⟩
        = ⟨.after todo (sendAll t d fanOut index produced rs s).1,
            (sendAll t d fanOut index produced rs s).2, xs ++ t.converse d rs s.peer⟩ := by
  induction rs with
  | nil =>
    intro index produced s xs
    exact ⟨1, by simp [Stage.step, sendAll, Control.after, Transport.converse]⟩
  | cons r rest ih =>
    intro index produced s xs
    rcases t.send_cases r s.peer with ⟨cause, peer, hsend⟩ | ⟨response, peer, hsend⟩
    · refine ⟨1, ?_⟩
      rw [sendAll_cons_error fanOut index produced rest hsend,
        Transport.converse_cons_error hsend]
      simp [Stage.step, hsend, Control.after]
    · rw [sendAll_cons_ok fanOut index produced rest hsend, Transport.converse_cons_ok hsend]
      obtain ⟨n, hn⟩ := ih (index + 1)
        (produced + (Mapping.records response.data d.mapping).length)
        (State.accept { s.sending d r with peer } d response) (xs ++ [⟨d, r, .ok response⟩])
      refine ⟨n + 1, ?_⟩
      rw [Function.iterate_succ_apply]
      simp only [Stage.step, hsend]
      rw [hn, List.append_assoc]
      rfl

/-- **The steps of a run end in its outcome, its state and its exchanges.** -/
theorem iterate_step_runFrom (t : Transport σ) (ds : List Definition) :
    ∀ (s : State σ) (xs : List Exchange),
      ∃ n, (Stage.step t)^[n] ⟨.planning ds, s, xs⟩
        = ⟨.ended (runFrom t ds s).1, (runFrom t ds s).2, xs ++ exchanges t ds s⟩ := by
  induction ds with
  | nil =>
    intro s xs
    exact ⟨1, by simp [Stage.step, runFrom, exchanges, turns]⟩
  | cons d rest ih =>
    intro s xs
    obtain ⟨n, hn⟩ := iterate_step_sendAll t d (Plan.of d s.store).isFanOut rest
      (Plan.of d s.store).requests 0 0 (s.observe ((Plan.notices d s.store).map .notice)) xs
    -- one step plans the definition, and those of its call follow
    have hcall : (Stage.step t)^[n + 1] ⟨.planning (d :: rest), s, xs⟩
        = ⟨.after rest (execute t d s).1, (execute t d s).2, xs ++ (turn t d s).exchanges⟩ := by
      rw [Function.iterate_succ_apply]
      exact hn
    unfold exchanges
    rcases execute_cases t d s with ⟨s', hrun, -, -⟩ | ⟨s', answered, r, cause, hrun, -, -, -⟩
    · rw [runFrom_cons_ok rest hrun, turns_cons_ok rest hrun]
      obtain ⟨k, hk⟩ := ih s' (xs ++ (turn t d s).exchanges)
      refine ⟨k + (n + 1), ?_⟩
      rw [Function.iterate_add_apply, hcall, hrun]
      rw [List.flatMap_cons, ← List.append_assoc]
      exact hk
    · rw [runFrom_cons_error rest hrun, turns_cons_error rest hrun]
      refine ⟨n + 1, ?_⟩
      rw [hcall, hrun, List.flatMap_singleton]
      rfl

theorem exists_stage_ended (t : Transport σ) (ds : List Definition) (s : State σ) :
    ∃ n, stage t ds s n = ⟨.ended (runFrom t ds s).1, (runFrom t ds s).2, exchanges t ds s⟩ :=
  iterate_step_runFrom t ds s []

/-! ## What stands at a stage -/

/-- The exchanges so far account for the state. -/
theorem leaves_stage (t : Transport σ) (ds : List Definition) (s : State σ) (n : Nat) :
    Leaves t s (stage t ds s n).exchanges (stage t ds s n).state := by
  induction n with
  | zero => exact .refl s
  | succ n ih =>
    obtain ⟨xs, hadded, hstep⟩ := Stage.step_leaves t (stage t ds s n)
    rw [stage_succ, hadded]
    exact ih.trans hstep

/-- Exchanges are only added. -/
theorem stage_exchanges_mono (t : Transport σ) (ds : List Definition) (s : State σ) {n k : Nat}
    (h : n ≤ k) : (stage t ds s n).exchanges <+: (stage t ds s k).exchanges := by
  obtain ⟨more, rfl⟩ := Nat.exists_eq_add_of_le h
  clear h
  induction more with
  | zero => exact List.prefix_refl _
  | succ more ih =>
    obtain ⟨xs, hadded, -⟩ := Stage.step_leaves t (stage t ds s (n + more))
    rw [← Nat.add_assoc, stage_succ, hadded]
    exact ih.trans (List.prefix_append _ _)

theorem stage_answers_mono (t : Transport σ) (ds : List Definition) (s : State σ) {n k : Nat}
    (h : n ≤ k) : (stage t ds s n).answers <+: (stage t ds s k).answers :=
  (stage_exchanges_mono t ds s h).map _

/-! ## Two runs with the same answers -/

/-- Two runs stand at the same point: they have the same to do, the same store and the same past. -/
structure Coupled (m : Stage σ) (m' : Stage σ') : Prop where
  control : m.control = m'.control
  store : m.state.store = m'.state.store
  exchanges : m.exchanges = m'.exchanges

theorem eq_of_prefixes {α : Type} {xs ys zs : List α} (hx : xs <+: zs) (hy : ys <+: zs)
    (hlen : xs.length = ys.length) : xs = ys :=
  (List.prefix_of_prefix_length_le hx hy (Nat.le_of_eq hlen)).eq_of_length hlen

/-- A step keeps two runs at the same point if it brings both the same answer. -/
theorem Coupled.step {t : Transport σ} {t' : Transport σ'} {m : Stage σ} {m' : Stage σ'}
    (h : Coupled m m') {given : List (Except RequestError Response)}
    (hm : (m.step t).answers <+: given) (hm' : (m'.step t').answers <+: given) :
    Coupled (m.step t) (m'.step t') := by
  obtain ⟨control, s, xs⟩ := m
  obtain ⟨control', s', xs'⟩ := m'
  obtain ⟨hcontrol, hstore, hxs⟩ := h
  simp only at hcontrol hstore hxs
  subst hcontrol hxs
  cases control with
  | planning todo =>
    cases todo with
    | nil => exact ⟨rfl, hstore, rfl⟩
    | cons d todo => exact ⟨by simp [Stage.step, hstore], hstore, rfl⟩
  | ended outcome => exact ⟨rfl, hstore, rfl⟩
  | sending d fanOut index pending todo =>
    cases pending with
    | nil => exact ⟨rfl, hstore, rfl⟩
    | cons r pending =>
      -- Both send the request; the answers stand at the same place among those given.
      cases hsend : t.send r s.peer with
      | mk answer peer =>
        cases hsend' : t'.send r s'.peer with
        | mk answer' peer' =>
          have hanswer : answer = answer' := by
            cases answer <;> cases answer' <;>
              simp only [Stage.step, Stage.answers, hsend, hsend', List.map_append] at hm hm' <;>
              simpa using eq_of_prefixes hm hm' (by simp)
          subst hanswer
          cases answer with
          | error cause => exact ⟨by simp [Stage.step, hsend, hsend'],
              by simp [Stage.step, hsend, hsend', State.sending, State.observe, hstore],
              by simp [Stage.step, hsend, hsend']⟩
          | ok response => exact ⟨by simp [Stage.step, hsend, hsend'],
              by simp [Stage.step, hsend, hsend', State.accept, State.sending, State.observe, hstore],
              by simp [Stage.step, hsend, hsend']⟩

section TwoRuns

variable {t : Transport σ} {t' : Transport σ'} {ds : List Definition} {s : State σ} {s' : State σ'}

theorem coupled_stage (hstore : s.store = s'.store) {given : List (Except RequestError Response)} :
    ∀ n, (stage t ds s n).answers <+: given → (stage t' ds s' n).answers <+: given →
      Coupled (stage t ds s n) (stage t' ds s' n) := by
  intro n
  induction n with
  | zero => exact fun _ _ => ⟨rfl, hstore, rfl⟩
  | succ n ih =>
    intro hm hm'
    have hbefore := ih ((stage_answers_mono t ds s (Nat.le_succ n)).trans hm)
      ((stage_answers_mono t' ds s' (Nat.le_succ n)).trans hm')
    rw [stage_succ] at hm hm' ⊢
    rw [stage_succ]
    exact hbefore.step hm hm'

/-- **The answers determine the exchanges.** A run whose answers so far are the first answers of
another run has so far had the first exchanges of that run. -/
theorem exchanges_prefix_of_answers (hstore : s.store = s'.store) {i j : Nat}
    (h : (stage t' ds s' j).answers <+: (stage t ds s i).answers) :
    (stage t' ds s' j).exchanges <+: (stage t ds s i).exchanges := by
  rcases Nat.le_total j i with hle | hle
  · have hcoupled := coupled_stage hstore j (stage_answers_mono t ds s hle) h
    rw [← hcoupled.exchanges]
    exact stage_exchanges_mono t ds s hle
  · have hearlier := (stage_answers_mono t' ds s' hle).trans h
    have hcoupled := coupled_stage hstore i (List.prefix_refl _) hearlier
    have hgrown := stage_exchanges_mono t' ds s' hle
    rw [← hcoupled.exchanges] at hgrown
    -- The other run has no more exchanges than this one, since it has no more answers.
    have hlen : (stage t' ds s' j).exchanges.length ≤ (stage t ds s i).exchanges.length := by
      simpa [Stage.answers] using h.length_le
    have hsame : (stage t ds s i).exchanges = (stage t' ds s' j).exchanges :=
      hgrown.eq_of_length (Nat.le_antisymm hgrown.length_le hlen)
    exact hsame ▸ List.prefix_refl _

end TwoRuns

end ApiChain.Run
