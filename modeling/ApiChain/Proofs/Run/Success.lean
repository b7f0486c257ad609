import ApiChain.Proofs.Run.Meaning

/-!
# Runs that succeed

A run that succeeds is the runs of its parts in a row, and what it leaves is told by blocks of answered
exchanges, one for each definition.

* **`runFrom_ok_iff_succeeded`**: a run succeeds if and only if all its requests are answered;
* **`runFrom_append`** takes a run apart between two definitions;
* **`Blocks`** is the account of a run that succeeds, block by block.
-/

namespace ApiChain.Run

variable {σ : Type}

/-! ## One definition after the other -/

section Rows

variable {t : Transport σ} {d : Definition} {ds : List Definition} {s : State σ}

theorem runFrom_ok_iff_succeeded :
    (runFrom t ds s).1 = .ok () ↔ ∀ x ∈ exchanges t ds s, x.succeeded := by
  rcases runFrom_cases t ds s with ⟨hok, -, hall⟩ | ⟨earlier, last, answered, r, cause, hturns,
    hfail, hlast, -, -⟩
  · exact ⟨fun _ => succeeded_of_complete hall, fun _ => hok⟩
  · constructor
    · intro hok
      exact absurd (hfail.symm.trans hok) (by simp)
    · intro hall
      have hfailed := hall ⟨last.definition, r, .error cause⟩ (by simp [exchanges, hturns, hlast])
      exact absurd hfailed (by simp)

/-- Where all requests of the first definition are answered, the run goes on. -/
theorem runFrom_cons_succeeded (h : ∀ x ∈ (turn t d s).exchanges, x.succeeded)
    (rest : List Definition) :
    runFrom t (d :: rest) s = runFrom t rest (execute t d s).2 ∧
      turns t (d :: rest) s = turn t d s :: turns t rest (execute t d s).2 := by
  rcases execute_cases t d s with ⟨s', hrun, -, -⟩ | ⟨s', answered, r, cause, hrun, heq, -, -⟩
  · rw [hrun]
    exact ⟨runFrom_cons_ok rest hrun, turns_cons_ok rest hrun⟩
  · have hfailed := h ⟨d, r, .error cause⟩ (by rw [heq]; simp)
    exact absurd hfailed (by simp)

/-- Where a request of the first definition fails, the run ends. -/
theorem turns_cons_failed (h : ¬ ∀ x ∈ (turn t d s).exchanges, x.succeeded)
    (rest : List Definition) : turns t (d :: rest) s = [turn t d s] := by
  rcases execute_cases t d s with ⟨s', hrun, hcomplete, -⟩ | ⟨s', _, _, _, hrun, -, -, -⟩
  · exact absurd hcomplete.succeeded h
  · exact turns_cons_error rest hrun

/-- A run that succeeds has all requests of its first definition answered, and goes on. -/
theorem succeeded_of_runFrom_cons {rest : List Definition}
    (h : (runFrom t (d :: rest) s).1 = .ok ()) :
    (∀ x ∈ (turn t d s).exchanges, x.succeeded) ∧
      (runFrom t rest (execute t d s).2).1 = .ok () := by
  rcases execute_cases t d s with ⟨s', hrun, hcomplete, -⟩ | ⟨s', _, _, _, hrun, -, -, -⟩
  · rw [runFrom_cons_ok rest hrun] at h
    rw [hrun]
    exact ⟨hcomplete.succeeded, h⟩
  · rw [runFrom_cons_error rest hrun] at h
    exact absurd h (by simp)

/-- The first turn of a run that succeeds is complete, and the rest is a run that succeeds. -/
theorem complete_of_runFrom_cons {rest : List Definition}
    (h : (runFrom t (d :: rest) s).1 = .ok ()) :
    (turn t d s).Complete ∧ (runFrom t rest (execute t d s).2).1 = .ok () ∧
      runFrom t (d :: rest) s = runFrom t rest (execute t d s).2 ∧
      turns t (d :: rest) s = turn t d s :: turns t rest (execute t d s).2 := by
  obtain ⟨hfirst, hrest⟩ := succeeded_of_runFrom_cons h
  obtain ⟨hrun, hturns⟩ := runFrom_cons_succeeded hfirst rest
  refine ⟨(runFrom_ok_iff.mp h).2 _ ?_, hrest, hrun, hturns⟩
  rw [hturns]
  exact List.mem_cons_self

/-- A run whose first definitions succeed goes on from where they leave it. -/
theorem runFrom_append (h : (runFrom t ds s).1 = .ok ()) (more : List Definition) :
    runFrom t (ds ++ more) s = runFrom t more (runFrom t ds s).2 ∧
      turns t (ds ++ more) s = turns t ds s ++ turns t more (runFrom t ds s).2 := by
  induction ds generalizing s with
  | nil => exact ⟨rfl, rfl⟩
  | cons d rest ih =>
    obtain ⟨hfirst, hrest⟩ := succeeded_of_runFrom_cons h
    obtain ⟨hrun, hturns⟩ := runFrom_cons_succeeded hfirst rest
    obtain ⟨hrun', hturns'⟩ := runFrom_cons_succeeded hfirst (rest ++ more)
    obtain ⟨ihrun, ihturns⟩ := ih hrest
    rw [List.cons_append, hrun, hrun', hturns, hturns', ihrun, ihturns]
    exact ⟨rfl, rfl⟩

theorem runFrom_ok_of_append {more : List Definition} (h : (runFrom t (ds ++ more) s).1 = .ok ()) :
    (runFrom t ds s).1 = .ok () := by
  induction ds generalizing s with
  | nil => rfl
  | cons d rest ih =>
    obtain ⟨hfirst, hrest⟩ := succeeded_of_runFrom_cons h
    rw [(runFrom_cons_succeeded hfirst rest).1]
    exact ih hrest

/-- The first definitions of a run that succeeds are a run that succeeds, with the first turns. -/
theorem runFrom_take (h : (runFrom t ds s).1 = .ok ()) (i : Nat) :
    (runFrom t (ds.take i) s).1 = .ok () ∧ turns t (ds.take i) s = (turns t ds s).take i := by
  have hsplit := ds.take_append_drop i
  have hok : (runFrom t (ds.take i) s).1 = .ok () := runFrom_ok_of_append (hsplit.symm ▸ h)
  have hfirst := (runFrom_ok_iff.mp hok).1
  have hall := (runFrom_ok_iff.mp h).1
  have hturns := (runFrom_append hok (ds.drop i)).2
  rw [hsplit] at hturns
  refine ⟨hok, ?_⟩
  -- both are starts of the same turns, of the same length
  have hlength : (turns t (ds.take i) s).length = ((turns t ds s).take i).length := by
    have hlen := congrArg List.length hfirst
    have hlen' := congrArg List.length hall
    simp only [List.length_map, List.length_take] at hlen hlen' ⊢
    omega
  exact (List.append_inj (hturns.symm.trans ((turns t ds s).take_append_drop i).symm) hlength).1

end Rows

/-! ## Block by block -/

/-- A run that succeeds, by its exchanges: one block for each definition, in order. -/
structure Blocks (t : Transport σ) (ds : List Definition) (s : State σ)
    (blocks : List (List Exchange)) : Prop where
  definitions : (turns t ds s).map (·.definition) = ds
  exchanges : (turns t ds s).map (·.exchanges) = blocks
  answered : ∀ block ∈ blocks, ∀ x ∈ block, x.succeeded
  /-- Nothing is sent but what is in the blocks. -/
  sent : requestsOf (runFrom t ds s).2.events
    = requestsOf s.events ++ blocks.flatten.map (·.request)
  records : (runFrom t ds s).2.records = s.records ++ blocks.flatten.flatMap Exchange.records

theorem blocks_of_ok {t : Transport σ} {ds : List Definition} {s : State σ}
    (hok : (runFrom t ds s).1 = .ok ()) {blocks : List (List Exchange)}
    (h : (turns t ds s).map (·.exchanges) = blocks) : Blocks t ds s blocks := by
  obtain ⟨hdefinitions, hcomplete⟩ := runFrom_ok_iff.mp hok
  have hflat : blocks.flatten = exchanges t ds s := by
    rw [← h, exchanges, List.flatMap_def]
  refine ⟨hdefinitions, h, ?_, ?_, ?_⟩
  · intro block hblock
    rw [← h] at hblock
    obtain ⟨turn, hturn, rfl⟩ := List.mem_map.mp hblock
    exact (hcomplete turn hturn).succeeded
  · rw [hflat, (runFrom_leaves t ds s).sent]
  · rw [hflat, (runFrom_leaves t ds s).records]

end ApiChain.Run
