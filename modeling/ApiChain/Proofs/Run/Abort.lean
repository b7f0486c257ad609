import Mathlib
import ApiChain.Proofs.Run.Meaning
import ApiChain.Proofs.Run.Stage

/-!
# A failure keeps what was answered

The first request that fails ends the run. The error says which definition sent it, and in a fan-out
how many of its requests were answered before. The store and the records stay as any run leaves them
that has had the same answers up to there, whatever its peer would answer next.
-/

namespace ApiChain.Run

variable {σ : Type}

/-- Where a run fails, the failed request is the last of its exchanges, and its turn is the last of
its turns. -/
theorem exchanges_failed {t : Transport σ} {ds : List Definition} {s : State σ}
    {before after : List Exchange} {x : Exchange} {cause : RequestError}
    (hrun : exchanges t ds s = before ++ x :: after) (hx : x.answer = .error cause) :
    after = [] ∧ (∀ y ∈ before, y.succeeded) ∧
      ∃ earlier last answered, turns t ds s = earlier ++ [last] ∧
        last.exchanges = answered ++ [x] ∧ x.sender = last.definition ∧
        (∀ y ∈ answered, y.succeeded) ∧
        (runFrom t ds s).1 = .error (failureOf last answered cause) := by
  have hfailed : x.succeeded = false := by simp [Exchange.succeeded, hx, Except.isOk, Except.toBool]
  have hlast : after = [] := turns_failureIsLast hrun hfailed
  subst hlast
  refine ⟨rfl, ?_⟩
  rcases runFrom_cases t ds s with ⟨-, -, hall⟩ | ⟨earlier, last, answered, r, cause', hturns,
    hfail, heq, hearlier, hanswered⟩
  · have hmem : x ∈ (turns t ds s).flatMap Turn.exchanges := by
      show x ∈ exchanges t ds s
      rw [hrun]
      simp
    rw [succeeded_of_complete hall x hmem] at hfailed
    exact absurd hfailed (by simp)
  · obtain ⟨hsplit, hok⟩ := exchanges_of_failed heq hearlier hanswered
    rw [← hturns] at hsplit
    obtain ⟨rfl, hxeq⟩ := List.append_inj' (hrun.symm.trans hsplit) rfl
    rw [List.cons.injEq] at hxeq
    obtain ⟨rfl, -⟩ := hxeq
    simp only [Except.error.injEq] at hx
    subst hx
    exact ⟨hok, earlier, last, answered, hturns, heq, rfl, hanswered, hfail⟩

/-- A failed request at the end adds nothing to the store and the records. -/
theorem failed_adds_nothing {x : Exchange} {cause : RequestError} (hx : x.answer = .error cause)
    (before : List Exchange) (store : Store) :
    (before ++ [x]).foldl Exchange.storeInto store = before.foldl Exchange.storeInto store ∧
      (before ++ [x]).flatMap Exchange.records = before.flatMap Exchange.records := by
  constructor
  · rw [List.foldl_append]
    simp [Exchange.storeInto, hx]
  · rw [List.flatMap_append]
    simp [Exchange.records, hx]

/-- **A failure aborts the run and keeps the answered prefix.** Let `x` be a request of a run that
fails, and `before` the exchanges before it. Then all of `before` succeeded, the run returns the error
of the definition that sent `x`, nothing is sent after `x`, and the store and the records are those of
every run of the same definitions from the same store and records, over any transport, at any stage at
which the answers so far are those of `before`. -/
theorem first_failure_aborts (t : Transport σ) (ds : List Definition) (s : State σ)
    (before after : List Exchange) (x : Exchange) (cause : RequestError)
    (hrun : exchanges t ds s = before ++ x :: after) (hx : x.answer = .error cause) :
    (∀ y ∈ before, y.succeeded) ∧
      (∃ earlier last answered, turns t ds s = earlier ++ [last] ∧
        last.exchanges = answered ++ [x] ∧ (∀ y ∈ answered, y.succeeded) ∧
        x.sender = last.definition ∧ ds[earlier.length]? = some x.sender ∧
        last.plan = Plan.of x.sender (runFrom t (ds.take earlier.length) s).2.store ∧
        (runFrom t ds s).1 = .error (.request x.sender.id
          (match last.plan with
            | .single _ => none
            | .fanOut _ => some answered.length) cause)) ∧
      after = [] ∧
      requestsOf (runFrom t ds s).2.events
        = requestsOf s.events ++ before.map (·.request) ++ [x.request] ∧
      ∀ (σ' : Type) (t' : Transport σ') (s' : State σ') (n : Nat), s'.store = s.store →
        s'.records = s.records → (stage t' ds s' n).answers = before.map (·.answer) →
        (runFrom t ds s).2.store = (stage t' ds s' n).state.store ∧
          (runFrom t ds s).2.records = (stage t' ds s' n).state.records := by
  obtain ⟨rfl, hbefore, earlier, last, answered, hturns, heq, hsender, hanswered, hfail⟩ :=
    exchanges_failed hrun hx
  have hleaves := runFrom_leaves t ds s
  rw [hrun] at hleaves
  refine ⟨hbefore, ⟨earlier, last, answered, hturns, heq, hanswered, hsender, ?_, ?_, ?_⟩, rfl,
    ?_, ?_⟩
  · have hfirst := turns_inOrder t ds s
    rw [hturns, List.map_append] at hfirst
    obtain ⟨rest, hds⟩ := hfirst
    rw [← hds, hsender]
    simp
  · have hlt : earlier.length < (turns t ds s).length := by rw [hturns]; simp
    have hstore := turns_store t ds s earlier.length hlt
    simp only [hturns, List.getElem_concat_length] at hstore
    rw [Turn.plan, hstore, hsender]
  · rw [hfail, failureOf, hsender]
    cases last.plan <;> rfl
  · rw [hleaves.sent, List.map_append, List.append_assoc]
    rfl
  · intro σ' t' s' n hstore hrecords hanswers
    -- the answers determine the exchanges, and the exchanges the store and the records
    have hsame : (stage t' ds s' n).exchanges = before := by
      obtain ⟨i, hi⟩ := exists_stage_ended t ds s
      have hfirst : (stage t' ds s' n).answers <+: (stage t ds s i).answers := by
        rw [hanswers, hi, Stage.answers, hrun, List.map_append]
        exact List.prefix_append _ _
      have hexchanges := exchanges_prefix_of_answers hstore.symm hfirst
      rw [hi, hrun] at hexchanges
      refine eq_of_prefixes hexchanges (List.prefix_append before [x]) ?_
      simpa [Stage.answers] using congrArg List.length hanswers
    have hother := leaves_stage t' ds s' n
    rw [hsame] at hother
    obtain ⟨hstored, hmapped⟩ := failed_adds_nothing hx before s.store
    constructor
    · rw [hleaves.store, hother.store, hstored, hstore]
    · rw [hleaves.records, hother.records, hmapped, hrecords]

/-! ## A fan-out that fails at its second element -/

/-- A list of three things. -/
def threeThings : Json :=
  .object [("data", .array [.object [("id", .ofNat 1)], .object [("id", .ofNat 2)],
    .object [("id", .ofNat 3)]])]

/-- What comes back for the list and for the first thing. -/
def listAndFirst : List (Except RequestError Response) :=
  [.ok (.ofBody threeThings), .ok (.ofBody (.object [("name", .string "Ada")]))]

/-- The request for a thing. -/
def detailsRequest (n : Nat) : Request :=
  details.filledRequest "things" (Definition.elementView (.object [("id", .ofNat n)]))

/-- The second thing of three fails, and the store and the records are those of a run that goes on, five
steps after its start. -/
theorem first_failure_aborts_details :
    exchanges Transport.scripted [listing, details]
          (State.initial (listAndFirst ++ [.error .timeout]))
        = [⟨listing, listing.plainRequest, .ok (.ofBody threeThings)⟩,
            ⟨details, detailsRequest 1, .ok (.ofBody (.object [("name", .string "Ada")]))⟩]
          ++ ⟨details, detailsRequest 2, .error .timeout⟩ :: [] ∧
      (run Transport.scripted [listing, details] (listAndFirst ++ [.error .timeout])).2.records
        = (stage Transport.scripted [listing, details]
            (State.initial (listAndFirst ++ [.ok (.ofBody .null)])) 5).state.records := by
  have hrun : exchanges Transport.scripted [listing, details]
        (State.initial (listAndFirst ++ [.error .timeout]))
      = [⟨listing, listing.plainRequest, .ok (.ofBody threeThings)⟩,
          ⟨details, detailsRequest 1, .ok (.ofBody (.object [("name", .string "Ada")]))⟩]
        ++ ⟨details, detailsRequest 2, .error .timeout⟩ :: [] := by cbv
  have hother : (stage Transport.scripted [listing, details]
      (State.initial (listAndFirst ++ [.ok (.ofBody .null)])) 5).answers = listAndFirst := by cbv
  obtain ⟨-, -, -, -, hsame⟩ := first_failure_aborts Transport.scripted [listing, details]
    (State.initial (listAndFirst ++ [.error .timeout])) _ _ _ .timeout hrun rfl
  exact ⟨hrun, (hsame _ Transport.scripted _ 5 rfl rfl hother).2⟩

end ApiChain.Run
