import ApiChain.Proofs.Run.Commute

/-!
# How far an answer reaches

A response goes into the records of its own definition and into the store. From the store it comes out
only where a definition depends on its identifier. So where no definition depends on an identifier, the
answers to it change nothing but its own payload and its own records.

* **`Store.AgreeOff`**: two stores agree on every identifier but one;
* **`execute_agreeOff`** is the step: a definition that does not depend on that identifier sends the
  same requests from both stores and leaves two that agree again;
* **`turns_alikeOff`** is the run, two runs coupled by the stores before each definition;
* **`unread_answers_stay`** says what the two runs have in common.
-/

namespace ApiChain

variable {σ σ' : Type}

/-- The stores have the same payloads, that of one identifier apart. -/
def Store.AgreeOff (x : String) (s s' : Store) : Prop :=
  ∀ id, id ≠ x → s.get? id = s'.get? id

/-! ## Exchanges that brought the same back -/

namespace Exchange

/-- The exchanges brought the same body back to the same definition. -/
structure Alike (y y' : Exchange) : Prop where
  sender : y.sender = y'.sender
  body : y.body? = y'.body?

theorem records_eq (y : Exchange) :
    y.records
      = (y.body?.map fun body => Mapping.records (dataOf body) y.sender.mapping).getD [] := by
  obtain ⟨d, r, answer⟩ := y
  cases answer <;> rfl

theorem Alike.records {y y' : Exchange} (h : Alike y y') : y.records = y'.records := by
  rw [records_eq, records_eq, h.sender, h.body]

theorem Alike.storeInto {y y' : Exchange} (h : Alike y y') {x : String} {s s' : Store}
    (hs : s.AgreeOff x s') : (y.storeInto s).AgreeOff x (y'.storeInto s') := by
  intro id hne
  rw [Run.get?_storeInto, Run.get?_storeInto, hs id hne, h.sender, h.body]

theorem flatMap_records_alike {ys ys' : List Exchange} (h : List.Forall₂ Alike ys ys') :
    ys.flatMap records = ys'.flatMap records := by
  induction h with
  | nil => rfl
  | cons hfirst _ ih => rw [List.flatMap_cons, List.flatMap_cons, hfirst.records, ih]

theorem foldl_storeInto_alike {ys ys' : List Exchange} (h : List.Forall₂ Alike ys ys') :
    ∀ {x : String} {s s' : Store}, s.AgreeOff x s' →
      (ys.foldl storeInto s).AgreeOff x (ys'.foldl storeInto s') := by
  induction h with
  | nil => exact fun hs => hs
  | cons hfirst _ ih => exact fun hs => ih (hfirst.storeInto hs)

end Exchange

namespace Run

/-- The same bodies came back to the definitions of other identifiers: wherever both rows of turns have
a `k`-th request of such an `i`-th definition, the two were answered with one body. -/
def SameBodiesOff (x : String) (ts ts' : List Turn) : Prop :=
  ∀ (i k : Nat) (turn turn' : Turn) (y y' : Exchange),
    ts[i]? = some turn → ts'[i]? = some turn' → turn.definition.id ≠ x →
    turn.exchanges[k]? = some y → turn'.exchanges[k]? = some y' → y.body? = y'.body?

/-- The turns belong to one definition and sent the same; they gave the same records, unless they are
turns of the identifier `x`. -/
structure AlikeOff (x : String) (turn turn' : Turn) : Prop where
  definition : turn.definition = turn'.definition
  requests : turn.requests = turn'.requests
  records : turn.definition.id ≠ x → turn.records = turn'.records

/-! ## One definition -/

section Step

variable {t : Transport σ} {t' : Transport σ'} {d : Definition} {s : State σ} {s' : State σ'}
variable {x : String}

/-- A definition that does not depend on the identifier sends the same from both stores. -/
theorem turn_requests_agreeOff (hunread : d.previous ≠ some x) (hs : s.store.AgreeOff x s'.store)
    (hdone : (turn t d s).Complete) (hdone' : (turn t' d s').Complete) :
    (turn t d s).requests = (turn t' d s').requests := by
  have hplan : (turn t d s).plan = (turn t' d s').plan := by
    refine Plan.of_congr fun dependency hdependency => hs dependency fun heq => ?_
    exact hunread (heq ▸ hdependency)
  rw [hdone.requests, hdone'.requests, hplan]

/-- Turns of one definition with as many requests, answered with the same bodies, are alike. -/
theorem turn_exchanges_alike (hrequests : (turn t d s).requests = (turn t' d s').requests)
    (hbodies : ∀ (k : Nat) (y y' : Exchange), (turn t d s).exchanges[k]? = some y →
      (turn t' d s').exchanges[k]? = some y' → y.body? = y'.body?) :
    List.Forall₂ Exchange.Alike (turn t d s).exchanges (turn t' d s').exchanges := by
  have hlength : (turn t d s).exchanges.length = (turn t' d s').exchanges.length := by
    simpa [Turn.requests] using congrArg List.length hrequests
  rw [List.forall₂_iff_get]
  refine ⟨hlength, fun k hk hk' => ⟨?_, ?_⟩⟩
  · rw [turn_senders t d s _ (List.get_mem _ _), turn_senders t' d s' _ (List.get_mem _ _)]
  · exact hbodies k _ _ (List.getElem?_eq_getElem hk) (List.getElem?_eq_getElem hk')

/-- The turn of a definition that does not depend on the identifier keeps the stores in agreement. -/
theorem execute_agreeOff (hunread : d.previous ≠ some x) (hs : s.store.AgreeOff x s'.store)
    (hdone : (turn t d s).Complete) (hdone' : (turn t' d s').Complete)
    (hbodies : d.id ≠ x → ∀ (k : Nat) (y y' : Exchange), (turn t d s).exchanges[k]? = some y →
      (turn t' d s').exchanges[k]? = some y' → y.body? = y'.body?) :
    AlikeOff x (turn t d s) (turn t' d s') ∧
      (execute t d s).2.store.AgreeOff x (execute t' d s').2.store := by
  have hrequests := turn_requests_agreeOff hunread hs hdone hdone'
  by_cases hid : d.id = x
  · -- its own answers may differ, and they are stored under its identifier alone
    refine ⟨⟨rfl, hrequests, fun hne => absurd hid hne⟩, ?_⟩
    intro id hne
    have hother : d.id ≠ id := fun heq => hne (heq.symm.trans hid)
    rw [get?_execute_of_ne hother, get?_execute_of_ne hother, hs id hne]
  · have halike := turn_exchanges_alike hrequests (hbodies hid)
    rw [(execute_leaves t d s).store, (execute_leaves t' d s').store]
    exact ⟨⟨rfl, hrequests, fun _ => Exchange.flatMap_records_alike halike⟩,
      Exchange.foldl_storeInto_alike halike hs⟩

end Step

/-! ## Whole runs -/

section Runs

variable {t : Transport σ} {t' : Transport σ'} {x : String}

/-- Two runs from stores that agree off an identifier on which no definition depends. -/
theorem turns_alikeOff {ds : List Definition} (hunread : ∀ d ∈ ds, d.previous ≠ some x)
    {s : State σ} {s' : State σ'} (hs : s.store.AgreeOff x s'.store)
    (hok : (runFrom t ds s).1 = .ok ()) (hok' : (runFrom t' ds s').1 = .ok ())
    (hbodies : SameBodiesOff x (turns t ds s) (turns t' ds s')) :
    List.Forall₂ (AlikeOff x) (turns t ds s) (turns t' ds s') ∧
      (runFrom t ds s).2.store.AgreeOff x (runFrom t' ds s').2.store := by
  induction ds generalizing s s' with
  | nil => exact ⟨.nil, hs⟩
  | cons d rest ih =>
    obtain ⟨hd, hunread⟩ := List.forall_mem_cons.mp hunread
    obtain ⟨hdone, hrest, hrun, hturns⟩ := complete_of_runFrom_cons hok
    obtain ⟨hdone', hrest', hrun', hturns'⟩ := complete_of_runFrom_cons hok'
    rw [hturns, hturns'] at hbodies ⊢
    rw [hrun, hrun']
    obtain ⟨hfirst, hstores⟩ := execute_agreeOff hd hs hdone hdone'
      fun hid k y y' => hbodies 0 k _ _ y y' rfl rfl hid
    obtain ⟨hlater, hfinal⟩ := ih hunread hstores hrest hrest'
      fun i k turn turn' y y' => hbodies (i + 1) k turn turn' y y'
    exact ⟨.cons hfirst hlater, hfinal⟩

theorem flatMap_requests_alikeOff {ts ts' : List Turn} (h : List.Forall₂ (AlikeOff x) ts ts') :
    ts.flatMap Turn.requests = ts'.flatMap Turn.requests := by
  induction h with
  | nil => rfl
  | cons hfirst _ ih => rw [List.flatMap_cons, List.flatMap_cons, hfirst.requests, ih]

theorem AlikeOff.at {ts ts' : List Turn} (h : List.Forall₂ (AlikeOff x) ts ts') {i : Nat}
    {turn turn' : Turn} (hi : ts[i]? = some turn) (hi' : ts'[i]? = some turn') :
    AlikeOff x turn turn' := by
  obtain ⟨hlt, rfl⟩ := List.getElem?_eq_some_iff.mp hi
  obtain ⟨hlt', rfl⟩ := List.getElem?_eq_some_iff.mp hi'
  exact (List.forall₂_iff_get.mp h).2 i hlt hlt'

end Runs

/-- **An answer reaches other requests through a dependency alone.** Let no definition depend on the
identifier `x`, and let two runs of the definitions from the same store and records succeed, over any
transports. If the bodies that come back to the definitions of other identifiers are the same, the two
runs

* send the same requests, one after the other;
* leave stores that agree on every identifier but `x`;
* add records in one block for each definition, and the blocks of definitions of other identifiers are
  the same. -/
theorem unread_answers_stay (t : Transport σ) (t' : Transport σ') (ds : List Definition)
    (s : State σ) (s' : State σ') (x : String) (hunread : ∀ d ∈ ds, d.previous ≠ some x)
    (hstore : s.store = s'.store) (hrecords : s.records = s'.records)
    (hok : (runFrom t ds s).1 = .ok ()) (hok' : (runFrom t' ds s').1 = .ok ())
    (hbodies : SameBodiesOff x (turns t ds s) (turns t' ds s')) :
    (∃ sent : List Request,
      requestsOf (runFrom t ds s).2.events = requestsOf s.events ++ sent ∧
      requestsOf (runFrom t' ds s').2.events = requestsOf s'.events ++ sent) ∧
    (∀ id, id ≠ x → (runFrom t ds s).2.store.get? id = (runFrom t' ds s').2.store.get? id) ∧
    (turns t ds s).map (·.definition) = ds ∧ (turns t' ds s').map (·.definition) = ds ∧
    (runFrom t ds s).2.records = s.records ++ (turns t ds s).flatMap Turn.records ∧
    (runFrom t' ds s').2.records = s.records ++ (turns t' ds s').flatMap Turn.records ∧
    ∀ (i : Nat) (turn turn' : Turn), (turns t ds s)[i]? = some turn →
      (turns t' ds s')[i]? = some turn' → turn.definition.id ≠ x → turn.records = turn'.records := by
  have hagree : s.store.AgreeOff x s'.store := by
    intro id _
    rw [hstore]
  obtain ⟨halike, hstores⟩ := turns_alikeOff hunread hagree hok hok' hbodies
  have hleaves := runFrom_leaves t ds s
  have hleaves' := runFrom_leaves t' ds s'
  refine ⟨⟨(turns t ds s).flatMap Turn.requests, ?_, ?_⟩, hstores, (runFrom_ok_iff.mp hok).1,
    (runFrom_ok_iff.mp hok').1, ?_, ?_, ?_⟩
  · rw [flatMap_requests]
    exact hleaves.sent
  · rw [flatMap_requests_alikeOff halike, flatMap_requests]
    exact hleaves'.sent
  · rw [flatMap_records]
    exact hleaves.records
  · rw [flatMap_records, hrecords]
    exact hleaves'.records
  · intro i turn turn' hi hi' hid
    exact (AlikeOff.at halike hi hi').records hid

/-! ## An owner whom no other call asks about -/

/-- The bodies that came back in a turn, unless it is a turn of the identifier `x`. -/
def bodiesOff (x : String) (turn : Turn) : Option (List (Option Json)) :=
  if turn.definition.id = x then none else some (turn.exchanges.map (·.body?))

theorem sameBodiesOff_of_map_eq {x : String} {ts ts' : List Turn}
    (h : ts.map (bodiesOff x) = ts'.map (bodiesOff x)) : SameBodiesOff x ts ts' := by
  intro i k turn turn' y y' hi hi' hid hk hk'
  have hbodies : bodiesOff x turn = bodiesOff x turn' := by
    have hat := congrArg (·[i]?) h
    simpa [List.getElem?_map, hi, hi'] using hat
  unfold bodiesOff at hbodies
  rw [if_neg hid] at hbodies
  split at hbodies
  · exact absurd hbodies (by simp)
  · have hat := congrArg (·[k]?) (Option.some.inj hbodies)
    simpa [List.getElem?_map, hk, hk'] using hat

/-- A list, its owner and its details. -/
def ownedThings : List Definition := [listing, owner, details]

/-- Before a run in which a list of two things, its owner and the details come back. -/
def toldOwner (owner : Json) : State (List (Except RequestError Response)) :=
  .initial <| [.object [("data", .array [.object [("id", .ofNat 1)], .object [("id", .ofNat 2)]])],
    owner, .object [("name", .string "pen")], .object [("name", .string "cup")]].map
      fun body => .ok (.ofBody body)

/-- Whatever is told of the owner, the requests are the same and so are the stored details. -/
theorem unread_answers_stay_owner :
    (∀ d ∈ ownedThings, d.previous ≠ some "owner") ∧
      (runFrom .scripted ownedThings (toldOwner .null)).2.store.get? "details"
        = (runFrom .scripted ownedThings (toldOwner (.array []))).2.store.get? "details" ∧
      ∃ sent : List Request, sent.length = 4 ∧
        requestsOf (runFrom .scripted ownedThings (toldOwner .null)).2.events = sent ∧
        requestsOf (runFrom .scripted ownedThings (toldOwner (.array []))).2.events = sent := by
  have hunread : ∀ d ∈ ownedThings, d.previous ≠ some "owner" := by decide
  have hok : (runFrom .scripted ownedThings (toldOwner .null)).1 = .ok () := by cbv
  have hok' : (runFrom .scripted ownedThings (toldOwner (.array []))).1 = .ok () := by cbv
  have hbodies : SameBodiesOff "owner" (turns .scripted ownedThings (toldOwner .null))
      (turns .scripted ownedThings (toldOwner (.array []))) :=
    sameBodiesOff_of_map_eq (by cbv)
  obtain ⟨⟨sent, hsent, hsent'⟩, hstores, -⟩ := unread_answers_stay .scripted .scripted ownedThings
    (toldOwner .null) (toldOwner (.array [])) "owner" hunread rfl rfl hok hok' hbodies
  have hcount : (requestsOf (runFrom .scripted ownedThings (toldOwner .null)).2.events).length
      = 4 := by cbv
  rw [hsent] at hcount
  exact ⟨hunread, hstores "details" (by decide), sent, hcount, hsent, hsent'⟩

end Run

end ApiChain
