import ApiChain.Proofs.Run.FirstWrite
import ApiChain.Proofs.Run.Success
import ApiChain.Proofs.Plan.Isolation

/-!
# Independent definitions commute

Two neighbours in a list of definitions, of which neither reads the other's response, can change places.
Where answers are told by the requests alone, nothing else changes: every definition has the same
exchanges, the stores have the same entries, and the records of the two change places.

* **`turn_exchanges_congr`**: the exchanges of a definition depend on the payload of its dependency
  alone;
* **`turns_exchanges_congr`**: a run does the same from every store with the same entries;
* **`foldl_storeInto_comm`**: what two definitions with different identifiers store, they store in
  either order;
* **`swap_independent`** puts them together.
-/

namespace ApiChain

variable {σ : Type}

/-- The answer to a request is told by the request alone, whatever was sent before. -/
def Transport.Memoryless (t : Transport σ) : Prop :=
  ∀ (r : Request) (peer peer' : σ), (t.send r peer).1 = (t.send r peer').1

/-- Over a memoryless transport a conversation does not depend on the peer. -/
theorem Transport.Memoryless.converse {t : Transport σ} (ht : t.Memoryless) (d : Definition)
    (rs : List Request) (peer peer' : σ) : t.converse d rs peer = t.converse d rs peer' := by
  induction rs generalizing peer peer' with
  | nil => rfl
  | cons r rest ih =>
    have hanswer := ht r peer peer'
    rcases t.send_cases r peer with ⟨cause, next, hsend⟩ | ⟨response, next, hsend⟩ <;>
    rcases t.send_cases r peer' with ⟨cause', next', hsend'⟩ | ⟨response', next', hsend'⟩ <;>
    simp only [hsend, hsend', Except.error.injEq, Except.ok.injEq, reduceCtorEq] at hanswer
    · rw [converse_cons_error hsend, converse_cons_error hsend', hanswer]
    · rw [converse_cons_ok hsend, converse_cons_ok hsend', hanswer, ih next next']

/-! ## What exchanges store, in either order -/

namespace Exchange

theorem storeInto_congr {s s' : Store} (h : s.Same s') (x : Exchange) :
    (x.storeInto s).Same (x.storeInto s') := by
  obtain ⟨d, r, answer⟩ := x
  cases answer with
  | error cause => exact h
  | ok response => exact h.insertIfAbsent d.id response.body

theorem storeInto_comm {x y : Exchange} (h : x.sender.id ≠ y.sender.id) (s : Store) :
    (y.storeInto (x.storeInto s)).Same (x.storeInto (y.storeInto s)) := by
  obtain ⟨d, r, answer⟩ := x
  obtain ⟨d', r', answer'⟩ := y
  cases answer with
  | error cause => exact .refl _
  | ok response =>
    cases answer' with
    | error cause => exact .refl _
    | ok response' => exact Store.same_insertIfAbsent_comm s h response.body response'.body

theorem foldl_storeInto_congr {s s' : Store} (h : s.Same s') (xs : List Exchange) :
    (xs.foldl storeInto s).Same (xs.foldl storeInto s') := by
  induction xs generalizing s s' with
  | nil => exact h
  | cons x rest ih => exact ih (storeInto_congr h x)

/-- One exchange moves past a row of exchanges of other definitions. -/
theorem foldl_storeInto_comm_one {y : Exchange} {xs : List Exchange}
    (h : ∀ x ∈ xs, x.sender.id ≠ y.sender.id) (s : Store) :
    (y.storeInto (xs.foldl storeInto s)).Same (xs.foldl storeInto (y.storeInto s)) := by
  induction xs generalizing s with
  | nil => exact .refl _
  | cons x rest ih =>
    obtain ⟨hx, hrest⟩ := List.forall_mem_cons.mp h
    exact (ih hrest (x.storeInto s)).trans (foldl_storeInto_congr (storeInto_comm hx s) rest)

/-- Two rows of exchanges whose definitions have different identifiers are stored in either order. -/
theorem foldl_storeInto_comm {xs ys : List Exchange}
    (h : ∀ x ∈ xs, ∀ y ∈ ys, x.sender.id ≠ y.sender.id) (s : Store) :
    (ys.foldl storeInto (xs.foldl storeInto s)).Same
      (xs.foldl storeInto (ys.foldl storeInto s)) := by
  induction ys generalizing s with
  | nil => exact .refl _
  | cons y rest ih =>
    have hy : ∀ x ∈ xs, x.sender.id ≠ y.sender.id := fun x hx => h x hx y List.mem_cons_self
    have hrest := ih (fun x hx z hz => h x hx z (List.mem_cons_of_mem _ hz)) (y.storeInto s)
    exact (foldl_storeInto_congr (foldl_storeInto_comm_one hy s) rest).trans hrest

end Exchange

namespace Run

/-! ## Runs from stores with the same entries -/

section TwoRuns

variable {t : Transport σ} {d : Definition} {s s' : State σ}

/-- The exchanges of a definition depend on the payload of its dependency alone. -/
theorem turn_exchanges_congr (ht : t.Memoryless)
    (h : ∀ id, d.previous = some id → s.store.get? id = s'.store.get? id) :
    (turn t d s).exchanges = (turn t d s').exchanges := by
  show t.converse d (Plan.of d s.store).requests s.peer
    = t.converse d (Plan.of d s'.store).requests s'.peer
  rw [Plan.of_congr h]
  exact ht.converse d _ s.peer s'.peer

theorem turns_exchanges_congr (ht : t.Memoryless) (h : s.store.Same s'.store)
    (ds : List Definition) :
    (turns t ds s).map (·.exchanges) = (turns t ds s').map (·.exchanges) := by
  -- the stores have the same entries before each definition, which is all that its turn reads
  induction ds generalizing s s' with
  | nil => rfl
  | cons d rest ih =>
    have hturn : (turn t d s).exchanges = (turn t d s').exchanges :=
      turn_exchanges_congr ht fun id _ => h.get? id
    by_cases hok : ∀ x ∈ (turn t d s).exchanges, x.succeeded
    · have hstore : (execute t d s).2.store.Same (execute t d s').2.store := by
        rw [(execute_leaves t d s).store, (execute_leaves t d s').store, ← hturn]
        exact Exchange.foldl_storeInto_congr h _
      rw [(runFrom_cons_succeeded hok rest).2, (runFrom_cons_succeeded (hturn ▸ hok) rest).2,
        List.map_cons, List.map_cons, hturn, ih hstore]
    · rw [turns_cons_failed hok, turns_cons_failed (hturn ▸ hok), List.map_singleton,
        List.map_singleton, hturn]

/-- From stores with the same entries, runs succeed alike and leave stores with the same entries. -/
theorem runFrom_congr (ht : t.Memoryless) (h : s.store.Same s'.store) (ds : List Definition) :
    ((runFrom t ds s).1 = .ok () ↔ (runFrom t ds s').1 = .ok ()) ∧
      (runFrom t ds s).2.store.Same (runFrom t ds s').2.store := by
  have hsame : exchanges t ds s = exchanges t ds s' := by
    simp only [exchanges, List.flatMap_def, turns_exchanges_congr ht h ds]
  constructor
  · rw [runFrom_ok_iff_succeeded, runFrom_ok_iff_succeeded, hsame]
  · rw [(runFrom_leaves t ds s).store, (runFrom_leaves t ds s').store, hsame]
    exact Exchange.foldl_storeInto_congr h _

end TwoRuns

/-! ## Two neighbours -/

section Neighbours

variable {t : Transport σ} {a b : Definition} {s : State σ}

/-- Exchanges of other identifiers leave the payload of this one. -/
theorem get?_foldl_storeInto_of_ne {xs : List Exchange} {id : String}
    (h : ∀ x ∈ xs, x.sender.id ≠ id) (store : Store) :
    (xs.foldl Exchange.storeInto store).get? id = store.get? id := by
  have hnone : firstBody id xs = none := by
    rw [firstBody, List.findSome?_eq_none_iff]
    exact fun x hx => if_neg (h x hx)
  rw [get?_foldl_storeInto, hnone, Option.or_none]

/-- A definition leaves the payloads of other identifiers. -/
theorem get?_execute_of_ne {id : String} (h : a.id ≠ id) :
    (execute t a s).2.store.get? id = s.store.get? id := by
  rw [(execute_leaves t a s).store]
  apply get?_foldl_storeInto_of_ne
  intro x hx
  rw [turn_senders t a s x hx]
  exact h

/-- A definition that does not read another one has the same exchanges before and after it. -/
theorem turn_exchanges_after (ht : t.Memoryless) (h : b.previous ≠ some a.id) :
    (turn t b (execute t a s).2).exchanges = (turn t b s).exchanges := by
  apply turn_exchanges_congr ht
  intro id hid
  apply get?_execute_of_ne
  intro heq
  exact h (hid.trans (congrArg some heq.symm))

theorem execute_execute_store (ht : t.Memoryless) (h : b.previous ≠ some a.id) :
    (execute t b (execute t a s).2).2.store
      = (turn t b s).exchanges.foldl Exchange.storeInto
          ((turn t a s).exchanges.foldl Exchange.storeInto s.store) := by
  rw [(execute_leaves t b _).store, turn_exchanges_after ht h, (execute_leaves t a s).store]

/-- Two definitions that do not read one another leave stores with the same entries in either order. -/
theorem execute_execute_same (ht : t.Memoryless) (hid : a.id ≠ b.id)
    (hab : a.previous ≠ some b.id) (hba : b.previous ≠ some a.id) :
    (execute t b (execute t a s).2).2.store.Same (execute t a (execute t b s).2).2.store := by
  rw [execute_execute_store ht hba, execute_execute_store ht hab]
  refine Exchange.foldl_storeInto_comm (fun x hx y hy => ?_) s.store
  rw [turn_senders t a s x hx, turn_senders t b s y hy]
  exact hid

/-- A run that starts with two answered definitions, of which the second does not read the first. -/
theorem runFrom_pair (ht : t.Memoryless) (h : b.previous ≠ some a.id)
    (ha : ∀ x ∈ (turn t a s).exchanges, x.succeeded)
    (hb : ∀ x ∈ (turn t b s).exchanges, x.succeeded) (after : List Definition) :
    runFrom t (a :: b :: after) s = runFrom t after (execute t b (execute t a s).2).2 ∧
      (turns t (a :: b :: after) s).map (·.exchanges)
        = (turn t a s).exchanges :: (turn t b s).exchanges
          :: (turns t after (execute t b (execute t a s).2).2).map (·.exchanges) := by
  have hsecond := turn_exchanges_after (s := s) ht h
  obtain ⟨hrun, hturns⟩ := runFrom_cons_succeeded ha (b :: after)
  obtain ⟨hrun', hturns'⟩ := runFrom_cons_succeeded (hsecond ▸ hb) after
  rw [hrun, hrun', hturns, hturns', List.map_cons, List.map_cons, hsecond]
  exact ⟨rfl, rfl⟩

/-- Two independent definitions at the start of a run that succeeds change places. -/
theorem swap_first (ht : t.Memoryless) (hid : a.id ≠ b.id) (hab : a.previous ≠ some b.id)
    (hba : b.previous ≠ some a.id) {after : List Definition}
    (hok : (runFrom t (a :: b :: after) s).1 = .ok ()) :
    (runFrom t (b :: a :: after) s).1 = .ok () ∧
      (runFrom t (a :: b :: after) s).2.store.Same (runFrom t (b :: a :: after) s).2.store ∧
      ∃ later, (turns t (a :: b :: after) s).map (·.exchanges)
          = (turn t a s).exchanges :: (turn t b s).exchanges :: later ∧
        (turns t (b :: a :: after) s).map (·.exchanges)
          = (turn t b s).exchanges :: (turn t a s).exchanges :: later := by
  obtain ⟨ha, hrest⟩ := succeeded_of_runFrom_cons hok
  have hb := (succeeded_of_runFrom_cons hrest).1
  rw [turn_exchanges_after ht hba] at hb
  obtain ⟨hrun, hturns⟩ := runFrom_pair ht hba ha hb after
  obtain ⟨hrun', hturns'⟩ := runFrom_pair ht hab hb ha after
  -- from here on the two runs start from stores with the same entries
  have hsame := execute_execute_same (s := s) ht hid hab hba
  obtain ⟨hsucceeds, hstore⟩ := runFrom_congr ht hsame after
  rw [hrun] at hok ⊢
  rw [hrun']
  refine ⟨hsucceeds.mp hok, hstore, _, hturns, ?_⟩
  rw [hturns', turns_exchanges_congr ht hsame after]

end Neighbours

/-! ## Anywhere in a list -/

/-- Where two independent definitions stand next to each other in a run that succeeds, the run with
the two in the other order succeeds as well. -/
theorem swap_succeeds {t : Transport σ} (ht : t.Memoryless) {before after : List Definition}
    {a b : Definition} {s : State σ} (hid : a.id ≠ b.id) (hab : a.previous ≠ some b.id)
    (hba : b.previous ≠ some a.id)
    (hok : (runFrom t (before ++ a :: b :: after) s).1 = .ok ()) :
    (runFrom t (before ++ b :: a :: after) s).1 = .ok () ∧
      (runFrom t (before ++ a :: b :: after) s).2.store.Same
        (runFrom t (before ++ b :: a :: after) s).2.store ∧
      ∃ earlier ofA ofB later, earlier.length = before.length ∧
        (turns t (before ++ a :: b :: after) s).map (·.exchanges)
          = earlier ++ ofA :: ofB :: later ∧
        (turns t (before ++ b :: a :: after) s).map (·.exchanges)
          = earlier ++ ofB :: ofA :: later := by
  -- up to the two neighbours the runs are one, so they can be the first of the list
  have hbefore := runFrom_ok_of_append hok
  obtain ⟨hrun, hturns⟩ := runFrom_append hbefore (a :: b :: after)
  obtain ⟨hrun', hturns'⟩ := runFrom_append hbefore (b :: a :: after)
  rw [hrun] at hok ⊢
  rw [hrun', hturns, hturns', List.map_append, List.map_append]
  obtain ⟨hok', hstore, later, hfirst, hfirst'⟩ := swap_first ht hid hab hba hok
  rw [hfirst, hfirst']
  refine ⟨hok', hstore, _, _, _, later, ?_, rfl, rfl⟩
  have hall := congrArg List.length (runFrom_ok_iff.mp hbefore).1
  rwa [List.length_map] at hall ⊢

/-- **Independent definitions commute.** Let `a` and `b` be neighbours with different identifiers, of
which neither names the other, and the answers of the transport be told by the requests alone. Then the
run with `a` before `b` succeeds if and only if the run with `b` before `a` does. Where they succeed,
their stores have the same entries, and every definition has the same exchanges in both, so the
records differ in the order of the blocks of `a` and `b` alone. -/
theorem swap_independent (t : Transport σ) (ht : t.Memoryless) (before after : List Definition)
    (a b : Definition) (s : State σ) (hid : a.id ≠ b.id) (hab : a.previous ≠ some b.id)
    (hba : b.previous ≠ some a.id) :
    ((runFrom t (before ++ a :: b :: after) s).1 = .ok () ↔
      (runFrom t (before ++ b :: a :: after) s).1 = .ok ()) ∧
    ((runFrom t (before ++ a :: b :: after) s).1 = .ok () →
      (runFrom t (before ++ a :: b :: after) s).2.store.Same
        (runFrom t (before ++ b :: a :: after) s).2.store ∧
      ∃ (earlier : List (List Exchange)) (ofA ofB : List Exchange) (later : List (List Exchange)),
        earlier.length = before.length ∧ later.length = after.length ∧
        Blocks t (before ++ a :: b :: after) s (earlier ++ ofA :: ofB :: later) ∧
        Blocks t (before ++ b :: a :: after) s (earlier ++ ofB :: ofA :: later)) := by
  refine ⟨⟨fun hok => (swap_succeeds ht hid hab hba hok).1,
    fun hok => (swap_succeeds ht hid.symm hba hab hok).1⟩, fun hok => ?_⟩
  obtain ⟨hok', hstore, earlier, ofA, ofB, later, hlength, hturns, hturns'⟩ :=
    swap_succeeds ht hid hab hba hok
  refine ⟨hstore, earlier, ofA, ofB, later, hlength, ?_, blocks_of_ok hok hturns,
    blocks_of_ok hok' hturns'⟩
  have hcount := congrArg List.length hturns
  rw [List.length_map, ← List.length_map (f := Turn.definition), (runFrom_ok_iff.mp hok).1]
    at hcount
  simp only [List.length_append, List.length_cons, hlength] at hcount
  omega

/-! ## Details and an owner -/

/-- A transport that answers by the URL, from a table, and counts the requests. -/
def routed (routes : Entries Json) : Transport Nat where
  send r count :=
    match routes.get? r.url with
    | some body => (.ok (.ofBody body), count + 1)
    | none => (.error (.network "no route"), count + 1)

theorem routed_memoryless (routes : Entries Json) : (routed routes).Memoryless := by
  intro r count count'
  unfold routed
  dsimp only
  split <;> rfl

/-- A list of two things, their details and their owner. -/
def things : Transport Nat :=
  routed
    [("https://api.test/things",
        .object [("data", .array [.object [("id", .ofNat 1)], .object [("id", .ofNat 2)]])]),
      ("https://api.test/things/1", .object [("name", .string "pen")]),
      ("https://api.test/things/2", .object [("name", .string "cup")]),
      ("https://api.test/owner", .object [("name", .string "Ada")])]

def owner : Definition :=
  (Definition.basic "owner" .get "api.test" "/owner").withRule "name" "name"

/-- The details of the things and the owner are asked for in either order. -/
theorem swap_independent_details :
    (runFrom things ([listing] ++ details :: owner :: []) (State.initial 0)).1 = .ok () ∧
      (runFrom things ([listing] ++ owner :: details :: []) (State.initial 0)).1 = .ok () ∧
      (runFrom things ([listing] ++ details :: owner :: []) (State.initial 0)).2.store.Same
        (runFrom things ([listing] ++ owner :: details :: []) (State.initial 0)).2.store := by
  have hok : (runFrom things ([listing] ++ details :: owner :: []) (State.initial 0)).1 = .ok () := by
    cbv
  obtain ⟨hiff, hsame⟩ := swap_independent things (routed_memoryless _) [listing] [] details owner
    (State.initial 0) (by decide) (by decide) (by decide)
  exact ⟨hok, hiff.mp hok, (hsame hok).1⟩

end Run

end ApiChain
