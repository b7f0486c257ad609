import Mathlib
import ApiChain.Proofs.Run.Meaning
import ApiChain.Proofs.Run.Stage
import ApiChain.Proofs.Store
import ApiChain.Proofs.Config.Identifiers

/-!
# The first answer stays

A store only grows along a run, and what it holds at the end is told by the exchanges alone: under an
identifier stands what stood there before the run, or else the first body that came back for a
definition of that identifier.

* **`get?_foldl_storeInto`** is that rule for any row of exchanges;
* **`names_foldl_turns`**: turns with new, distinct identifiers each add one entry, unless they send
  nothing.
-/

namespace ApiChain.Run

variable {σ : Type}

/-- The body of the first exchange that succeeded and was sent by a definition of the identifier. -/
def firstBody (id : String) (xs : List Exchange) : Option Json :=
  xs.findSome? fun x => if x.sender.id = id then x.body? else none

/-- An exchange stores its body where nothing stands. -/
theorem get?_storeInto (store : Store) (x : Exchange) (id : String) :
    (x.storeInto store).get? id
      = (store.get? id).or (if x.sender.id = id then x.body? else none) := by
  obtain ⟨d, r, answer⟩ := x
  cases answer with
  | error cause => simp [Exchange.storeInto, Exchange.body?, Except.toOption]
  | ok response =>
    simp only [Exchange.storeInto, Exchange.body?, Except.toOption, Option.map_some]
    rw [Store.get?_insertIfAbsent]
    by_cases h : d.id = id
    · simp [h]
    · simp [h, Ne.symm h]

/-- What stands under an identifier after some exchanges. -/
theorem get?_foldl_storeInto (xs : List Exchange) (store : Store) (id : String) :
    (xs.foldl Exchange.storeInto store).get? id = (store.get? id).or (firstBody id xs) := by
  induction xs generalizing store with
  | nil => simp [firstBody]
  | cons x rest ih =>
    rw [List.foldl_cons, ih, get?_storeInto, Option.or_assoc]
    have hcons : firstBody id (x :: rest)
        = (if x.sender.id = id then x.body? else none).or (firstBody id rest) := by
      rw [firstBody, List.findSome?_cons]
      cases (if x.sender.id = id then x.body? else none) <;> rfl
    rw [hcons]

/-! ## One entry for each turn that sends something -/

theorem names_storeInto_of_succeeded {x : Exchange} (h : x.succeeded = true) (store : Store) :
    (x.storeInto store).names
      = if x.sender.id ∈ store.names then store.names else store.names ++ [x.sender.id] := by
  obtain ⟨d, r, answer⟩ := x
  cases answer with
  | error cause => exact absurd h (by simp)
  | ok response => exact Store.names_insertIfAbsent store d.id response.body

/-- Exchanges of a definition whose identifier is known add no entry. -/
theorem names_foldl_of_mem {id : String} {xs : List Exchange}
    (hsent : ∀ x ∈ xs, x.sender.id = id ∧ x.succeeded) (store : Store) (h : id ∈ store.names) :
    (xs.foldl Exchange.storeInto store).names = store.names := by
  induction xs generalizing store with
  | nil => rfl
  | cons x rest ih =>
    obtain ⟨⟨hid, hok⟩, hrest⟩ := List.forall_mem_cons.mp hsent
    have hsame : (x.storeInto store).names = store.names := by
      rw [names_storeInto_of_succeeded hok, hid, if_pos h]
    rw [List.foldl_cons, ih hrest _ (hsame ▸ h), hsame]

/-- The exchanges of a definition with a new identifier add one entry, if there are any. -/
theorem names_foldl_of_notMem {id : String} {xs : List Exchange}
    (hsent : ∀ x ∈ xs, x.sender.id = id ∧ x.succeeded) (store : Store) (h : id ∉ store.names) :
    (xs.foldl Exchange.storeInto store).names
      = if xs.isEmpty then store.names else store.names ++ [id] := by
  cases xs with
  | nil => rfl
  | cons x rest =>
    obtain ⟨⟨hid, hok⟩, hrest⟩ := List.forall_mem_cons.mp hsent
    have hadded : (x.storeInto store).names = store.names ++ [id] := by
      rw [names_storeInto_of_succeeded hok, hid, if_neg h]
    rw [List.foldl_cons, names_foldl_of_mem hrest _ (by rw [hadded]; simp), hadded]
    rfl

/-- Whether the plan of the turn holds a request. -/
def sends (turn : Turn) : Bool := !turn.plan.requests.isEmpty

theorem isEmpty_exchanges {turn : Turn} (h : turn.Complete) :
    turn.exchanges.isEmpty = !sends turn := by
  rw [sends, Bool.not_not, ← h.requests, Turn.requests, List.isEmpty_map]

/-- Complete turns of definitions with new, distinct identifiers add one entry each, in their order,
except those that send nothing. -/
theorem names_foldl_turns {ts : List Turn} (hcomplete : ∀ turn ∈ ts, turn.Complete)
    (hsenders : ∀ turn ∈ ts, ∀ x ∈ turn.exchanges, x.sender = turn.definition)
    (hnodup : (ts.map (·.definition.id)).Nodup) (store : Store)
    (hfresh : ∀ turn ∈ ts, turn.definition.id ∉ store.names) :
    ((ts.flatMap Turn.exchanges).foldl Exchange.storeInto store).names
      = store.names ++ (ts.filter sends).map (·.definition.id) := by
  induction ts generalizing store with
  | nil => simp
  | cons turn rest ih =>
    obtain ⟨hturn, hrest⟩ := List.forall_mem_cons.mp hcomplete
    obtain ⟨hsender, hsenders⟩ := List.forall_mem_cons.mp hsenders
    obtain ⟨hnew, hfresh⟩ := List.forall_mem_cons.mp hfresh
    rw [List.map_cons, List.nodup_cons] at hnodup
    obtain ⟨hdistinct, hnodup⟩ := hnodup
    have hnames := names_foldl_of_notMem
      (fun x hx => ⟨congrArg Definition.id (hsender x hx), hturn.succeeded x hx⟩) store hnew
    rw [isEmpty_exchanges hturn] at hnames
    -- what this turn stores is no identifier of a later one
    have hstill : ∀ other ∈ rest, other.definition.id
        ∉ (turn.exchanges.foldl Exchange.storeInto store).names := by
      intro other hother hmem
      have hne : other.definition.id ≠ turn.definition.id :=
        fun heq => hdistinct (heq ▸ List.mem_map_of_mem hother)
      rw [hnames] at hmem
      split at hmem
      · exact hfresh other hother hmem
      · rcases List.mem_append.mp hmem with hold | hlast
        · exact hfresh other hother hold
        · exact hne (List.mem_singleton.mp hlast)
    rw [List.flatMap_cons, List.foldl_append, ih hrest hsenders hnodup _ hstill, hnames]
    cases hsends : sends turn with
    | true => simp [hsends]
    | false => simp [hsends]

/-! ## Whole runs -/

section Runs

variable {t : Transport σ} {ds : List Definition} {s : State σ}

/-- What is stored at a stage stands at all later ones. -/
theorem get?_stage_of_le {i j : Nat} (h : i ≤ j) {id : String} {payload : Json}
    (hstored : (stage t ds s i).state.store.get? id = some payload) :
    (stage t ds s j).state.store.get? id = some payload := by
  obtain ⟨more, hmore⟩ := stage_exchanges_mono t ds s h
  have hi := (leaves_stage t ds s i).store
  have hj := (leaves_stage t ds s j).store
  rw [← hmore, List.foldl_append, ← hi] at hj
  rw [hj, get?_foldl_storeInto, hstored, Option.some_or]

theorem get?_runFrom (id : String) :
    (runFrom t ds s).2.store.get? id
      = (s.store.get? id).or (firstBody id (exchanges t ds s)) := by
  rw [(runFrom_leaves t ds s).store, get?_foldl_storeInto]

/-- A successful run from an empty store of definitions with distinct identifiers stores one entry for
each definition that sends something, in their order. -/
theorem names_runFrom (hstore : s.store = .empty) (hnodup : (ds.map (·.id)).Nodup)
    (hok : (runFrom t ds s).1 = .ok ()) :
    (runFrom t ds s).2.store.names
      = ((turns t ds s).filter sends).map (·.definition.id) := by
  obtain ⟨hdefs, hcomplete⟩ := runFrom_ok_iff.mp hok
  have hids : (turns t ds s).map (·.definition.id) = ds.map (·.id) := by
    rw [← hdefs, List.map_map, hdefs]
    rfl
  rw [(runFrom_leaves t ds s).store, exchanges,
    names_foldl_turns hcomplete (fun turn hturn => turns_senders hturn) (hids ▸ hnodup) s.store
      (fun turn _ => by rw [hstore]; exact List.not_mem_nil), hstore]
  rfl

end Runs

/-- **The first write wins.** Along the stages of a run, which end in the run's own state, what is
stored stays. At the end stands under an identifier what stood there at the start, or else the first
body that came back for it, or else nothing. In a successful run from an empty store of a configuration
that passes the check, that is one entry for each definition whose plan held a request, and no
other. -/
theorem first_write_wins (t : Transport σ) (ds : List Definition) (s : State σ) :
    (∃ n, stage t ds s n = ⟨.ended (runFrom t ds s).1, (runFrom t ds s).2, exchanges t ds s⟩) ∧
      (∀ (i j : Nat) (id : String) (payload : Json), i ≤ j →
        (stage t ds s i).state.store.get? id = some payload →
        (stage t ds s j).state.store.get? id = some payload) ∧
      (∀ id, (runFrom t ds s).2.store.get? id
        = (s.store.get? id).or (firstBody id (exchanges t ds s))) ∧
      ∀ c : Config, c.definitions = ds → c.check.2 = none → s.store = .empty →
        (runFrom t ds s).1 = .ok () →
        (turns t ds s).map (·.definition) = ds ∧
          (runFrom t ds s).2.store.names
            = ((turns t ds s).filter fun turn => !turn.plan.requests.isEmpty).map
                (·.definition.id) ∧
          (runFrom t ds s).2.store.names.Nodup := by
  refine ⟨exists_stage_ended t ds s, fun _ _ _ _ hle hstored => get?_stage_of_le hle hstored,
    get?_runFrom, ?_⟩
  intro c hds hcheck hstore hok
  have hnodup : (ds.map (·.id)).Nodup := hds ▸ Config.ids_nodup_of_check hcheck
  have hdefs := (runFrom_ok_iff.mp hok).1
  -- the names are some of the distinct identifiers, in their order
  have hnames := names_runFrom hstore hnodup hok
  refine ⟨hdefs, hnames, ?_⟩
  rw [hnames]
  refine List.Nodup.sublist (List.Sublist.map _ List.filter_sublist) ?_
  rw [← hdefs, List.map_map] at hnodup
  exact hnodup

/-- An empty list has no details, so nothing is stored for them. -/
theorem first_write_wins_details :
    (Config.ofDefinitions [listing, details]).check.2 = none ∧
      (run Transport.scripted [listing, details]
        [.ok (.ofBody (.object [("data", .array [])]))]).2.store.names = ["things"] := by
  have hcheck : (Config.ofDefinitions [listing, details]).check.2 = none := by decide
  have hok : (run Transport.scripted [listing, details]
      [.ok (.ofBody (.object [("data", .array [])]))]).1 = .ok () := by cbv
  obtain ⟨-, -, -, hlast⟩ := first_write_wins Transport.scripted [listing, details]
    (State.initial [.ok (.ofBody (.object [("data", .array [])]))])
  have hnames := (hlast (Config.ofDefinitions [listing, details]) rfl hcheck rfl hok).2.1
  refine ⟨hcheck, hnames.trans ?_⟩
  cbv

end ApiChain.Run
