import ApiChain.Proofs.Run.FirstWrite
import ApiChain.Proofs.Run.Success

/-!
# Which definitions run without their dependency

The check of a configuration looks at identifiers alone, and a definition falls back to its request as
written where nothing is stored for its dependency. In a run that succeeds the two are tied by what is
stored: before each definition, the identifiers of the earlier definitions that sent something.

* **`names_store_turn`** is that invariant;
* **`contains_store_turn_iff`** reads it for one dependency;
* **`check_foretells_fallback`**: a definition that was reported falls back, and one that was not falls
  back only if its dependency was called for each of no elements.
-/

namespace ApiChain

/-! ## Planning without the dependency -/

theorem Definition.basis_eq_nothingStored_iff {d : Definition} {dependency : String}
    (hprevious : d.previous = some dependency) (store : Store) :
    d.basis store = .nothingStored dependency ↔ store.contains dependency = false := by
  rw [Store.contains_eq_isSome]
  cases hpayload : store.get? dependency with
  | none => simp [Definition.basis, hprevious, hpayload]
  | some payload =>
    -- with a payload the definition is planned from it, in one of three ways
    simp only [Definition.basis, hprevious, hpayload, Option.isSome_some, Bool.true_eq_false,
      iff_false]
    split
    · split <;> simp
    · simp

namespace Run

/-- A plan without requests is one for each of no elements: a single request is always sent. -/
theorem sends_eq_false_iff (turn : Turn) : sends turn = false ↔ turn.plan = .fanOut [] := by
  unfold sends
  cases turn.plan with
  | single r => simp [Plan.requests]
  | fanOut rs => simp [Plan.requests]

variable {σ : Type}

/-- The members of the first `i` are those at smaller positions. -/
theorem mem_take_iff {α : Type} {xs : List α} {i : Nat} {x : α} :
    x ∈ xs.take i ↔ ∃ j, j < i ∧ xs[j]? = some x := by
  rw [List.mem_iff_getElem?]
  constructor
  · rintro ⟨j, hj⟩
    rw [List.getElem?_take] at hj
    split at hj
    · exact ⟨j, ‹_›, hj⟩
    · exact absurd hj (by simp)
  · rintro ⟨j, hlt, hj⟩
    exact ⟨j, (List.getElem?_take_of_lt hlt).trans hj⟩

section Successful

variable {t : Transport σ} {ds : List Definition} {s : State σ}

theorem getElem?_definitions (hok : (runFrom t ds s).1 = .ok ()) {i : Nat} {turn : Turn}
    (hturn : (turns t ds s)[i]? = some turn) : ds[i]? = some turn.definition := by
  have hdefs := (runFrom_ok_iff.mp hok).1
  rw [← hdefs, List.getElem?_map, hturn, Option.map_some]

/-- A definition is planned when the earlier ones that sent something are stored, and no others. -/
theorem names_store_turn (hstore : s.store = .empty) (hnodup : (ds.map (·.id)).Nodup)
    (hok : (runFrom t ds s).1 = .ok ()) {i : Nat} {turn : Turn}
    (hturn : (turns t ds s)[i]? = some turn) :
    turn.store.names = (((turns t ds s).take i).filter sends).map (·.definition.id) := by
  obtain ⟨hlt, rfl⟩ := List.getElem?_eq_some_iff.mp hturn
  obtain ⟨hok', htake⟩ := runFrom_take hok i
  have hnodup' : ((ds.take i).map (·.id)).Nodup :=
    hnodup.sublist ((List.take_sublist i ds).map _)
  rw [turns_store t ds s i hlt, names_runFrom hstore hnodup' hok', htake]

theorem contains_store_turn_iff (hstore : s.store = .empty) (hnodup : (ds.map (·.id)).Nodup)
    (hok : (runFrom t ds s).1 = .ok ()) {i : Nat} {turn : Turn}
    (hturn : (turns t ds s)[i]? = some turn) (dependency : String) :
    turn.store.contains dependency = true ↔
      ∃ (j : Nat) (other : Turn), j < i ∧ (turns t ds s)[j]? = some other ∧
        other.definition.id = dependency ∧ sends other = true := by
  rw [← Store.mem_names, names_store_turn hstore hnodup hok hturn, List.mem_map]
  constructor
  · rintro ⟨other, hmem, hid⟩
    obtain ⟨hearlier, hsends⟩ := List.mem_filter.mp hmem
    obtain ⟨j, hlt, hother⟩ := mem_take_iff.mp hearlier
    exact ⟨j, other, hlt, hother, hid, hsends⟩
  · rintro ⟨j, other, hlt, hother, hid, hsends⟩
    have hearlier : other ∈ (turns t ds s).take i := mem_take_iff.mpr ⟨j, hlt, hother⟩
    exact ⟨other, List.mem_filter.mpr ⟨hearlier, hsends⟩, hid⟩

/-- Turns of a run with distinct identifiers are told by these. -/
theorem turn_unique (hnodup : (ds.map (·.id)).Nodup) (hok : (runFrom t ds s).1 = .ok ())
    {i j : Nat} {turn other : Turn} (hi : (turns t ds s)[i]? = some turn)
    (hj : (turns t ds s)[j]? = some other) (hid : turn.definition.id = other.definition.id) :
    turn = other := by
  obtain rfl : i = j := Config.position_unique hnodup (getElem?_definitions hok hi)
    (getElem?_definitions hok hj) hid
  exact Option.some.inj (hi.symm.trans hj)

/-- A definition that comes after its dependency falls back if and only if that was called for each of
no elements. -/
theorem fallback_iff (hstore : s.store = .empty) (hnodup : (ds.map (·.id)).Nodup)
    (hok : (runFrom t ds s).1 = .ok ()) {i j : Nat} {turn other : Turn}
    (hturn : (turns t ds s)[i]? = some turn) (hother : (turns t ds s)[j]? = some other)
    (hlt : j < i) (hprevious : turn.definition.previous = some other.definition.id) :
    turn.definition.basis turn.store = .nothingStored other.definition.id ↔
      other.plan = .fanOut [] := by
  rw [Definition.basis_eq_nothingStored_iff hprevious, ← sends_eq_false_iff, ← Bool.not_eq_true,
    ← Bool.not_eq_true, contains_store_turn_iff hstore hnodup hok hturn, not_iff_not]
  constructor
  · rintro ⟨k, found, -, hfound, hid, hsends⟩
    rwa [← turn_unique hnodup hok hfound hother hid]
  · exact fun hsends => ⟨j, other, hlt, hother, rfl, hsends⟩

/-- A definition whose dependency no earlier one is sends its request as written. -/
theorem requests_eq_plain (hstore : s.store = .empty) (hnodup : (ds.map (·.id)).Nodup)
    (hok : (runFrom t ds s).1 = .ok ()) {i : Nat} {turn : Turn}
    (hturn : (turns t ds s)[i]? = some turn) {dependency : String}
    (hprevious : turn.definition.previous = some dependency)
    (hnone : dependency ∉ (ds.take i).map (·.id)) :
    turn.requests = [turn.definition.plainRequest] := by
  have hmissing : turn.store.contains dependency = false := by
    rw [← Bool.not_eq_true, contains_store_turn_iff hstore hnodup hok hturn]
    rintro ⟨j, other, hlt, hother, rfl, -⟩
    exact hnone (List.mem_map_of_mem (mem_take_iff.mpr ⟨j, hlt, getElem?_definitions hok hother⟩))
  have hbasis := (Definition.basis_eq_nothingStored_iff hprevious turn.store).mpr hmissing
  rw [((runFrom_ok_iff.mp hok).2 turn (List.mem_of_getElem? hturn)).requests, Turn.plan, Plan.of,
    hbasis]
  rfl

end Successful

/-- **The check foretells which definitions fall back.** Let the definitions of a configuration without
a defect run from an empty store with success.

* A dependency is reported if and only if no earlier definition has its identifier.
* A definition whose dependency was reported sends one request, put together from its own URL,
  parameters and body as they are written.
* Where a dependency was not reported, an earlier definition has its identifier, and nothing is stored
  for it if and only if that one was called for each of no elements. -/
theorem check_foretells_fallback (t : Transport σ) (c : Config) (s : State σ)
    (hcheck : c.check.2 = none) (hstore : s.store = .empty)
    (hok : (runFrom t c.definitions s).1 = .ok ()) :
    (turns t c.definitions s).map (·.definition) = c.definitions ∧
    requestsOf (runFrom t c.definitions s).2.events
      = requestsOf s.events ++ (turns t c.definitions s).flatMap Turn.requests ∧
    ∀ (i : Nat) (turn : Turn), (turns t c.definitions s)[i]? = some turn →
      (∀ dependency, .unknownDependency turn.definition.id dependency ∈ c.check.1 ↔
        turn.definition.previous = some dependency ∧
          dependency ∉ (c.definitions.take i).map (·.id)) ∧
      (∀ dependency, .unknownDependency turn.definition.id dependency ∈ c.check.1 →
        turn.requests = [turn.definition.assemble turn.definition.url turn.definition.parameters
          turn.definition.body]) ∧
      ∀ dependency, turn.definition.previous = some dependency →
        .unknownDependency turn.definition.id dependency ∉ c.check.1 →
        ∃ (j : Nat) (other : Turn), j < i ∧ (turns t c.definitions s)[j]? = some other ∧
          other.definition.id = dependency ∧
          (turn.definition.basis turn.store = .nothingStored dependency ↔
            other.plan = .fanOut []) := by
  have hnodup := Config.ids_nodup_of_check hcheck
  have hdefs := (runFrom_ok_iff.mp hok).1
  refine ⟨hdefs, ?_, fun i turn hturn => ?_⟩
  · rw [flatMap_requests]
    exact (runFrom_leaves t c.definitions s).sent
  have hreported := Config.mem_check_iff hcheck (getElem?_definitions hok hturn)
  refine ⟨hreported, fun dependency hmem => ?_, fun dependency hprevious hmem => ?_⟩
  · obtain ⟨hprevious, hnone⟩ := (hreported dependency).mp hmem
    exact requests_eq_plain hstore hnodup hok hturn hprevious hnone
  · have hearlier : dependency ∈ (c.definitions.take i).map (·.id) := by
      by_contra hnone
      exact hmem ((hreported dependency).mpr ⟨hprevious, hnone⟩)
    rw [← hdefs, ← List.map_take, List.map_map, List.mem_map] at hearlier
    obtain ⟨other, hother, rfl⟩ := hearlier
    obtain ⟨j, hlt, hother⟩ := mem_take_iff.mp hother
    exact ⟨j, other, hlt, hother, rfl,
      fallback_iff hstore hnodup hok hturn hother hlt hprevious⟩

/-! ## A chain of calls for each of no elements -/

/-- Asks for the owner of each thing, as told by the details. -/
def owners : Definition :=
  (Definition.basic "owners" .get "api.test" "/owners/{{details.owner}}").withPrevious "details"

/-- Depends on itself. -/
def loop : Definition :=
  (Definition.basic "loop" .get "api.test" "/loop/{{loop.next}}").withPrevious "loop"

/-- A list, its details, their owners, and a definition that depends on itself. -/
def fallingBack : Config := .ofDefinitions [listing, details, owners, loop]

/-- Before a run in which the list has no things. -/
def noThings : State (List (Except RequestError Response)) :=
  .initial <| [.object [("data", .array [])], .null, .null].map fun body => .ok (.ofBody body)

/-- Without things there are no details, and the owners are asked for as written. The call that depends
on itself was reported. -/
theorem check_foretells_fallback_owners :
    fallingBack.check = ([.unknownDependency "loop" "loop"], none) ∧
    (runFrom .scripted fallingBack.definitions noThings).1 = .ok () ∧
    ∃ owned looped : Turn,
      (turns .scripted fallingBack.definitions noThings)[2]? = some owned ∧
      (turns .scripted fallingBack.definitions noThings)[3]? = some looped ∧
      owned.definition.basis owned.store = .nothingStored "details" ∧
      looped.requests = [loop.assemble "/loop/{{loop.next}}" [] none] := by
  have hcheck : fallingBack.check = ([.unknownDependency "loop" "loop"], none) := by decide
  have hok : (runFrom .scripted fallingBack.definitions noThings).1 = .ok () := by cbv
  have hempty : ∀ other ∈ turns .scripted fallingBack.definitions noThings,
      other.definition.id = "details" → other.plan = .fanOut [] := by decide +kernel
  obtain ⟨hdefs, -, hturns⟩ := check_foretells_fallback .scripted fallingBack noThings
    (congrArg Prod.snd hcheck) rfl hok
  have hlength : (turns .scripted fallingBack.definitions noThings).length = 4 := by
    simpa [fallingBack, Config.ofDefinitions] using congrArg List.length hdefs
  obtain ⟨owned, howned⟩ : ∃ owned, (turns .scripted fallingBack.definitions noThings)[2]?
      = some owned := ⟨_, List.getElem?_eq_getElem (by omega)⟩
  obtain ⟨looped, hlooped⟩ : ∃ looped, (turns .scripted fallingBack.definitions noThings)[3]?
      = some looped := ⟨_, List.getElem?_eq_getElem (by omega)⟩
  have howners : owned.definition = owners :=
    (Option.some.inj (getElem?_definitions hok howned)).symm
  have hloop : looped.definition = loop :=
    (Option.some.inj (getElem?_definitions hok hlooped)).symm
  refine ⟨hcheck, hok, owned, looped, howned, hlooped, ?_, ?_⟩
  · obtain ⟨j, other, -, hother, hid, hiff⟩ := (hturns 2 owned howned).2.2 "details"
      (by rw [howners]; rfl) (by rw [howners, hcheck]; decide)
    exact hiff.mpr (hempty other (List.mem_of_getElem? hother) hid)
  · have hsent := (hturns 3 looped hlooped).2.1 "loop" (by rw [hloop, hcheck]; decide)
    rwa [hloop] at hsent

end Run

end ApiChain
