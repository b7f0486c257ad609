import ApiChain.Proofs.Entries
import ApiChain.Store

/-!
# The first payload stays

What storing does to lookups, for one payload and for a row of payloads under one identifier.

* **`get?_insertIfAbsent`**: the old payload wins, and other identifiers are not touched;
* **`names_insertIfAbsent`**: a new identifier goes to the end, a known one changes nothing;
* **`Same`**: stores that differ in the order of their entries alone, which is all that the order of two
  payloads with different identifiers leaves (`same_insertIfAbsent_comm`).
-/

namespace ApiChain.Store

theorem contains_eq_isSome (s : Store) (api : String) : s.contains api = (s.get? api).isSome :=
  s.entries.contains_eq_isSome api

/-- Identifiers with a payload, in the order in which they came. -/
def names (s : Store) : List String := s.entries.names

theorem mem_names (s : Store) (api : String) : api ∈ s.names ↔ s.contains api = true :=
  Entries.contains_iff.symm

theorem insertIfAbsent_known {s : Store} {api : String} (h : s.contains api = true)
    (payload : Json) : s.insertIfAbsent api payload = s := if_pos h

theorem insertIfAbsent_new {s : Store} {api : String} (h : s.contains api = false)
    (payload : Json) : s.insertIfAbsent api payload = ⟨s.entries ++ [(api, payload)]⟩ := by
  rw [insertIfAbsent, h, if_neg Bool.false_ne_true]

/-- A payload is stored only where there is none. -/
theorem get?_insertIfAbsent (s : Store) (api x : String) (payload : Json) :
    (s.insertIfAbsent api payload).get? x
      = (s.get? x).or (if x = api then some payload else none) := by
  cases hc : s.contains api with
  | true =>
    rw [insertIfAbsent_known hc]
    by_cases hx : x = api
    · subst hx
      rw [contains_eq_isSome] at hc
      obtain ⟨old, hold⟩ := Option.isSome_iff_exists.mp hc
      rw [hold, Option.some_or]
    · rw [if_neg hx, Option.or_none]
  | false =>
    rw [insertIfAbsent_new hc, get?, Entries.get?_append, Entries.get?_cons]
    rfl

theorem names_insertIfAbsent (s : Store) (api : String) (payload : Json) :
    (s.insertIfAbsent api payload).names
      = if api ∈ s.names then s.names else s.names ++ [api] := by
  cases hc : s.contains api with
  | true => rw [insertIfAbsent_known hc, if_pos ((mem_names s api).mpr hc)]
  | false =>
    have hn : api ∉ s.names := fun hmem => by simp [(mem_names s api).mp hmem] at hc
    rw [insertIfAbsent_new hc, if_neg hn, names, Entries.names_append]
    rfl

/-! ## Stores with the same entries -/

/-- Two stores have the same entries, in whatever order these came, and no lookup tells the stores
apart. -/
structure Same (s s' : Store) : Prop where
  entries : s.entries.Perm s'.entries
  get? : ∀ api, s.get? api = s'.get? api

namespace Same

theorem refl (s : Store) : Same s s := ⟨.refl _, fun _ => rfl⟩

theorem trans {s s' s'' : Store} (h : Same s s') (h' : Same s' s'') : Same s s'' :=
  ⟨h.entries.trans h'.entries, fun api => (h.get? api).trans (h'.get? api)⟩

theorem contains {s s' : Store} (h : Same s s') (api : String) :
    s.contains api = s'.contains api := by
  rw [contains_eq_isSome, contains_eq_isSome, h.get?]

/-- The same payload stored in both keeps them the same. -/
theorem insertIfAbsent {s s' : Store} (h : Same s s') (api : String) (payload : Json) :
    Same (s.insertIfAbsent api payload) (s'.insertIfAbsent api payload) where
  entries := by
    cases hc : s'.contains api with
    | true =>
      rw [insertIfAbsent_known hc, insertIfAbsent_known ((h.contains api).trans hc)]
      exact h.entries
    | false =>
      rw [insertIfAbsent_new hc, insertIfAbsent_new ((h.contains api).trans hc)]
      exact h.entries.append_right _
  get? x := by rw [get?_insertIfAbsent, get?_insertIfAbsent, h.get?]

end Same

theorem contains_insertIfAbsent_of_ne (s : Store) {api other : String} (h : other ≠ api)
    (payload : Json) : (s.insertIfAbsent api payload).contains other = s.contains other := by
  rw [contains_eq_isSome, contains_eq_isSome, get?_insertIfAbsent, if_neg h, Option.or_none]

/-- Payloads with different identifiers are stored in either order. -/
theorem same_insertIfAbsent_comm (s : Store) {x y : String} (h : x ≠ y) (p q : Json) :
    Same ((s.insertIfAbsent x p).insertIfAbsent y q)
      ((s.insertIfAbsent y q).insertIfAbsent x p) where
  entries := by
    have hx := contains_insertIfAbsent_of_ne s h q
    have hy := contains_insertIfAbsent_of_ne s (Ne.symm h) p
    cases hcx : s.contains x with
    | true => rw [insertIfAbsent_known hcx, insertIfAbsent_known (hx.trans hcx)]
    | false =>
      cases hcy : s.contains y with
      | true => rw [insertIfAbsent_known hcy, insertIfAbsent_known (hy.trans hcy)]
      | false =>
        -- both are new, and only their order at the end differs
        rw [insertIfAbsent_new (hx.trans hcx), insertIfAbsent_new (hy.trans hcy),
          insertIfAbsent_new hcx, insertIfAbsent_new hcy, List.append_assoc, List.append_assoc]
        exact List.Perm.append_left _ (.swap _ _ [])
  get? z := by
    simp only [get?_insertIfAbsent, Option.or_assoc]
    by_cases hx : z = x
    · simp [hx, h]
    · simp [hx]

end ApiChain.Store
