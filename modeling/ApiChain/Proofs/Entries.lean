import ApiChain.Proofs.Table.Header
import Mathlib.Data.List.Induction

/-!
# Writes and the entries that they leave

Entries are built by setting names one after the other. A name keeps the place of its first write and
the value of its last, and no write is seen by another name.

* **`getElem?_set_iff`**: setting a name moves and changes no other entry;
* **`names_ofList`, `get?_ofList`**: the places come from the first writes, the values from the last;
* **`filter_ofList`**: what is left under some names comes from the writes to these names alone, so a
  write that is overwritten later counts for nothing but a place (`get?_ofList_overwritten`);
* **`ofList_eq_self`**: entries with distinct names are what writing them leaves.
-/

namespace ApiChain.Entries

variable {α : Type}

/-! ## Names and lookups -/

theorem names_append (es fs : Entries α) : names (es ++ fs) = names es ++ names fs :=
  List.map_append

theorem names_singleton (e : String × α) : names [e] = [e.1] := rfl

theorem names_reverse (es : Entries α) : names es.reverse = (names es).reverse := List.map_reverse

theorem get?_cons (name other : String) (value : α) (es : Entries α) :
    get? ((name, value) :: es) other = if other = name then some value else get? es other := by
  by_cases h : other = name
  · simp [get?, h]
  · have hb : (other == name) = false := by simp [h]
    simp [get?, List.lookup_cons, hb, h]

theorem get?_eq_none_iff {es : Entries α} {name : String} :
    get? es name = none ↔ name ∉ names es := by
  induction es with
  | nil => simp [get?, names]
  | cons e rest ih =>
    obtain ⟨n, v⟩ := e
    rw [get?_cons]
    by_cases h : name = n
    · simp [names, h]
    · simpa [names, h] using ih

theorem get?_append (es fs : Entries α) (name : String) :
    get? (es ++ fs) name = (get? es name).or (get? fs name) := List.lookup_append

theorem get?_map {β : Type} (key : β → String) (value : β → α) (xs : List β) (name : String) :
    get? (xs.map fun x => (key x, value x)) name = (xs.find? fun x => key x = name).map value := by
  induction xs with
  | nil => rfl
  | cons x rest ih =>
    rw [List.map_cons, get?_cons, List.find?_cons]
    by_cases h : name = key x
    · simp [h]
    · simpa [h, Ne.symm h] using ih

theorem contains_eq_isSome (es : Entries α) (name : String) :
    es.contains name = (es.get? name).isSome := by
  induction es with
  | nil => rfl
  | cons e rest ih =>
    obtain ⟨n, v⟩ := e
    rw [get?_cons]
    by_cases h : name = n
    · simp [contains, h]
    · have hb : (n == name) = false := by simp [Ne.symm h]
      rw [contains, List.any_cons, hb, Bool.false_or, if_neg h]
      exact ih

theorem contains_iff {es : Entries α} {name : String} :
    es.contains name = true ↔ name ∈ names es := by
  rw [contains_eq_isSome, Option.isSome_iff_ne_none, Ne, get?_eq_none_iff, not_not]

/-! ## One write -/

theorem get?_set (es : Entries α) (name other : String) (value : α) :
    get? (set es name value) other = if other = name then some value else get? es other := by
  by_cases h : other = name
  · rw [if_pos h, h, get?_set_self]
  · rw [if_neg h, get?_set_of_ne es h]

theorem set_of_notMem {es : Entries α} {name : String} (h : name ∉ names es) (value : α) :
    set es name value = es ++ [(name, value)] := by
  induction es with
  | nil => rfl
  | cons e rest ih =>
    obtain ⟨n, v⟩ := e
    obtain ⟨hne, hrest⟩ : name ≠ n ∧ name ∉ names rest := by simpa [names] using h
    rw [set, if_neg (Ne.symm hne), ih hrest, List.cons_append]

/-- The entry of another name stays where it is, and none comes in. -/
theorem getElem?_set_iff (es : Entries α) {name other : String} (h : other ≠ name) (value v : α)
    (i : Nat) : (set es name value)[i]? = some (other, v) ↔ es[i]? = some (other, v) := by
  induction es generalizing i with
  | nil => cases i <;> simp [set, Ne.symm h]
  | cons e rest ih =>
    obtain ⟨n, w⟩ := e
    by_cases hn : n = name
    · -- the entry that is overwritten is of the name itself
      subst hn
      cases i <;> simp [set, Ne.symm h]
    · rw [set, if_neg hn]
      cases i with
      | zero => rfl
      | succ j => exact ih j

/-- Only a write to one of the chosen names is seen among them. -/
theorem filter_set (p : String → Bool) (es : Entries α) (name : String) (value : α) :
    (set es name value).filter (fun e => p e.1)
      = if p name then set (es.filter fun e => p e.1) name value else es.filter fun e => p e.1 := by
  induction es with
  | nil => cases hp : p name <;> simp [set, hp]
  | cons e rest ih =>
    obtain ⟨n, v⟩ := e
    by_cases hn : n = name
    · subst hn
      cases hp : p n <;> simp [set, hp]
    · rw [set, if_neg hn, List.filter_cons, ih, List.filter_cons]
      cases hp : p name <;> cases hpn : p n <;> simp [set, hn]

theorem mem_set {es : Entries α} {name : String} {value : α} {e : String × α}
    (h : e ∈ set es name value) : e ∈ es ∨ e = (name, value) := by
  induction es with
  | nil => exact .inr (List.mem_singleton.mp h)
  | cons first rest ih =>
    obtain ⟨n, v⟩ := first
    by_cases hn : n = name
    · subst hn
      rw [set, if_pos rfl, List.mem_cons] at h
      exact h.symm.imp_left (List.mem_cons_of_mem _)
    · rw [set, if_neg hn, List.mem_cons] at h
      rcases h with rfl | h
      · exact .inl List.mem_cons_self
      · exact (ih h).imp_left (List.mem_cons_of_mem _)

/-! ## Rows of writes -/

theorem ofList_concat (es : List (String × α)) (e : String × α) :
    ofList (es ++ [e]) = set (ofList es) e.1 e.2 := by
  rw [ofList, List.foldl_append]
  rfl

theorem names_ofList (es : List (String × α)) : names (ofList es) = distinct (names es) := by
  induction es using List.reverseRecOn with
  | nil => rfl
  | append_singleton es e ih =>
    rw [ofList_concat, names_set, ih, names_append, names_singleton, distinct_concat]

theorem nodup_names_ofList (es : List (String × α)) : (names (ofList es)).Nodup := by
  rw [names_ofList]
  exact (firstSeen_distinct _).nodup

theorem mem_of_mem_ofList {es : List (String × α)} {e : String × α} (h : e ∈ ofList es) : e ∈ es := by
  induction es using List.reverseRecOn with
  | nil => exact h
  | append_singleton es last ih =>
    rw [ofList_concat] at h
    rcases mem_set h with h | rfl
    · exact List.mem_append_left _ (ih h)
    · exact List.mem_append_right _ (List.mem_singleton_self _)

theorem get?_ofList (es : List (String × α)) (name : String) :
    get? (ofList es) name = get? es.reverse name := by
  induction es using List.reverseRecOn with
  | nil => rfl
  | append_singleton es e ih => rw [ofList_concat, get?_set, ih, List.reverse_concat, get?_cons]

/-- A write stays if no later one is to its name. -/
theorem get?_ofList_last {before after : List (String × α)} {name : String} {value : α}
    (h : name ∉ names after) : get? (ofList (before ++ (name, value) :: after)) name = some value := by
  have hafter : get? after.reverse name = none := by
    rwa [get?_eq_none_iff, names_reverse, List.mem_reverse]
  rw [get?_ofList, List.reverse_append, List.reverse_cons, List.append_assoc, get?_append, hafter,
    Option.none_or, List.singleton_append, get?_cons, if_pos rfl]

/-- A write is as good as none if a later one is to its name. -/
theorem get?_ofList_overwritten {before after : List (String × α)} {name : String} (value : α)
    (h : name ∈ names after) :
    get? (ofList (before ++ (name, value) :: after)) name = get? (ofList (before ++ after)) name := by
  obtain ⟨last, hlast⟩ : ∃ last, get? after.reverse name = some last := by
    rwa [← Option.ne_none_iff_exists', Ne, get?_eq_none_iff, names_reverse, List.mem_reverse, not_not]
  simp only [get?_ofList, List.reverse_append, List.reverse_cons, List.append_assoc, get?_append,
    hlast, Option.some_or]

theorem filter_ofList (p : String → Bool) (es : List (String × α)) :
    (ofList es).filter (fun e => p e.1) = ofList (es.filter fun e => p e.1) := by
  induction es using List.reverseRecOn with
  | nil => rfl
  | append_singleton es e ih =>
    rw [ofList_concat, filter_set, ih, List.filter_append]
    cases hp : p e.1 with
    | true =>
      have hkept : [e].filter (fun e => p e.1) = [e] := by simp [hp]
      rw [hkept, if_pos rfl, ofList_concat]
    | false =>
      have hdropped : [e].filter (fun e => p e.1) = [] := by simp [hp]
      rw [hdropped, if_neg Bool.false_ne_true, List.append_nil]

theorem ofList_eq_self {es : Entries α} (h : (names es).Nodup) : ofList es = es := by
  induction es using List.reverseRecOn with
  | nil => rfl
  | append_singleton es e ih =>
    obtain ⟨name, value⟩ := e
    rw [names_append, names_singleton, List.nodup_append] at h
    obtain ⟨hes, -, hnew⟩ := h
    have hnotMem : name ∉ names es := fun hmem =>
      hnew name hmem name (List.mem_singleton_self name) rfl
    rw [ofList_concat, ih hes, set_of_notMem hnotMem]

end ApiChain.Entries
