/-!
# Ordered entries

A list of named entries in the order in which the names first came. Objects, records and stores are
such lists: setting a name that has a place changes the value there, setting a new one adds a place at
the end.
-/

namespace ApiChain

/-- Named entries in the order of their names. -/
abbrev Entries (α : Type) := List (String × α)

namespace Entries

variable {α : Type}

/-- The value at the first place of a name. -/
def get? (es : Entries α) (name : String) : Option α := es.lookup name

/-- Whether the name has a place. -/
def contains (es : Entries α) (name : String) : Bool := es.any fun e => e.1 == name

/-- The names, in order. -/
def names (es : Entries α) : List String := es.map Prod.fst

/-- Gives a name a value: at the name's place if it has one, at the end otherwise. -/
def set : Entries α → String → α → Entries α
  | [], name, value => [(name, value)]
  | (n, v) :: rest, name, value =>
    if n = name then (n, value) :: rest else (n, v) :: set rest name value

/-- The entries of a list in which names may repeat: a name has its first place and its last value. -/
def ofList (es : List (String × α)) : Entries α := es.foldl (fun acc e => set acc e.1 e.2) []

/-- After a name is set, it has the value. -/
theorem get?_set_self (es : Entries α) (name : String) (value : α) :
    get? (set es name value) name = some value := by
  induction es with
  | nil => simp [get?, set]
  | cons e rest ih =>
    obtain ⟨n, v⟩ := e
    by_cases h : n = name
    · simp [get?, set, h]
    · have h' : (name == n) = false := by simp [Ne.symm h]
      simpa [get?, set, h, List.lookup_cons, h'] using ih

/-- Setting a name leaves the values of the others. -/
theorem get?_set_of_ne (es : Entries α) {name other : String} (h : other ≠ name) (value : α) :
    get? (set es name value) other = get? es other := by
  have hb : (other == name) = false := by simp [h]
  induction es with
  | nil => simp [get?, set, List.lookup_cons, hb]
  | cons e rest ih =>
    obtain ⟨n, v⟩ := e
    by_cases hn : n = name
    · subst hn
      simp [get?, set, List.lookup_cons, hb]
    · cases ho : other == n with
      | true => simp [get?, set, hn, List.lookup_cons, ho]
      | false => simpa [get?, set, hn, List.lookup_cons, ho] using ih

/-- A new name goes to the end, a known one keeps its place. -/
theorem names_set (es : Entries α) (name : String) (value : α) :
    names (set es name value)
      = if name ∈ names es then names es else names es ++ [name] := by
  induction es with
  | nil => rfl
  | cons e rest ih =>
    obtain ⟨n, v⟩ := e
    simp only [names] at ih
    by_cases h : n = name
    · simp [names, set, h]
    · by_cases hrest : name ∈ rest.map Prod.fst
      · simp [names, set, h, ih, hrest]
      · simp [names, set, h, ih, hrest, Ne.symm h]

end Entries

end ApiChain
