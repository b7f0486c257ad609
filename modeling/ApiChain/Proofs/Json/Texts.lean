import ApiChain.Json.Basic
import Mathlib.Data.List.Basic

/-!
# The texts of a value

The strings that a value holds at any depth, keys apart, and the value with each of them replaced.
Whatever works on a value string by string is `mapTexts` of its work on one string, and what it does to
the value is told by what it does to `texts`.

* **`Json.cases_induction`** goes through a value: the items of an array and the members of an object
  come before the array and the object;
* **`texts_mapTexts`, `mapTexts_mapTexts`, `mapTexts_congr`, `mapTexts_eq_self_iff`** are the laws of
  `mapTexts`.
-/

namespace ApiChain.Json

/-! ## Induction over values -/

theorem sizeOf_item {items : List Json} {j : Json} (h : j ∈ items) :
    sizeOf j < sizeOf (Json.array items) := by
  have hlt := List.sizeOf_lt_of_mem h
  simp only [Json.array.sizeOf_spec]
  omega

theorem sizeOf_member {members : List (String × Json)} {m : String × Json} (h : m ∈ members) :
    sizeOf m.2 < sizeOf (Json.object members) := by
  have hlt := List.sizeOf_lt_of_mem h
  obtain ⟨k, j⟩ := m
  simp only [Json.object.sizeOf_spec, Prod.mk.sizeOf_spec] at hlt ⊢
  omega

theorem cases_induction {motive : Json → Prop} (null : motive .null) (bool : ∀ b, motive (.bool b))
    (number : ∀ n, motive (.number n)) (string : ∀ s, motive (.string s))
    (array : ∀ items, (∀ j ∈ items, motive j) → motive (.array items))
    (object : ∀ members : List (String × Json), (∀ m ∈ members, motive m.2) →
      motive (.object members)) : ∀ j, motive j
  | .null => null
  | .bool b => bool b
  | .number n => number n
  | .string s => string s
  | .array items => array items fun j _ =>
      cases_induction null bool number string array object j
  | .object members => object members fun m _ =>
      cases_induction null bool number string array object m.2
termination_by j => sizeOf j
decreasing_by
  · exact sizeOf_item ‹_›
  · exact sizeOf_member ‹_›

/-! ## Strings, and what replaces them -/

mutual

/-- The value with each of its strings replaced. -/
def mapTexts (f : String → String) : Json → Json
  | .string s => .string (f s)
  | .array items => .array (mapItems f items)
  | .object members => .object (mapMembers f members)
  | .null => .null
  | .bool b => .bool b
  | .number n => .number n

def mapItems (f : String → String) : List Json → List Json
  | [] => []
  | j :: rest => mapTexts f j :: mapItems f rest

def mapMembers (f : String → String) : List (String × Json) → List (String × Json)
  | [] => []
  | (k, j) :: rest => (k, mapTexts f j) :: mapMembers f rest

end

mutual

/-- The strings of a value, in order. -/
def texts : Json → List String
  | .string s => [s]
  | .array items => itemTexts items
  | .object members => memberTexts members
  | .null => []
  | .bool _ => []
  | .number _ => []

def itemTexts : List Json → List String
  | [] => []
  | j :: rest => texts j ++ itemTexts rest

def memberTexts : List (String × Json) → List String
  | [] => []
  | (_, j) :: rest => texts j ++ memberTexts rest

end

theorem mapTexts_array (f : String → String) (items : List Json) :
    (array items).mapTexts f = array (items.map (mapTexts f)) := by
  have hitems : mapItems f items = items.map (mapTexts f) := by
    induction items with
    | nil => rfl
    | cons j rest ih => rw [mapItems, ih, List.map_cons]
  rw [mapTexts, hitems]

theorem mapTexts_object (f : String → String) (members : List (String × Json)) :
    (object members).mapTexts f = object (members.map fun m => (m.1, m.2.mapTexts f)) := by
  have hmembers : mapMembers f members = members.map fun m => (m.1, m.2.mapTexts f) := by
    induction members with
    | nil => rfl
    | cons m rest ih => rw [mapMembers, ih, List.map_cons]
  rw [mapTexts, hmembers]

theorem texts_array (items : List Json) : (array items).texts = items.flatMap texts := by
  rw [texts]
  induction items with
  | nil => rfl
  | cons j rest ih => rw [itemTexts, ih, List.flatMap_cons]

theorem texts_object (members : List (String × Json)) :
    (object members).texts = members.flatMap fun m => m.2.texts := by
  rw [texts]
  induction members with
  | nil => rfl
  | cons m rest ih => rw [memberTexts, ih, List.flatMap_cons]

/-! ## Laws -/

theorem texts_mapTexts (f : String → String) (j : Json) :
    (j.mapTexts f).texts = j.texts.map f := by
  induction j using cases_induction with
  | null => rfl
  | bool b => rfl
  | number n => rfl
  | string s => rfl
  | array items ih =>
    rw [mapTexts_array, texts_array, texts_array, List.flatMap_map, List.map_flatMap]
    exact List.flatMap_congr ih
  | object members ih =>
    rw [mapTexts_object, texts_object, texts_object, List.flatMap_map, List.map_flatMap]
    exact List.flatMap_congr ih

theorem mapTexts_mapTexts (f g : String → String) (j : Json) :
    (j.mapTexts f).mapTexts g = j.mapTexts fun s => g (f s) := by
  induction j using cases_induction with
  | null => rfl
  | bool b => rfl
  | number n => rfl
  | string s => rfl
  | array items ih =>
    rw [mapTexts_array, mapTexts_array, mapTexts_array, List.map_map]
    exact congrArg array (List.map_congr_left ih)
  | object members ih =>
    rw [mapTexts_object, mapTexts_object, mapTexts_object, List.map_map]
    exact congrArg object (List.map_congr_left fun m hm => congrArg (m.1, ·) (ih m hm))

/-- What replaces the strings counts only on the strings that are there. -/
theorem mapTexts_congr {f g : String → String} {j : Json} (h : ∀ s ∈ j.texts, f s = g s) :
    j.mapTexts f = j.mapTexts g := by
  induction j using cases_induction with
  | null => rfl
  | bool b => rfl
  | number n => rfl
  | string s => exact congrArg string (h s (List.mem_singleton_self s))
  | array items ih =>
    rw [texts_array] at h
    rw [mapTexts_array, mapTexts_array]
    refine congrArg array (List.map_congr_left fun j hj => ih j hj fun s hs => ?_)
    exact h s (List.mem_flatMap.mpr ⟨j, hj, hs⟩)
  | object members ih =>
    rw [texts_object] at h
    rw [mapTexts_object, mapTexts_object]
    refine congrArg object (List.map_congr_left fun m hm => congrArg (m.1, ·) (ih m hm fun s hs => ?_))
    exact h s (List.mem_flatMap.mpr ⟨m, hm, hs⟩)

theorem mapTexts_id (j : Json) : (j.mapTexts fun s => s) = j := by
  induction j using cases_induction with
  | null => rfl
  | bool b => rfl
  | number n => rfl
  | string s => rfl
  | array items ih =>
    rw [mapTexts_array, List.map_congr_left ih, List.map_id']
  | object members ih =>
    rw [mapTexts_object, List.map_congr_left fun m hm => congrArg (m.1, ·) (ih m hm), List.map_id']

/-- The value stays as it is exactly if each of its strings does. -/
theorem mapTexts_eq_self_iff {f : String → String} {j : Json} :
    j.mapTexts f = j ↔ ∀ s ∈ j.texts, f s = s := by
  constructor
  · intro heq
    have htexts := texts_mapTexts f j
    rw [heq, eq_comm] at htexts
    exact List.map_inj_left.mp (htexts.trans (List.map_id' _).symm)
  · intro h
    exact (mapTexts_congr h).trans (mapTexts_id j)

end ApiChain.Json
