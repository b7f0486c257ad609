import ApiChain.Proofs.Json.Texts

/-!
# The shape of a value

Two values have one shape if they differ in their strings alone: at every place stand values of one
kind, arrays of one length, objects with the same keys in the same order, and leaves that are no strings
are the same.

* **`shape_mapTexts`**: replacing strings keeps the shape.
-/

namespace ApiChain.Json

/-- What stands at a place of a value, the values below it and the text of a string apart. -/
inductive Node where
  | null
  | bool (b : Bool)
  | number (n : Json.Number)
  | string
  | array (length : Nat)
  | object (keys : List String)
deriving DecidableEq, Repr

def node : Json → Node
  | .null => .null
  | .bool b => .bool b
  | .number n => .number n
  | .string _ => .string
  | .array items => .array items.length
  | .object members => .object (members.map Prod.fst)

/-- The values right below. -/
def children : Json → List Json
  | .array items => items
  | .object members => members.map Prod.snd
  | _ => []

/-- What stands at each place of a value. A place is told by the numbers of the children on the way. -/
def shape (j : Json) : List Nat → Option Node
  | [] => some j.node
  | i :: rest => j.children[i]?.bind fun child => child.shape rest

theorem node_eq_null_iff (j : Json) : j.node = .null ↔ j = .null := by
  cases j <;> simp [node]

/-- A value of the shape of `null` is `null`. -/
theorem eq_null_iff_of_shape {a b : Json} (h : a.shape = b.shape) : a = .null ↔ b = .null := by
  have hnode : a.node = b.node := Option.some.inj (congrFun h [])
  rw [← node_eq_null_iff, hnode, node_eq_null_iff]

/-! ## Replacing strings -/

variable (f : String → String)

theorem node_mapTexts (j : Json) : (j.mapTexts f).node = j.node := by
  cases j with
  | array items => simp [mapTexts_array, node]
  | object members => simp [mapTexts_object, node, Function.comp_def]
  | _ => rfl

theorem children_mapTexts (j : Json) : (j.mapTexts f).children = j.children.map (mapTexts f) := by
  cases j with
  | array items => rw [mapTexts_array, children, children]
  | object members => simp [mapTexts_object, children, Function.comp_def]
  | _ => rfl

theorem shape_mapTexts (j : Json) : (j.mapTexts f).shape = j.shape := by
  funext place
  induction place generalizing j with
  | nil => rw [shape, shape, node_mapTexts]
  | cons i rest ih =>
    rw [shape, shape, children_mapTexts, List.getElem?_map]
    cases j.children[i]? with
    | none => rfl
    | some child => exact ih child

end ApiChain.Json
