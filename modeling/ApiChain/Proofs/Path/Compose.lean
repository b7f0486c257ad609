import Mathlib
import ApiChain.Path.Resolve

/-!
# Paths compose

Following a path and then another one is following the two in a row. What the first finds is a tree,
so the second goes on from each value in it: `Resolved.bind` is that tree with a result grafted on
every value, its undefined slots and the order of its sequences left as they are.

* **`Path.resolve_append`** is the law for steps;
* **`Path.parseChars?_append_dot`**: two written paths with a dot between them are read one after the
  other;
* **`Json.resolve_dot_eq_bind`** joins the two: the law for written paths.
-/

namespace ApiChain

/-! ## Grafting -/

namespace Resolved

mutual

/-- The result with another result in place of each value. -/
def bind (f : Json → Resolved) : Resolved → Resolved
  | .undefined => .undefined
  | .scalar v => f v
  | .sequence slots => .sequence (bindSlots f slots)

/-- The slots with other results in place of their values. -/
def bindSlots (f : Json → Resolved) : List Resolved → List Resolved
  | [] => []
  | r :: rest => bind f r :: bindSlots f rest

end

theorem bindSlots_eq_map (f : Json → Resolved) (slots : List Resolved) :
    bindSlots f slots = slots.map fun r => r.bind f := by
  induction slots with
  | nil => rfl
  | cons r rest ih => rw [bindSlots, ih, List.map_cons]

@[simp] theorem undefined_bind (f : Json → Resolved) : undefined.bind f = .undefined := rfl

@[simp] theorem scalar_bind (v : Json) (f : Json → Resolved) : (scalar v).bind f = f v := rfl

/-- A sequence keeps its slots, in their number and order. -/
@[simp] theorem sequence_bind (slots : List Resolved) (f : Json → Resolved) :
    (sequence slots).bind f = .sequence (slots.map fun r => r.bind f) := by
  rw [bind, bindSlots_eq_map]

end Resolved

/-! ## Steps -/

namespace Path

/-- Steps in a row: the later ones go on from every value that the earlier ones find. -/
theorem resolve_append (p q : Path) (v : Json) :
    resolve (p ++ q) v = (resolve p v).bind (resolve q) := by
  -- on the first path; each of its steps hands on another value, or ends both sides alike
  induction p generalizing v with
  | nil => rfl
  | cons step rest ih =>
    cases step with
    | key name =>
      cases h : v.child? name with
      | none => simp [resolve, h]
      | some w => simpa [resolve, h] using ih w
    | index n =>
      cases h : v.element? n with
      | none => simp [resolve, h]
      | some w => simpa [resolve, h] using ih w
    | broadcast => simp [resolve, ih]

/-! ## Written paths -/

theorem readSegments_append (xs ys : List (List Char)) :
    readSegments (xs ++ ys)
      = (readSegments xs).bind fun p => (readSegments ys).map fun q => p ++ q := by
  induction xs with
  | nil => simp [readSegments]
  | cons x rest ih =>
    rw [List.cons_append, readSegments, readSegments, ih]
    cases readSegment x with
    | none => rfl
    | some steps =>
      cases readSegments rest with
      | none => rfl
      | some p => cases readSegments ys <;> simp

/-- Two written paths with a dot between them are read one after the other. -/
theorem parseChars?_append_dot (s t : List Char) :
    parseChars? (s ++ '.' :: t)
      = (parseChars? s).bind fun p => (parseChars? t).map fun q => p ++ q := by
  rw [parseChars?, Text.splitOn_append_cons, readSegments_append]
  rfl

theorem parse?_append_dot (s t : String) :
    parse? (s ++ "." ++ t) = (parse? s).bind fun p => (parse? t).map fun q => p ++ q := by
  have hjoined : (s ++ "." ++ t).toList = s.toList ++ '.' :: t.toList := by simp
  rw [parse?, hjoined, parseChars?_append_dot]
  rfl

end Path

/-! ## The law for written paths -/

namespace Json

theorem resolve_of_parse? {path : String} {steps : Path} (hne : path ≠ "")
    (h : Path.parse? path = some steps) (v : Json) : v.resolve path = steps.resolve v := by
  rw [resolve, if_neg hne, h]

theorem resolve_of_parse?_none {path : String} (hne : path ≠ "") (h : Path.parse? path = none)
    (v : Json) : v.resolve path = .undefined := by
  rw [resolve, if_neg hne, h]

/-- **Written paths compose.** The path `p.q` finds what `p` finds, with every value in it replaced by
what `q` finds there; undefined slots stay, and sequences keep their length and order. The second
path must be well formed. Where the first is not, neither is the joined one, and both sides are
undefined. -/
theorem resolve_dot_eq_bind (v : Json) (p q : String) (hp : p ≠ "") (hq : q ≠ "")
    (hwell : (Path.parse? q).isSome) :
    v.resolve (p ++ "." ++ q) = (v.resolve p).bind fun w => w.resolve q := by
  have hjoined : p ++ "." ++ q ≠ "" := by simp [String.append_eq_empty_iff]
  obtain ⟨second, hsecond⟩ := Option.isSome_iff_exists.mp hwell
  have hread := Path.parse?_append_dot p q
  cases hfirst : Path.parse? p with
  | none =>
    rw [hfirst, Option.bind_none] at hread
    rw [resolve_of_parse?_none hjoined hread, resolve_of_parse?_none hp hfirst]
    rfl
  | some first =>
    rw [hfirst, hsecond, Option.bind_some, Option.map_some] at hread
    rw [resolve_of_parse? hjoined hread, resolve_of_parse? hp hfirst, Path.resolve_append]
    congr 1
    funext w
    exact (resolve_of_parse? hq hsecond w).symm

/-- Three people: one with two tags, one with none, and one of whom nothing is known. -/
def taggedItems : List Json :=
  [.object [("tags", .array [.object [("name", .string "a")], .object []])],
   .object [("tags", .array [])], .null]

/-- The three people in an envelope. -/
def taggedPeople : Json := .object [("data", .array taggedItems)]

/-- The broadcast over the tags starts the second path. -/
theorem resolve_dot_eq_bind_tags :
    taggedPeople.resolve "data[*].tags.[*].name"
      = .sequence [.sequence [.scalar (.string "a"), .undefined], .sequence [], .undefined] := by
  have hwell : (Path.parse? "[*].name").isSome := by cbv
  have hlaw := resolve_dot_eq_bind taggedPeople "data[*].tags" "[*].name" (by decide) (by decide)
    hwell
  refine hlaw.trans ?_
  cbv

end Json

end ApiChain
