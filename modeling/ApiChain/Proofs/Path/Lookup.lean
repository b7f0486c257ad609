import ApiChain.Proofs.Path.Grammar
import ApiChain.Proofs.Text.Trim

/-!
# Paths as steps and as texts

What the steps of a path find in a value, rule by rule, and which steps a text can write. Such steps
are read back from their written form, so the written path finds what the rules say.

* **`finds_iff`**: following the steps finds what the rules say, and nothing else;
* **`written_render`**: the written form of some steps writes these steps;
* **`read_render_find`** joins the two, with the grammar of what is read.
-/

namespace ApiChain

/-! ## Rules -/

namespace Path

/-- One step leads from a value to another: to the member of an object or the element of an array at
the place that the key writes, or to the element at a place. -/
inductive Leads : Step → Json → Json → Prop
  | member {name : String} {members : Members} {w : Json} :
      Entries.get? members name = some w → Leads (.key name) (.object members) w
  | place {name : String} {n : Nat} {items : List Json} {w : Json} :
      Number.Writes name.toList n → n ≤ Number.maxUnsigned64 → items[n]? = some w →
      Leads (.key name) (.array items) w
  | element {n : Nat} {items : List Json} {w : Json} : items[n]? = some w →
      Leads (.index n) (.array items) w

theorem child?_eq_some_iff {v w : Json} {name : String} :
    v.child? name = some w ↔ Leads (.key name) v w := by
  constructor
  · intro h
    cases v with
    | object members => exact .member h
    | array items =>
      obtain ⟨n, hn, hw⟩ := Option.bind_eq_some_iff.mp h
      obtain ⟨hwrites, hbound⟩ := Number.ofText?_eq_some_iff.mp hn
      exact .place hwrites hbound hw
    | null | bool | number | string => exact absurd h (by simp [Json.child?])
  · rintro (hw | ⟨hwrites, hbound, hw⟩)
    · exact hw
    · rw [Json.child?, Number.ofText?_eq_some_iff.mpr ⟨hwrites, hbound⟩]
      exact hw

theorem element?_eq_some_iff {v w : Json} {n : Nat} :
    v.element? n = some w ↔ Leads (.index n) v w := by
  constructor
  · intro h
    cases v with
    | array items => exact .element h
    | null | bool | number | string | object => exact absurd h (by simp [Json.element?])
  · intro h
    cases h with
    | element hw => exact hw

/-- What steps find in a value. -/
inductive Finds : Path → Json → Resolved → Prop
  /-- Without steps the value itself. -/
  | here {v : Json} : Finds [] v (.scalar v)
  /-- After a step what the others find where it leads. -/
  | after {step : Step} {rest : Path} {v w : Json} {r : Resolved} : Leads step v w →
      Finds rest w r → Finds (step :: rest) v r
  /-- Nothing if the first step leads nowhere. -/
  | miss {step : Step} {rest : Path} {v : Json} : step ≠ .broadcast → (∀ w, ¬ Leads step v w) →
      Finds (step :: rest) v .undefined
  /-- At a broadcast over an array one result for each element, in order. -/
  | each {rest : Path} {items : List Json} {slots : List Resolved} :
      slots.length = items.length →
      (∀ (i : Nat) (v : Json) (r : Resolved), items[i]? = some v → slots[i]? = some r →
        Finds rest v r) →
      Finds (.broadcast :: rest) (.array items) (.sequence slots)
  /-- At a broadcast over any other value one result for it. -/
  | single {rest : Path} {v : Json} {r : Resolved} : (∀ items, v ≠ .array items) →
      Finds rest v r → Finds (.broadcast :: rest) v (.sequence [r])

/-- A step that is no broadcast goes on where it leads, and nowhere else. -/
theorem resolve_cons {step : Step} (hstep : step ≠ .broadcast) (rest : Path) (v : Json) :
    (∃ w, Leads step v w ∧ resolve (step :: rest) v = resolve rest w) ∨
      (∀ w, ¬ Leads step v w) ∧ resolve (step :: rest) v = .undefined := by
  cases step with
  | key name =>
    cases h : v.child? name with
    | some w => exact .inl ⟨w, child?_eq_some_iff.mp h, by simp [resolve, h]⟩
    | none =>
      refine .inr ⟨fun w hw => ?_, by simp [resolve, h]⟩
      rw [child?_eq_some_iff.mpr hw] at h
      exact absurd h (by simp)
  | index n =>
    cases h : v.element? n with
    | some w => exact .inl ⟨w, element?_eq_some_iff.mp h, by simp [resolve, h]⟩
    | none =>
      refine .inr ⟨fun w hw => ?_, by simp [resolve, h]⟩
      rw [element?_eq_some_iff.mpr hw] at h
      exact absurd h (by simp)
  | broadcast => exact absurd rfl hstep

theorem Leads.unique {step : Step} {v w w' : Json} (h : Leads step v w) (h' : Leads step v w') :
    w = w' := by
  cases step with
  | key name =>
    rw [← child?_eq_some_iff] at h h'
    exact Option.some.inj (h.symm.trans h')
  | index n =>
    rw [← element?_eq_some_iff] at h h'
    exact Option.some.inj (h.symm.trans h')
  | broadcast => cases h

theorem elements_of_not_array {v : Json} (h : ∀ items, v ≠ .array items) : v.elements = [v] := by
  cases v with
  | array items => exact absurd rfl (h items)
  | null | bool | number | string | object => rfl

theorem resolve_of_finds {p : Path} {v : Json} {r : Resolved} (h : Finds p v r) :
    resolve p v = r := by
  induction h with
  | here => rfl
  | @after step rest v w r hleads _ ih =>
    have hstep : step ≠ .broadcast := by
      rintro rfl
      cases hleads
    rcases resolve_cons hstep rest v with ⟨w', hleads', hresolve⟩ | ⟨hnone, -⟩
    · rw [hresolve, hleads'.unique hleads, ih]
    · exact absurd hleads (hnone w)
  | @miss step rest v hstep hnone =>
    rcases resolve_cons hstep rest v with ⟨w, hleads, -⟩ | ⟨-, hresolve⟩
    · exact absurd hleads (hnone w)
    · exact hresolve
  | @each rest items slots hlength _ ih =>
    have hslots : items.map (resolve rest) = slots := by
      refine List.ext_getElem (by rw [List.length_map, hlength]) fun i hi hi' => ?_
      rw [List.length_map] at hi
      rw [List.getElem_map]
      exact ih i _ _ (List.getElem?_eq_getElem hi) (List.getElem?_eq_getElem hi')
    rw [resolve, Json.elements, hslots]
  | single hother _ ih => rw [resolve, elements_of_not_array hother, List.map_singleton, ih]

theorem finds_resolve (p : Path) (v : Json) : Finds p v (resolve p v) := by
  induction p generalizing v with
  | nil => exact .here
  | cons step rest ih =>
    by_cases hstep : step = .broadcast
    · subst hstep
      by_cases harray : ∃ items, v = .array items
      · obtain ⟨items, rfl⟩ := harray
        refine .each (List.length_map _) fun i v r hv hr => ?_
        rw [Json.elements, List.getElem?_map, hv, Option.map_some, Option.some.injEq] at hr
        exact hr ▸ ih v
      · have hother : ∀ items, v ≠ .array items := fun items heq => harray ⟨items, heq⟩
        rw [resolve, elements_of_not_array hother, List.map_singleton]
        exact .single hother (ih v)
    · rcases resolve_cons hstep rest v with ⟨w, hleads, hresolve⟩ | ⟨hnone, hresolve⟩
      · rw [hresolve]
        exact .after hleads (ih w)
      · rw [hresolve]
        exact .miss hstep hnone

/-- Following the steps finds what the rules say. -/
theorem finds_iff {p : Path} {v : Json} {r : Resolved} : Finds p v r ↔ resolve p v = r :=
  ⟨resolve_of_finds, fun h => h ▸ finds_resolve p v⟩

/-! ## Steps that a text can write -/

/-- The step is written between dots, as a key. -/
def IsKey (step : Step) : Prop := ∃ name, step = .key name

/-- No key has a dot or an opening bracket in it, every place fits into 64 bits, and an empty key is
followed by a key if by anything: before a bracket it would not be seen. -/
structure Writable (p : Path) : Prop where
  keys : ∀ name, .key name ∈ p → '.' ∉ name.toList ∧ '[' ∉ name.toList
  places : ∀ n, .index n ∈ p → n ≤ Number.maxUnsigned64
  emptyKeys : ∀ step, [.key "", step] <:+: p → IsKey step

theorem Writable.tail {step : Step} {rest : Path} (h : Writable (step :: rest)) : Writable rest where
  keys name hname := h.keys name (List.mem_cons_of_mem step hname)
  places n hn := h.places n (List.mem_cons_of_mem step hn)
  emptyKeys next hnext := h.emptyKeys next (hnext.trans (List.suffix_cons step rest).isInfix)

/-- Steps with a written form of their own. The empty path and the empty key alone are both written as
the empty text, which stands for the value itself. -/
structure Renderable (p : Path) : Prop extends Writable p where
  ne_nil : p ≠ []
  ne_emptyKey : p ≠ [.key ""]

/-- A step that is no key is written as a group. -/
theorem exists_group {step : Step} {rest : Path} (h : Writable (step :: rest))
    (hkey : ¬ IsKey step) :
    ∃ inner, stepText step = '[' :: (inner ++ [']']) ∧ ']' ∉ inner ∧ '.' ∉ inner ∧
      Selects inner step := by
  cases step with
  | key name => exact absurd ⟨name, rfl⟩ hkey
  | index n =>
    have hdigit : ∀ c ∈ Number.decimal n, c.isDigit = true :=
      fun c hc => Nat.isDigit_of_mem_toDigits (by decide) (by decide) hc
    have hnone : ∀ c : Char, c.isDigit = false → c ∉ Number.decimal n := by
      intro c hc hmem
      rw [hdigit c hmem] at hc
      exact absurd hc (by decide)
    refine ⟨Number.decimal n, rfl, hnone ']' (by decide), hnone '.' (by decide), ?_⟩
    refine .index ?_ (h.places n List.mem_cons_self)
    rw [Text.trim_eq_self fun c hc => Text.isBlank_of_isDigit (hdigit c hc)]
    exact Number.writes_decimal n
  | broadcast => exact ⟨['*'], rfl, by decide, by decide, .broadcast rfl⟩

theorem renderRest_cons_of_not_key {step : Step} (hkey : ¬ IsKey step) (rest : Path) :
    renderRest (step :: rest) = stepText step ++ renderRest rest := by
  cases step with
  | key name => exact absurd ⟨name, rfl⟩ hkey
  | index n => rfl
  | broadcast => rfl

/-- A step alone is written as a segment. Only the empty key is written as the empty text. -/
theorem segment_stepText {step : Step} {rest : Path} (h : Writable (step :: rest)) :
    '.' ∉ stepText step ∧ Segment (stepText step) [step] ∧
      (stepText step = [] → ∀ next tail, rest = next :: tail → IsKey next) := by
  by_cases hkey : IsKey step
  · obtain ⟨name, rfl⟩ := hkey
    obtain ⟨hdot, hbracket⟩ := h.keys name List.mem_cons_self
    refine ⟨hdot, ?_, fun hnil next tail htail => ?_⟩
    · have hkeyed := Segment.keyed hbracket .nil (.inr rfl)
      rwa [List.append_nil, String.ofList_toList] at hkeyed
    · have hinfix : [.key name, next] <:+: Step.key name :: rest := ⟨[], tail, by rw [htail]; rfl⟩
      have hname : name = "" := String.toList_injective hnil
      exact h.emptyKeys next (hname ▸ hinfix)
  · obtain ⟨inner, htext, hclosing, hdot, hselects⟩ := exists_group h hkey
    rw [htext]
    exact ⟨by simp [hdot], .bare (by simp) (.group hclosing hselects .nil),
      fun hnil => absurd hnil (by simp)⟩

/-- Behind a segment the remaining steps are written on: groups go on with the segment, and a key ends
it. -/
theorem written_append_renderRest {rest : Path} (hrest : Writable rest) {s : List Char} {p : Path}
    (hdot : '.' ∉ s) (hsegment : Segment s p)
    (hempty : s = [] → ∀ step tail, rest = step :: tail → IsKey step) :
    Written (s ++ renderRest rest) (p ++ rest) := by
  induction rest generalizing s p with
  | nil =>
    rw [renderRest, List.append_nil, List.append_nil]
    exact .last hdot hsegment
  | cons step rest ih =>
    by_cases hkey : IsKey step
    · obtain ⟨name, rfl⟩ := hkey
      obtain ⟨hnamedot, hname, hnext⟩ := segment_stepText hrest
      exact .more hdot hsegment (ih hrest.tail hnamedot hname hnext)
    · have hne : s ≠ [] := fun hnil => hkey (hempty hnil step rest rfl)
      obtain ⟨inner, htext, hclosing, hinnerdot, hselects⟩ := exists_group hrest hkey
      have hgroupdot : '.' ∉ s ++ '[' :: (inner ++ [']']) := by simp [hdot, hinnerdot]
      have hlonger := ih hrest.tail hgroupdot (hsegment.group hne hclosing hselects)
        fun hnil => absurd hnil (by simp)
      have hpath : p ++ step :: rest = p ++ [step] ++ rest := by simp
      rw [renderRest_cons_of_not_key hkey, htext, ← List.append_assoc, hpath]
      exact hlonger

/-- The written form of steps that a text can write writes these steps. -/
theorem written_render {p : Path} (h : Renderable p) : Written (renderChars p) p := by
  cases p with
  | nil => exact absurd rfl h.ne_nil
  | cons step rest =>
    obtain ⟨hdot, hsegment, hnext⟩ := segment_stepText h.toWritable
    exact written_append_renderRest h.tail hdot hsegment hnext

/-- Nothing but the empty path and the empty key alone is written as the empty text. -/
theorem renderChars_ne_nil {p : Path} (h : Renderable p) : renderChars p ≠ [] := by
  intro hnil
  cases p with
  | nil => exact h.ne_nil rfl
  | cons step rest =>
    obtain ⟨hstep, hrest⟩ := List.append_eq_nil_iff.mp hnil
    have hlast : rest = [] := by
      cases rest with
      | nil => rfl
      | cons next tail => cases next <;> simp [renderRest, stepText] at hrest
    cases step with
    | key name =>
      have hname : name = "" := String.toList_injective hstep
      exact h.ne_emptyKey (by rw [hname, hlast])
    | index n => simp [stepText] at hstep
    | broadcast => simp [stepText] at hstep

/-- **Paths are read by their grammar, and followed by the rules.** A text is read as some steps exactly
if it writes them. Steps that a text can write are read back from their written form, and there, in
every value, it finds what the rules say about the steps. -/
theorem read_render_find :
    (∀ (s : String) (steps : Path), parse? s = some steps ↔ Written s.toList steps) ∧
    ∀ p : Path, Renderable p → parse? (render p) = some p ∧
      ∀ (root : Json) (r : Resolved), root.resolve (render p) = r ↔ Finds p root r := by
  have hgrammar : ∀ (s : String) (steps : Path), parse? s = some steps ↔ Written s.toList steps :=
    fun s steps => parseChars?_eq_some_iff
  refine ⟨hgrammar, fun p hp => ?_⟩
  have hchars : (render p).toList = renderChars p := String.toList_ofList
  have hread : parse? (render p) = some p := by
    rw [hgrammar, hchars]
    exact written_render hp
  have hne : render p ≠ "" := by
    intro hempty
    rw [hempty] at hchars
    exact renderChars_ne_nil hp hchars.symm
  refine ⟨hread, fun root r => ?_⟩
  rw [Json.resolve_of_parse? hne hread, finds_iff]

/-- A key with a closing bracket, behind an empty key and two groups. -/
def awkwardPath : Path := [.broadcast, .index 0, .key "", .key "a]", .index 1]

theorem awkwardPath_renderable : Renderable awkwardPath where
  keys name hname := by
    have hcases : name = "" ∨ name = "a]" := by simpa [awkwardPath] using hname
    rcases hcases with rfl | rfl <;> decide
  places n hn := by
    have hcases : n = 0 ∨ n = 1 := by simpa [awkwardPath] using hn
    rcases hcases with rfl | rfl <;> decide
  emptyKeys step hinfix := by
    have hnext : step = .key "a]" := by
      simpa [awkwardPath, List.infix_cons_iff, List.cons_prefix_cons] using hinfix
    exact ⟨"a]", hnext⟩
  ne_nil := by decide
  ne_emptyKey := by decide

/-- A value in which the path finds something in the first slot only. -/
def awkwardRoot : Json :=
  .array [.array [.object [("", .object [("a]", .array [.null, .bool true])])]], .null]

theorem read_render_find_awkward :
    (parse? "[*][0]..a][1]" = some awkwardPath ↔
      Written "[*][0]..a][1]".toList awkwardPath) ∧
    Renderable awkwardPath ∧ parse? (render awkwardPath) = some awkwardPath ∧
      Finds awkwardPath awkwardRoot (.sequence [.scalar (.bool true), .undefined]) := by
  obtain ⟨hgrammar, hpaths⟩ := read_render_find
  obtain ⟨hread, hfind⟩ := hpaths awkwardPath awkwardPath_renderable
  refine ⟨hgrammar _ _, awkwardPath_renderable, hread, (hfind awkwardRoot _).mp ?_⟩
  rw [Json.resolve_of_parse? (by decide) hread]
  rfl

end Path

end ApiChain
